import SpatialQuery.Assoc
import SpatialQuery.Issue
import SpatialQuery.Query.Basic

/-!
# Replacing concept fields

Some fields of a layer are concepts that no table has.  A rule says how a filter by such a field is
said in columns, or why it cannot be.  Rules belong to a field of a layer; they apply to the filters of
the selected layer and to the filters of the targets of spatial relations alike.  Each filter is
replaced at most once.
-/

set_option autoImplicit false

namespace SpatialQuery

/-- A replacement with a note for the reader, or the reason why there is none. -/
abbrev FilterRule := AttributeFilter → Except Text (AttributeFilter × Option Text)

abbrev FilterRules := List ((Text × Text) × FilterRule)

namespace FilterRules

/-- Asking for true becomes asking for a code that starts in the given way.  Asking for false would be
another set than the codes that start otherwise. -/
def codeStart (layer field start : Text) : FilterRule := fun f =>
  match f.op, f.value.truth? with
  | .eq, some true =>
    .ok (⟨"zone_code", .like, .one (.str (start ++ "%"))⟩,
      some ("Mapped " ++ field ++ "=true to zone_code LIKE " ++ start ++ "%"))
  | .eq, some false => .error (layer ++ "." ++ field ++ "=false is not currently supported")
  | _, _ => .error (layer ++ "." ++ field ++ " only supports eq true/false")

def renamed (field note : Text) : FilterRule := fun f => .ok ({ f with field }, some note)

def builtIn : FilterRules := [
  (("zoning_districts", "allows_residential"),
    codeStart "zoning_districts" "allows_residential" "R"),
  (("zoning_districts", "allows_commercial"),
    codeStart "zoning_districts" "allows_commercial" "C"),
  (("zoning_districts", "description"),
    renamed "zone_name" "Mapped zoning description to zone_name")]

def apply (rules : FilterRules) (layer : Text) : FilterRule := fun f =>
  match Assoc.get? (layer, f.field) rules with
  | none => .ok (f, none)
  | some rule => rule f

def replacement (rules : FilterRules) (layer : Text) (f : AttributeFilter) : AttributeFilter :=
  match rules.apply layer f with
  | .ok (g, _) => g
  | .error _ => f

def note? (rules : FilterRules) (layer : Text) (f : AttributeFilter) : Option Text :=
  match rules.apply layer f with
  | .ok (_, some note) => if note = "" then none else some note
  | _ => none

def notes (rules : FilterRules) (layer : Text) (filters : List AttributeFilter) : List Text :=
  filters.filterMap (rules.note? layer)

def issuesFrom (rules : FilterRules) (layer path : Text) :
    Nat → List AttributeFilter → List Issue
  | _, [] => []
  | index, f :: rest =>
    match rules.apply layer f with
    | .ok _ => issuesFrom rules layer path (index + 1) rest
    | .error reason =>
      ⟨path ++ "." ++ toString index ++ "." ++ f.field, reason⟩ ::
        issuesFrom rules layer path (index + 1) rest

def spatialIssuesFrom (rules : FilterRules) : Nat → List SpatialFilter → List Issue
  | _, [] => []
  | index, s :: rest =>
    rules.issuesFrom s.targetLayer ("spatialFilters." ++ toString index ++ ".targetFilter") 0
        s.targets ++
      spatialIssuesFrom rules (index + 1) rest

end FilterRules

def SpatialFilter.normalized (rules : FilterRules) (s : SpatialFilter) : SpatialFilter :=
  { s with targetFilter := s.targetFilter.map fun filters =>
      filters.map (rules.replacement s.targetLayer) }

namespace Query

/-- Everything that the rules refuse: first among the filters of the selected layer, then among the
targets of the spatial filters. -/
def ruleIssues (rules : FilterRules) (q : Query) : List Issue :=
  rules.issuesFrom q.selectLayer "attributeFilters" 0 q.attributes ++
    rules.spatialIssuesFrom 0 q.spatials

def ruleNotes (rules : FilterRules) (q : Query) : List Text :=
  rules.notes q.selectLayer q.attributes ++
    q.spatials.flatMap fun s => rules.notes s.targetLayer s.targets

def normalized (rules : FilterRules) (q : Query) : Query :=
  { q with
    attributeFilters := q.attributeFilters.map fun filters =>
      filters.map (rules.replacement q.selectLayer)
    spatialFilters := q.spatialFilters.map fun filters =>
      filters.map (SpatialFilter.normalized rules) }

/-- The query in terms of columns together with the notes, or every filter that cannot be said so. -/
def normalize (rules : FilterRules) (q : Query) : Except (List Issue) (Query × List Text) :=
  match q.ruleIssues rules with
  | [] => .ok (q.normalized rules, q.ruleNotes rules)
  | issues => .error issues

end Query

end SpatialQuery
