import Mathlib.Data.List.Forall2
import Mathlib.Data.Option.Basic
import SpatialQuery.Proofs.Listing
import SpatialQuery.Proofs.Query.Planned

/-!
# Rewriting filters where they stand

A query has filters of its own layer, and filters of the targets of its spatial filters.  Normalizing looks
at each where it stands: at a filter that its rule refuses there is an issue; when no filter is refused, each
one becomes what its rule makes of it, and nothing else changes.
-/

set_option autoImplicit false

namespace SpatialQuery

/-- Where a filter stands in a query: at an index of the selected layer's filters, or at an index of the
target's filters of the spatial filter at another index. -/
inductive FilterPlace where
  | selected (index : Nat)
  | target (spatial index : Nat)
deriving DecidableEq

namespace FilterPlace

def rank : FilterPlace → List Nat
  | selected index => [0, index]
  | target spatial index => [1, spatial, index]

def index : FilterPlace → Nat
  | selected index => index
  | target _ index => index

def listPath : FilterPlace → Text
  | selected _ => "attributeFilters"
  | target spatial _ => "spatialFilters." ++ toString spatial ++ ".targetFilter"

def path (place : FilterPlace) (field : Text) : Text :=
  place.listPath ++ "." ++ toString place.index ++ "." ++ field

end FilterPlace

namespace FilterRules

variable {rules : FilterRules} {layer : Text} {f g : AttributeFilter}

/-- What a filter of the layer becomes, with the note on it. -/
inductive Becomes (rules : FilterRules) (layer : Text) (f : AttributeFilter) :
    AttributeFilter → Option Text → Prop
  | kept (noRule : Assoc.get? (layer, f.field) rules = none) : Becomes rules layer f f none
  | replaced {rule : FilterRule} {g : AttributeFilter} {note : Option Text}
      (found : Assoc.get? (layer, f.field) rules = some rule) (applied : rule f = .ok (g, note)) :
      Becomes rules layer f g note

def Refuses (rules : FilterRules) (layer : Text) (f : AttributeFilter) (reason : Text) : Prop :=
  ∃ rule, Assoc.get? (layer, f.field) rules = some rule ∧ rule f = .error reason

theorem apply_eq_ok_iff {note : Option Text} :
    rules.apply layer f = .ok (g, note) ↔ rules.Becomes layer f g note := by
  unfold apply
  constructor
  · intro applied
    split at applied
    · rename_i noRule
      cases applied
      exact .kept noRule
    · rename_i rule found
      exact .replaced found applied
  · rintro (noRule | ⟨found, applied⟩)
    · rw [noRule]
    · rw [found]
      exact applied

theorem apply_eq_error_iff {reason : Text} :
    rules.apply layer f = .error reason ↔ rules.Refuses layer f reason := by
  unfold apply Refuses
  cases Assoc.get? (layer, f.field) rules with
  | none => simp
  | some rule => simp

theorem becomes_replacement {note : Option Text} (applied : rules.apply layer f = .ok (g, note)) :
    rules.Becomes layer f (rules.replacement layer f) note := by
  rw [replacement, applied]
  exact apply_eq_ok_iff.mp applied

def issue? (rules : FilterRules) (place : FilterPlace) (layer : Text) (f : AttributeFilter) :
    Option Issue :=
  match rules.apply layer f with
  | .ok _ => none
  | .error reason => some ⟨place.path f.field, reason⟩

theorem issue?_eq_some_iff {place : FilterPlace} {issue : Issue} :
    rules.issue? place layer f = some issue ↔
      ∃ reason, rules.Refuses layer f reason ∧ issue = ⟨place.path f.field, reason⟩ := by
  simp only [← apply_eq_error_iff, issue?]
  cases rules.apply layer f with
  | ok result => simp
  | error reason => simp [eq_comm]

theorem note?_eq_some_iff {note : Text} :
    rules.note? layer f = some note ↔ (∃ g, rules.Becomes layer f g (some note)) ∧ note ≠ "" := by
  simp only [← apply_eq_ok_iff, note?]
  cases rules.apply layer f with
  | error reason => simp
  | ok result =>
    obtain ⟨g, _ | said⟩ := result
    · simp
    · by_cases empty : said = ""
      · simp +contextual [empty, eq_comm]
      · simp only [if_neg empty, Option.some.injEq, Except.ok.injEq, Prod.mk.injEq]
        constructor
        · rintro rfl
          exact ⟨⟨g, rfl, rfl⟩, empty⟩
        · rintro ⟨⟨_, _, same⟩, _⟩
          exact same

end FilterRules

namespace Query

def filterAt? (q : Query) : FilterPlace → Option (Text × AttributeFilter)
  | .selected index => q.attributes[index]?.map (q.selectLayer, ·)
  | .target spatial index =>
    q.spatials[spatial]?.bind fun s => s.targets[index]?.map (s.targetLayer, ·)

theorem filterAt?_selected_eq_some_iff {q : Query} {index : Nat} {layer : Text} {f : AttributeFilter} :
    q.filterAt? (.selected index) = some (layer, f) ↔
      q.attributes[index]? = some f ∧ q.selectLayer = layer := by
  rw [filterAt?, Option.map_eq_some_iff]
  constructor
  · rintro ⟨_, found, ⟨⟩⟩
    exact ⟨found, rfl⟩
  · rintro ⟨found, rfl⟩
    exact ⟨f, found, rfl⟩

theorem filterAt?_target_eq_some_iff {q : Query} {spatial index : Nat} {layer : Text}
    {f : AttributeFilter} : q.filterAt? (.target spatial index) = some (layer, f) ↔
      ∃ s, q.spatials[spatial]? = some s ∧ s.targets[index]? = some f ∧ s.targetLayer = layer := by
  simp only [filterAt?, Option.bind_eq_some_iff, Option.map_eq_some_iff]
  constructor
  · rintro ⟨s, outer, _, found, ⟨⟩⟩
    exact ⟨s, outer, found, rfl⟩
  · rintro ⟨s, outer, found, rfl⟩
    exact ⟨s, outer, f, found, rfl⟩

/-- The filter at the place is refused, and the issue says why. -/
def Refused (rules : FilterRules) (q : Query) (place : FilterPlace) (issue : Issue) : Prop :=
  ∃ layer f reason, q.filterAt? place = some (layer, f) ∧ rules.Refuses layer f reason ∧
    issue = ⟨place.path f.field, reason⟩

def Noted (rules : FilterRules) (q : Query) (place : FilterPlace) (note : Text) : Prop :=
  ∃ layer f g, q.filterAt? place = some (layer, f) ∧ rules.Becomes layer f g (some note) ∧ note ≠ ""

/-- Each filter became what its rule makes of it, in its place, and the rest is as it was. -/
structure IsRewritten (rules : FilterRules) (q normal : Query) : Prop where
  attributes : Option.Rel (List.Forall₂ fun f g => ∃ note, rules.Becomes q.selectLayer f g note)
    q.attributeFilters normal.attributeFilters
  spatials : Option.Rel (List.Forall₂ fun s t =>
      Option.Rel (List.Forall₂ fun f g => ∃ note, rules.Becomes s.targetLayer f g note)
        s.targetFilter t.targetFilter ∧ { t with targetFilter := s.targetFilter } = s)
    q.spatialFilters normal.spatialFilters
  rest : { normal with
    attributeFilters := q.attributeFilters, spatialFilters := q.spatialFilters } = q

/-! ## What is said about filters -/

section

variable {α : Type} (said : FilterPlace → Text → AttributeFilter → Option α)

/-- What is said about each filter, the filters of the selected layer first. -/
def collected (q : Query) : List α :=
  (q.attributes.zipIdx.flatMap fun entry =>
    (said (.selected entry.2) q.selectLayer entry.1).toList) ++
  q.spatials.zipIdx.flatMap fun outer =>
    outer.1.targets.zipIdx.flatMap fun entry =>
      (said (.target outer.2 entry.2) outer.1.targetLayer entry.1).toList

theorem lists_collected (q : Query) : Lists FilterPlace.rank
    (fun place a => ∃ layer f, q.filterAt? place = some (layer, f) ∧ said place layer f = some a)
    (q.collected said) := by
  have attributes : Lists FilterPlace.rank _ _ := Lists.indexed
    (fun i f place a => place = .selected i ∧ said (.selected i) q.selectLayer f = some a)
    (by
      rintro i j f g _ a _ b earlier ⟨rfl, _⟩ ⟨rfl, _⟩
      exact .cons (.rel earlier))
    q.attributes fun i f _ => Lists.optional _ _
  have targets (i : Nat) (s : SpatialFilter) : Lists FilterPlace.rank _ _ := Lists.indexed
    (fun j f place a => place = .target i j ∧ said (.target i j) s.targetLayer f = some a)
    (by
      rintro j k f g _ a _ b earlier ⟨rfl, _⟩ ⟨rfl, _⟩
      exact .cons (.cons (.rel earlier)))
    s.targets fun j f _ => Lists.optional _ _
  have spatials : Lists FilterPlace.rank _ _ := Lists.indexed _
    (by
      rintro i j s t _ a _ b earlier ⟨k, f, _, rfl, _⟩ ⟨l, g, _, rfl, _⟩
      exact .cons (.rel earlier))
    q.spatials fun i s _ => targets i s
  refine (attributes.append spatials ?_).congr fun place a => ?_
  · rintro _ a _ b ⟨i, f, _, rfl, _⟩ ⟨j, s, _, k, g, _, rfl, _⟩
    exact .rel Nat.one_pos
  · cases place with
    | selected i =>
      simp only [filterAt?_selected_eq_some_iff]
      constructor
      · rintro (⟨_, f, found, ⟨⟩, told⟩ | ⟨_, _, _, _, _, _, ⟨⟩, _⟩)
        exact ⟨_, f, ⟨found, rfl⟩, told⟩
      · rintro ⟨_, f, ⟨found, rfl⟩, told⟩
        exact .inl ⟨i, f, found, rfl, told⟩
    | target i j =>
      simp only [filterAt?_target_eq_some_iff]
      constructor
      · rintro (⟨_, _, _, ⟨⟩, _⟩ | ⟨_, s, outer, _, f, found, ⟨⟩, told⟩)
        exact ⟨_, f, ⟨s, outer, found, rfl⟩, told⟩
      · rintro ⟨_, f, ⟨s, outer, found, rfl⟩, told⟩
        exact .inr ⟨i, s, outer, j, f, found, rfl, told⟩

end

end Query

/-! ## Issues and notes -/

namespace FilterRules

variable {rules : FilterRules}

theorem issuesFrom_eq_flatMap (rules : FilterRules) (layer path : Text) (place : Nat → FilterPlace)
    (listed : ∀ i, (place i).listPath = path) (indexed : ∀ i, (place i).index = i)
    (filters : List AttributeFilter) (index : Nat) :
    rules.issuesFrom layer path index filters = (filters.zipIdx index).flatMap fun entry =>
      (rules.issue? (place entry.2) layer entry.1).toList := by
  induction filters generalizing index with
  | nil => rfl
  | cons f filters ih =>
    rw [List.zipIdx_cons, List.flatMap_cons, ← ih, issuesFrom, issue?, FilterPlace.path, listed, indexed]
    cases rules.apply layer f with
    | ok result => rfl
    | error reason => rfl

theorem spatialIssuesFrom_eq_flatMap (filters : List SpatialFilter) (index : Nat) :
    rules.spatialIssuesFrom index filters = (filters.zipIdx index).flatMap fun outer =>
      outer.1.targets.zipIdx.flatMap fun entry =>
        (rules.issue? (.target outer.2 entry.2) outer.1.targetLayer entry.1).toList := by
  induction filters generalizing index with
  | nil => rfl
  | cons s filters ih =>
    have targets := issuesFrom_eq_flatMap rules s.targetLayer
      ("spatialFilters." ++ toString index ++ ".targetFilter") (.target index)
      (fun _ => rfl) (fun _ => rfl) s.targets 0
    rw [List.zipIdx_cons, List.flatMap_cons, ← ih, spatialIssuesFrom, targets]

theorem notes_eq_flatMap (layer : Text) (filters : List AttributeFilter) :
    rules.notes layer filters =
      filters.zipIdx.flatMap fun entry => (rules.note? layer entry.1).toList := by
  rw [flatMap_zipIdx fun f => (rules.note? layer f).toList, notes, List.filterMap_eq_flatMap_toList]

end FilterRules

namespace Query

variable {rules : FilterRules}

theorem ruleIssues_eq_collected (q : Query) : q.ruleIssues rules = q.collected rules.issue? := by
  have attributes := FilterRules.issuesFrom_eq_flatMap rules q.selectLayer "attributeFilters" .selected
    (fun _ => rfl) (fun _ => rfl) q.attributes 0
  rw [ruleIssues, collected, FilterRules.spatialIssuesFrom_eq_flatMap, attributes]

theorem ruleNotes_eq_collected (q : Query) :
    q.ruleNotes rules = q.collected fun _ => rules.note? := by
  simp only [ruleNotes, collected, FilterRules.notes_eq_flatMap]
  rw [flatMap_zipIdx fun s : SpatialFilter => s.targets.zipIdx.flatMap fun entry =>
    (rules.note? s.targetLayer entry.1).toList]

theorem lists_ruleIssues (rules : FilterRules) (q : Query) :
    Lists FilterPlace.rank (q.Refused rules) (q.ruleIssues rules) := by
  rw [ruleIssues_eq_collected]
  refine (lists_collected rules.issue? q).congr fun place issue => ?_
  simp only [FilterRules.issue?_eq_some_iff, Refused, exists_and_left]

theorem lists_ruleNotes (rules : FilterRules) (q : Query) :
    Lists FilterPlace.rank (q.Noted rules) (q.ruleNotes rules) := by
  rw [ruleNotes_eq_collected]
  refine (lists_collected (fun _ => rules.note?) q).congr fun place note => ?_
  simp only [FilterRules.note?_eq_some_iff, Noted, exists_and_left, exists_and_right]

/-! ## What becomes of the filters -/

theorem rel_map_replacement {layer : Text} {given : Option (List AttributeFilter)}
    (accepted : ∀ f ∈ given.getD [], ∃ g note, rules.apply layer f = .ok (g, note)) :
    Option.Rel (List.Forall₂ fun f g => ∃ note, rules.Becomes layer f g note)
      given (given.map fun filters => filters.map (rules.replacement layer)) := by
  cases given with
  | none => exact .none
  | some filters =>
    refine .some (List.forall₂_map_right_iff.mpr (List.forall₂_same.mpr fun f member => ?_))
    obtain ⟨g, note, applied⟩ := accepted f member
    exact ⟨note, FilterRules.becomes_replacement applied⟩

theorem isRewritten_normalized {q : Query} (accepted : q.ruleIssues rules = []) :
    q.IsRewritten rules (q.normalized rules) := by
  obtain ⟨attributes, spatials⟩ := List.append_eq_nil_iff.mp accepted
  rw [FilterRules.issuesFrom_eq_nil_iff] at attributes
  rw [FilterRules.spatialIssuesFrom_eq_nil_iff] at spatials
  refine ⟨rel_map_replacement attributes, ?_, rfl⟩
  rw [normalized]
  cases given : q.spatialFilters with
  | none => exact .none
  | some filters =>
    refine .some (List.forall₂_map_right_iff.mpr (List.forall₂_same.mpr fun s member => ?_))
    rw [Query.spatials, given] at spatials
    exact ⟨rel_map_replacement (spatials s member), rfl⟩

/-- A query is refused for its refused filters, each once and in order, or each of its filters is rewritten
once, in its place, and nothing else. -/
theorem normalization_is_pointwise (rules : FilterRules) (q : Query) :
    ((∃ place issue, q.Refused rules place issue) ∧ ∃ issues, q.normalize rules = .error issues ∧
      Lists FilterPlace.rank (q.Refused rules) issues) ∨
    (∀ place issue, ¬ q.Refused rules place issue) ∧ ∃ normal notes,
      q.normalize rules = .ok (normal, notes) ∧ q.IsRewritten rules normal ∧
      Lists FilterPlace.rank (q.Noted rules) notes := by
  have lists := lists_ruleIssues rules q
  by_cases accepted : q.ruleIssues rules = []
  · refine .inr ⟨lists.eq_nil_iff.mp accepted, q.normalized rules, q.ruleNotes rules, ?_,
      isRewritten_normalized accepted, lists_ruleNotes rules q⟩
    rw [normalize, accepted]
  · refine .inl ⟨?_, q.ruleIssues rules, ?_, lists⟩
    · simpa [lists.eq_nil_iff] using accepted
    · rw [normalize]
      split
      · contradiction
      · rfl

/-- Asking for what is not residential is refused, among the target's filters as among the layer's. -/
example : normalize FilterRules.builtIn
    { ofLayer "zoning_districts" with
      attributeFilters := some [⟨"allows_residential", .eq, .one (.bool false)⟩]
      spatialFilters := some [⟨.intersects, "zoning_districts",
        some [⟨"zone_name", .like, .one (.str "R%")⟩, ⟨"allows_residential", .eq, .one (.bool false)⟩],
        none, none⟩] } = .error [
    ⟨"attributeFilters.0.allows_residential",
      "zoning_districts.allows_residential=false is not currently supported"⟩,
    ⟨"spatialFilters.0.targetFilter.1.allows_residential",
      "zoning_districts.allows_residential=false is not currently supported"⟩] := by
  decide +kernel

end Query

end SpatialQuery
