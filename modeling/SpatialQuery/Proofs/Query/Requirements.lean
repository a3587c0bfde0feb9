import SpatialQuery.Proofs.Listing
import SpatialQuery.Proofs.Number
import SpatialQuery.Proofs.Query.Answerable

/-!
# What a query has to meet

A query whose selected layer is loaded can still miss some requirement, in some part of it.  Grounding tells
each requirement that is missed, with the path of the part, and it tells them in the order of the parts.
-/

set_option autoImplicit false

namespace SpatialQuery

/-! ## Filters -/

/-- Some declared type of the field has that word in it. -/
def Layer.IsTyped (layer : Layer) (field word : Text) : Prop :=
  ∃ fieldType, layer.fieldType? field = some fieldType ∧ word.marks <:+: fieldType.marks

/-- True, false, or a number that is worth zero or one. -/
inductive FilterValue.IsTruth : FilterValue → Prop
  | bool (b : Bool) : IsTruth (.one (.bool b))
  | number {n : Number} (worth : n.worth? = some 0 ∨ n.worth? = some 1) : IsTruth (.one (.num n))

def Layer.unknownField (layer : Layer) (field : Text) : Text :=
  "Field \"" ++ field ++ "\" is not queryable on \"" ++ layer.name ++ "\""

inductive FilterCheck where
  | queryable
  | sized
  | truth
deriving DecidableEq

namespace FilterCheck

def rank : FilterCheck → Nat
  | queryable => 0
  | sized => 1
  | truth => 2

def Fails (layer : Layer) (f : AttributeFilter) : FilterCheck → Prop
  | queryable => f.field ∉ layer.queryableFields
  | sized => f.op ∈ [.gt, .gte, .lt, .lte] ∧ ¬ layer.IsTyped f.field "number"
  | truth => f.op = .eq ∧ layer.IsTyped f.field "boolean" ∧ ¬ f.value.IsTruth

def message (layer : Layer) (f : AttributeFilter) : FilterCheck → Text
  | queryable => layer.unknownField f.field
  | sized => "Operator \"" ++ f.op.name ++ "\" requires a numeric field"
  | truth => "Boolean fields require true/false values"

end FilterCheck

/-- A part of a query with what is required of it. -/
inductive Requirement where
  | untimed
  | selectField (index : Nat)
  | filter (index : Nat) (check : FilterCheck)
  | order
  | group (index : Nat)
  | metric (index : Nat)
  | targetLayer (spatial : Nat)
  | targetFilter (spatial index : Nat) (check : FilterCheck)
  | single
  | plain
deriving DecidableEq

namespace Requirement

/-- When the part has its turn. -/
def stage : Requirement → Nat
  | untimed => 0
  | selectField _ => 1
  | filter _ _ => 2
  | order => 3
  | group _ => 4
  | metric _ => 5
  | targetLayer _ | targetFilter _ _ _ => 6
  | single => 7
  | plain => 8

def steps : Requirement → List Nat
  | selectField index | group index | metric index => [index]
  | filter index check => [index, check.rank]
  | targetLayer spatial => [spatial]
  | targetFilter spatial index check => [spatial, index, check.rank]
  | untimed | order | single | plain => []

def rank (r : Requirement) : List Nat := r.stage :: r.steps

theorem stage_lt (r : Requirement) : r.stage < 9 := by
  cases r <;> simp [stage]

theorem rank_lt_of_stage_lt (r s : Requirement) (earlier : r.stage < s.stage) : r.rank < s.rank :=
  .rel earlier

end Requirement

namespace Query

/-- The query misses a requirement, and the issue says so. -/
inductive Misses (registry : Registry) (layer : Layer) (q : Query) : Requirement → Issue → Prop
  | untimed (timed : q.temporal ≠ none) :
      Misses registry layer q .untimed ⟨"temporal", "Temporal queries are not supported yet"⟩
  | selectField {index : Nat} {field : Text} (given : (q.selectFields.getD [])[index]? = some field)
      (unknown : field ∉ layer.queryableFields) :
      Misses registry layer q (.selectField index) ⟨"selectFields." ++ field, layer.unknownField field⟩
  | filter {index : Nat} {f : AttributeFilter} {check : FilterCheck}
      (given : q.attributes[index]? = some f) (fails : check.Fails layer f) :
      Misses registry layer q (.filter index check)
        ⟨"attributeFilters." ++ toString index ++ "." ++ f.field, check.message layer f⟩
  | order {o : OrderBy} (given : q.orderBy = some o) (unknown : o.field ∉ layer.queryableFields) :
      Misses registry layer q .order ⟨"orderBy." ++ o.field, layer.unknownField o.field⟩
  | group {a : Aggregate} {index : Nat} {field : Text} (aggregated : q.aggregate = some a)
      (given : a.groupBy[index]? = some field) (unknown : field ∉ layer.queryableFields) :
      Misses registry layer q (.group index)
        ⟨"aggregate.groupBy." ++ field, layer.unknownField field⟩
  | metric {a : Aggregate} {index : Nat} {m : Metric} (aggregated : q.aggregate = some a)
      (given : a.metrics[index]? = some m) (named : m.field ≠ "*")
      (unknown : m.field ∉ layer.queryableFields) :
      Misses registry layer q (.metric index)
        ⟨"aggregate.metrics." ++ toString index ++ "." ++ m.field, layer.unknownField m.field⟩
  | targetLayer {index : Nat} {s : SpatialFilter} (given : q.spatials[index]? = some s)
      (unloaded : registry.isLoaded s.targetLayer = false) :
      Misses registry layer q (.targetLayer index)
        ⟨"spatialFilters." ++ toString index ++ ".targetLayer",
          "Target layer \"" ++ s.targetLayer ++ "\" is not loaded"⟩
  | targetFilter {spatial index : Nat} {s : SpatialFilter} {f : AttributeFilter} {target : Layer}
      {check : FilterCheck} (outer : q.spatials[spatial]? = some s)
      (found : registry.get? s.targetLayer = some target) (loaded : target.isLoaded = true)
      (inner : s.targets[index]? = some f) (fails : check.Fails target f) :
      Misses registry layer q (.targetFilter spatial index check)
        ⟨"spatialFilters." ++ toString spatial ++ ".targetFilter" ++ "." ++ toString index ++ "." ++
          f.field, check.message target f⟩
  | single (several : 1 < q.nearest.length) :
      Misses registry layer q .single
        ⟨"spatialFilters", "Only one nearest filter is supported per query"⟩
  | plain (nearest : q.nearest ≠ []) (aggregated : q.aggregate ≠ none) :
      Misses registry layer q .plain ⟨"aggregate", "nearest cannot be combined with aggregate"⟩

end Query

/-! ## Types and truth values -/

theorem Text.contains_iff {t part : Text} : t.contains part = true ↔ part.marks <:+: t.marks := by
  unfold contains
  induction t.marks with
  | nil => simp [occursIn]
  | cons m marks ih => rw [occursIn, Bool.or_eq_true, ih, List.isPrefixOf_iff_prefix, List.infix_cons_iff]

namespace Layer

variable {layer : Layer} {field : Text}

theorem isNumeric_iff : layer.isNumeric field = true ↔ layer.IsTyped field "number" := by
  simp only [isNumeric, Option.any_eq_true, Catalog.isNumericType, Text.contains_iff, IsTyped]

theorem isBoolean_iff : layer.isBoolean field = true ↔ layer.IsTyped field "boolean" := by
  simp only [isBoolean, Option.any_eq_true, Catalog.isBooleanType, Text.contains_iff, IsTyped]

end Layer

theorem AttributeOp.isNumeric_iff {op : AttributeOp} :
    op.isNumeric = true ↔ op ∈ [.gt, .gte, .lt, .lte] := by
  cases op <;> simp [isNumeric]

theorem FilterValue.truth?_eq_none_iff {value : FilterValue} :
    value.truth? = none ↔ ¬ value.IsTruth := by
  cases value with
  | many values => exact iff_of_true rfl nofun
  | one scalar =>
    cases scalar with
    | bool b => exact iff_of_false (Option.some_ne_none b) (not_not.mpr (.bool b))
    | str s => exact iff_of_true rfl nofun
    | num n =>
      have truth : (FilterValue.one (.num n)).IsTruth ↔ n.worth? = some 0 ∨ n.worth? = some 1 := by
        constructor
        · intro isTruth
          cases isTruth with
          | number worth => exact worth
        · exact .number
      have isZero := Number.sameValue_int_iff (n := n) (k := 0)
      have isOne := Number.sameValue_int_iff (n := n) (k := 1)
      rw [Int.cast_zero] at isZero
      rw [Int.cast_one] at isOne
      rw [truth, ← isZero, ← isOne, truth?, Scalar.truth?]
      cases n.sameValue (.int 1) <;> cases n.sameValue (.int 0) <;> simp

theorem AttributeFilter.isComparable_iff {layer : Layer} {f : AttributeFilter} :
    f.IsComparable layer ↔
      ¬ FilterCheck.sized.Fails layer f ∧ ¬ FilterCheck.truth.Fails layer f := by
  simp only [FilterCheck.Fails, not_and, not_not, ← AttributeOp.isNumeric_iff, ← Layer.isNumeric_iff,
    ← Layer.isBoolean_iff, ← FilterValue.truth?_eq_none_iff, ← Option.isSome_iff_ne_none]
  constructor
  · exact fun comparable => ⟨comparable.sized, comparable.truth⟩
  · rintro ⟨sized, truth⟩
    exact ⟨sized, truth⟩

/-! ## Issues of the parts -/

section

variable (layer : Layer)

theorem lists_fieldIssues (r : Requirement) (field path : Text) :
    Lists Requirement.rank (fun s issue => s = r ∧ field ∉ layer.queryableFields ∧
      issue = ⟨path, layer.unknownField field⟩) (layer.fieldIssues field path) := by
  refine .whenever r _ (fun unknown => ?_) fun known => ?_
  · rw [Layer.fieldIssues, if_neg (mt List.contains_iff_mem.mp unknown)]
    rfl
  · exact Layer.fieldIssues_eq_nil_iff.mpr (not_not.mp known)

theorem lists_sizeIssues (r : Requirement) (f : AttributeFilter) (path : Text) :
    Lists Requirement.rank (fun s issue => s = r ∧ FilterCheck.sized.Fails layer f ∧
      issue = ⟨path, FilterCheck.sized.message layer f⟩) (layer.sizeIssues f path) := by
  have fails : (f.op.isNumeric && !layer.isNumeric f.field) = true ↔
      FilterCheck.sized.Fails layer f := by
    rw [Bool.and_eq_true, Bool.not_eq_true', ← Bool.not_eq_true, AttributeOp.isNumeric_iff,
      Layer.isNumeric_iff, FilterCheck.Fails]
  refine .whenever r _ (fun failed => ?_) fun passed => ?_
  · rw [Layer.sizeIssues, if_pos (fails.mpr failed)]
    rfl
  · rw [Layer.sizeIssues, if_neg (mt fails.mp passed)]

theorem lists_truthIssues (r : Requirement) (f : AttributeFilter) (path : Text) :
    Lists Requirement.rank (fun s issue => s = r ∧ FilterCheck.truth.Fails layer f ∧
      issue = ⟨path, FilterCheck.truth.message layer f⟩) (layer.truthIssues f path) := by
  have fails : (f.op == .eq && layer.isBoolean f.field && f.value.truth?.isNone) = true ↔
      FilterCheck.truth.Fails layer f := by
    rw [Bool.and_eq_true, Bool.and_eq_true, beq_iff_eq, Layer.isBoolean_iff, Option.isNone_iff_eq_none,
      FilterValue.truth?_eq_none_iff, FilterCheck.Fails, and_assoc]
  refine .whenever r _ (fun failed => ?_) fun passed => ?_
  · rw [Layer.truthIssues, if_pos (fails.mpr failed)]
    rfl
  · rw [Layer.truthIssues, if_neg (mt fails.mp passed)]

theorem lists_checks (requirement : FilterCheck → Requirement)
    (order : ∀ check later, check.rank < later.rank → (requirement check).rank < (requirement later).rank)
    (f : AttributeFilter) (path : Text) :
    Lists Requirement.rank (fun r issue => ∃ check, r = requirement check ∧
        check.Fails layer f ∧ issue = ⟨path, check.message layer f⟩)
      (layer.fieldIssues f.field path ++ layer.sizeIssues f path ++ layer.truthIssues f path) := by
  have queryable := lists_fieldIssues layer (requirement .queryable) f.field path
  have sized := lists_sizeIssues layer (requirement .sized) f path
  have truth := lists_truthIssues layer (requirement .truth) f path
  refine ((queryable.append sized ?_).append truth ?_).congr fun r issue => ?_
  · rintro _ _ _ _ ⟨rfl, _⟩ ⟨rfl, _⟩
    exact order _ _ (by decide)
  · rintro _ _ _ _ (⟨rfl, _⟩ | ⟨rfl, _⟩) ⟨rfl, _⟩ <;> exact order _ _ (by decide)
  · constructor
    · rintro ((told | told) | told)
      · exact ⟨.queryable, told⟩
      · exact ⟨.sized, told⟩
      · exact ⟨.truth, told⟩
    · rintro ⟨check, told⟩
      cases check with
      | queryable => exact .inl (.inl told)
      | sized => exact .inl (.inr told)
      | truth => exact .inr told

theorem filterIssuesFrom_eq_flatMap (path : Text) (filters : List AttributeFilter) (index : Nat) :
    layer.filterIssuesFrom path index filters = (filters.zipIdx index).flatMap fun entry =>
      let here := path ++ "." ++ toString entry.2 ++ "." ++ entry.1.field
      layer.fieldIssues entry.1.field here ++ layer.sizeIssues entry.1 here ++
        layer.truthIssues entry.1 here := by
  induction filters generalizing index with
  | nil => rfl
  | cons f filters ih => rw [List.zipIdx_cons, List.flatMap_cons, ← ih, Layer.filterIssuesFrom]

theorem lists_filterIssues (requirement : Nat → FilterCheck → Requirement)
    (order : ∀ i j check later, i < j → (requirement i check).rank < (requirement j later).rank)
    (checked : ∀ i check later, check.rank < later.rank →
      (requirement i check).rank < (requirement i later).rank)
    (path : Text) (filters : List AttributeFilter) :
    Lists Requirement.rank (fun r issue => ∃ i f, filters[i]? = some f ∧ ∃ check,
        r = requirement i check ∧ check.Fails layer f ∧
        issue = ⟨path ++ "." ++ toString i ++ "." ++ f.field, check.message layer f⟩)
      (layer.filterIssuesFrom path 0 filters) := by
  rw [filterIssuesFrom_eq_flatMap]
  refine .indexed _ ?_ filters fun i f _ => lists_checks layer (requirement i) (checked i) f _
  rintro i j f g _ _ _ _ earlier ⟨check, rfl, _⟩ ⟨later, rfl, _⟩
  exact order i j check later earlier

theorem lists_namedFieldIssues (requirement : Nat → Requirement)
    (order : ∀ i j, i < j → (requirement i).rank < (requirement j).rank) (path : Text)
    (fields : List Text) :
    Lists Requirement.rank (fun r issue => ∃ i field, fields[i]? = some field ∧ r = requirement i ∧
        field ∉ layer.queryableFields ∧ issue = ⟨path ++ "." ++ field, layer.unknownField field⟩)
      (layer.namedFieldIssues path fields) := by
  rw [Layer.namedFieldIssues, ← flatMap_zipIdx]
  refine .indexed _ ?_ fields fun i field _ => lists_fieldIssues layer (requirement i) field _
  rintro i j _ _ _ _ _ _ earlier ⟨rfl, _⟩ ⟨rfl, _⟩
  exact order i j earlier

theorem metricIssuesFrom_eq_flatMap (metrics : List Metric) (index : Nat) :
    layer.metricIssuesFrom index metrics = (metrics.zipIdx index).flatMap fun entry : Metric × Nat =>
      if entry.1.field = "*" then [] else layer.fieldIssues entry.1.field
        ("aggregate.metrics." ++ toString entry.2 ++ "." ++ entry.1.field) := by
  induction metrics generalizing index with
  | nil => rfl
  | cons m metrics ih => rw [List.zipIdx_cons, List.flatMap_cons, ← ih, Layer.metricIssuesFrom]

theorem lists_metricIssues (metrics : List Metric) :
    Lists Requirement.rank (fun r issue => ∃ i, ∃ m : Metric, metrics[i]? = some m ∧ r = .metric i ∧
        (m.field ≠ "*" ∧ m.field ∉ layer.queryableFields) ∧
        issue = ⟨"aggregate.metrics." ++ toString i ++ "." ++ m.field, layer.unknownField m.field⟩)
      (layer.metricIssuesFrom 0 metrics) := by
  have each (i : Nat) (m : Metric) : Lists Requirement.rank (fun r issue => r = .metric i ∧
      (m.field ≠ "*" ∧ m.field ∉ layer.queryableFields) ∧
      issue = ⟨"aggregate.metrics." ++ toString i ++ "." ++ m.field, layer.unknownField m.field⟩)
      (if m.field = "*" then [] else
        layer.fieldIssues m.field ("aggregate.metrics." ++ toString i ++ "." ++ m.field)) := by
    by_cases rows : m.field = ("*" : Text)
    · rw [if_pos rows]
      exact .nothing fun r issue told => told.2.1.1 rows
    · rw [if_neg rows]
      refine (lists_fieldIssues layer (.metric i) m.field _).congr fun r issue => ?_
      rw [and_iff_right rows]
  rw [metricIssuesFrom_eq_flatMap]
  refine .indexed _ ?_ metrics fun i m _ => each i m
  rintro i j _ _ _ _ _ _ earlier ⟨rfl, _⟩ ⟨rfl, _⟩
  exact .cons (.rel earlier)

end

/-! ## Spatial filters -/

section

variable (registry : Registry)

def Registry.spatialIssues (registry : Registry) (index : Nat) (s : SpatialFilter) : List Issue :=
  match registry.get? s.targetLayer with
  | some target =>
    if target.isLoaded then
      target.filterIssuesFrom ("spatialFilters." ++ toString index ++ ".targetFilter") 0 s.targets
    else [Registry.spatialIssuesFrom.notLoaded ("spatialFilters." ++ toString index) s]
  | none => [Registry.spatialIssuesFrom.notLoaded ("spatialFilters." ++ toString index) s]

theorem spatialIssuesFrom_eq_flatMap (filters : List SpatialFilter) (index : Nat) :
    registry.spatialIssuesFrom index filters =
      (filters.zipIdx index).flatMap fun entry => registry.spatialIssues entry.2 entry.1 := by
  induction filters generalizing index with
  | nil => rfl
  | cons s filters ih =>
    rw [List.zipIdx_cons, List.flatMap_cons, ← ih, Registry.spatialIssuesFrom, Registry.spatialIssues]
    cases registry.get? s.targetLayer <;> simp only [Text.ofString_append]

def Registry.MissesAt (registry : Registry) (index : Nat) (s : SpatialFilter) (r : Requirement)
    (issue : Issue) : Prop :=
  r = .targetLayer index ∧ registry.isLoaded s.targetLayer = false ∧
      issue = Registry.spatialIssuesFrom.notLoaded ("spatialFilters." ++ toString index) s ∨
    ∃ target, registry.get? s.targetLayer = some target ∧ target.isLoaded = true ∧
      ∃ j f, s.targets[j]? = some f ∧ ∃ check, r = .targetFilter index j check ∧ check.Fails target f ∧
        issue = ⟨"spatialFilters." ++ toString index ++ ".targetFilter" ++ "." ++ toString j ++ "." ++
          f.field, check.message target f⟩

theorem lists_spatialIssues (index : Nat) (s : SpatialFilter) :
    Lists Requirement.rank (registry.MissesAt index s) (registry.spatialIssues index s) := by
  have unloaded (missing : registry.isLoaded s.targetLayer = false) :
      Lists Requirement.rank (registry.MissesAt index s)
        [Registry.spatialIssuesFrom.notLoaded ("spatialFilters." ++ toString index) s] := by
    refine (Lists.optional (.targetLayer index) (some _)).congr fun r issue => ?_
    constructor
    · rintro ⟨rfl, ⟨⟩⟩
      exact .inl ⟨rfl, missing, rfl⟩
    · rintro (⟨rfl, _, rfl⟩ | ⟨target, found, loaded, _⟩)
      · exact ⟨rfl, rfl⟩
      · rw [Registry.isLoaded, found, Option.any_some, loaded] at missing
        cases missing
  rw [Registry.spatialIssues]
  cases found : registry.get? s.targetLayer with
  | none => exact unloaded (by rw [Registry.isLoaded, found, Option.any_none])
  | some target =>
    by_cases loaded : target.isLoaded = true
    · have filters := lists_filterIssues target (.targetFilter index)
        (fun _ _ _ _ earlier => .cons (.cons (.rel earlier)))
        (fun _ _ _ earlier => .cons (.cons (.cons (.rel earlier))))
        ("spatialFilters." ++ toString index ++ ".targetFilter") s.targets
      dsimp only
      rw [if_pos loaded]
      refine filters.congr fun r issue => ?_
      constructor
      · exact fun told => .inr ⟨target, found, loaded, told⟩
      · rintro (⟨_, missing, _⟩ | ⟨_, same, _, told⟩)
        · rw [Registry.isLoaded, found, Option.any_some, loaded] at missing
          cases missing
        · rw [found] at same
          cases same
          exact told
    · dsimp only
      rw [if_neg loaded]
      refine unloaded ?_
      rw [Registry.isLoaded, found, Option.any_some]
      exact Bool.eq_false_iff.mpr loaded

variable {registry} in
theorem rank_of_missesAt {index : Nat} {s : SpatialFilter} {r : Requirement} {issue : Issue}
    (misses : registry.MissesAt index s r issue) : ∃ more, r.rank = 6 :: index :: more := by
  rcases misses with ⟨rfl, _⟩ | ⟨_, _, _, _, _, _, _, rfl, _⟩ <;> exact ⟨_, rfl⟩

theorem lists_spatialIssuesFrom (filters : List SpatialFilter) :
    Lists Requirement.rank
      (fun r issue => ∃ i s, filters[i]? = some s ∧ registry.MissesAt i s r issue)
      (registry.spatialIssuesFrom 0 filters) := by
  rw [spatialIssuesFrom_eq_flatMap]
  refine .indexed _ ?_ filters fun i s _ => lists_spatialIssues registry i s
  intro i j s t r _ r' _ earlier first second
  obtain ⟨_, rank⟩ := rank_of_missesAt first
  obtain ⟨_, rank'⟩ := rank_of_missesAt second
  rw [rank, rank']
  exact .cons (.rel earlier)

end

/-! ## The whole query -/

namespace Query

variable {registry : Registry} {layer : Layer} {q : Query}

theorem primaryIssues_eq : q.primaryIssues layer =
    layer.namedFieldIssues "selectFields" (q.selectFields.getD []) ++
      layer.filterIssuesFrom "attributeFilters" 0 q.attributes ++
      q.orderBy.elim [] (fun o => layer.fieldIssues o.field ("orderBy" ++ "." ++ o.field)) ++
      q.aggregate.elim [] (fun a => layer.namedFieldIssues "aggregate.groupBy" a.groupBy) ++
      q.aggregate.elim [] (fun a => layer.metricIssuesFrom 0 a.metrics) := by
  unfold primaryIssues
  cases q.orderBy <;> cases q.aggregate <;> simp [Layer.namedFieldIssues]

def MissesAt (registry : Registry) (layer : Layer) (q : Query) (stage : Nat) (r : Requirement)
    (issue : Issue) : Prop :=
  r.stage = stage ∧ q.Misses registry layer r issue

theorem lists_temporalIssues :
    Lists Requirement.rank (q.MissesAt registry layer 0) q.temporalIssues := by
  have told : Lists Requirement.rank (fun r issue => r = .untimed ∧ q.temporal ≠ none ∧
      issue = ⟨"temporal", "Temporal queries are not supported yet"⟩) q.temporalIssues := by
    refine .whenever _ _ (fun timed => ?_) fun untimed => ?_
    · rw [temporalIssues, if_pos (Option.isSome_iff_ne_none.mpr timed)]
    · exact temporalIssues_eq_nil_iff.mpr (not_not.mp untimed)
  refine told.congr fun r issue => ⟨?_, ?_⟩
  · rintro ⟨rfl, timed, rfl⟩
    exact ⟨rfl, .untimed timed⟩
  · rintro ⟨stage, misses⟩
    cases misses with
    | untimed timed => exact ⟨rfl, timed, rfl⟩
    | _ => cases stage

theorem lists_selectFieldIssues : Lists Requirement.rank (q.MissesAt registry layer 1)
    (layer.namedFieldIssues "selectFields" (q.selectFields.getD [])) := by
  have told := lists_namedFieldIssues layer .selectField
    (fun _ _ earlier => .cons (.rel earlier)) "selectFields" (q.selectFields.getD [])
  refine told.congr fun r issue => ⟨?_, ?_⟩
  · rintro ⟨i, field, given, rfl, unknown, rfl⟩
    exact ⟨rfl, .selectField given unknown⟩
  · rintro ⟨stage, misses⟩
    cases misses with
    | selectField given unknown => exact ⟨_, _, given, rfl, unknown, rfl⟩
    | _ => cases stage

theorem lists_attributeIssues : Lists Requirement.rank (q.MissesAt registry layer 2)
    (layer.filterIssuesFrom "attributeFilters" 0 q.attributes) := by
  have told := lists_filterIssues layer .filter (fun _ _ _ _ earlier => .cons (.rel earlier))
    (fun _ _ _ earlier => .cons (.cons (.rel earlier))) "attributeFilters" q.attributes
  refine told.congr fun r issue => ⟨?_, ?_⟩
  · rintro ⟨i, f, given, check, rfl, fails, rfl⟩
    exact ⟨rfl, .filter given fails⟩
  · rintro ⟨stage, misses⟩
    cases misses with
    | filter given fails => exact ⟨_, _, given, _, rfl, fails, rfl⟩
    | _ => cases stage

theorem lists_orderIssues : Lists Requirement.rank (q.MissesAt registry layer 3)
    (q.orderBy.elim [] fun o => layer.fieldIssues o.field ("orderBy" ++ "." ++ o.field)) := by
  have told := Lists.ofOption fun (o : OrderBy) (_ : q.orderBy = some o) =>
    lists_fieldIssues layer .order o.field ("orderBy" ++ "." ++ o.field)
  refine told.congr fun r issue => ⟨?_, ?_⟩
  · rintro ⟨o, given, rfl, unknown, rfl⟩
    exact ⟨rfl, .order given unknown⟩
  · rintro ⟨stage, misses⟩
    cases misses with
    | order given unknown => exact ⟨_, given, rfl, unknown, rfl⟩
    | _ => cases stage

theorem lists_groupIssues : Lists Requirement.rank (q.MissesAt registry layer 4)
    (q.aggregate.elim [] fun a => layer.namedFieldIssues "aggregate.groupBy" a.groupBy) := by
  have told := Lists.ofOption fun (a : Aggregate) (_ : q.aggregate = some a) =>
    lists_namedFieldIssues layer .group (fun _ _ earlier => .cons (.rel earlier)) "aggregate.groupBy"
      a.groupBy
  refine told.congr fun r issue => ⟨?_, ?_⟩
  · rintro ⟨a, aggregated, i, field, given, rfl, unknown, rfl⟩
    exact ⟨rfl, .group aggregated given unknown⟩
  · rintro ⟨stage, misses⟩
    cases misses with
    | group aggregated given unknown => exact ⟨_, aggregated, _, _, given, rfl, unknown, rfl⟩
    | _ => cases stage

theorem lists_aggregateMetricIssues : Lists Requirement.rank (q.MissesAt registry layer 5)
    (q.aggregate.elim [] fun a => layer.metricIssuesFrom 0 a.metrics) := by
  have told := Lists.ofOption fun (a : Aggregate) (_ : q.aggregate = some a) =>
    lists_metricIssues layer a.metrics
  refine told.congr fun r issue => ⟨?_, ?_⟩
  · rintro ⟨a, aggregated, i, m, given, rfl, ⟨named, unknown⟩, rfl⟩
    exact ⟨rfl, .metric aggregated given named unknown⟩
  · rintro ⟨stage, misses⟩
    cases misses with
    | metric aggregated given named unknown =>
      exact ⟨_, aggregated, _, _, given, rfl, ⟨named, unknown⟩, rfl⟩
    | _ => cases stage

theorem lists_spatialFilterIssues : Lists Requirement.rank (q.MissesAt registry layer 6)
    (registry.spatialIssuesFrom 0 q.spatials) := by
  refine (lists_spatialIssuesFrom registry q.spatials).congr fun r issue => ⟨?_, ?_⟩
  · rintro ⟨i, s, given, ⟨rfl, unloaded, rfl⟩ |
      ⟨target, found, loaded, j, f, inner, check, rfl, fails, rfl⟩⟩
    · exact ⟨rfl, .targetLayer given unloaded⟩
    · exact ⟨rfl, .targetFilter given found loaded inner fails⟩
  · rintro ⟨stage, misses⟩
    cases misses with
    | targetLayer given unloaded => exact ⟨_, _, given, .inl ⟨rfl, unloaded, rfl⟩⟩
    | targetFilter outer found loaded inner fails =>
      exact ⟨_, _, outer, .inr ⟨_, found, loaded, _, _, inner, _, rfl, fails, rfl⟩⟩
    | _ => cases stage

theorem lists_singleIssues : Lists Requirement.rank (q.MissesAt registry layer 7)
    (if 1 < q.nearest.length then
      [⟨"spatialFilters", "Only one nearest filter is supported per query"⟩] else []) := by
  have told : Lists Requirement.rank (fun r (issue : Issue) => r = .single ∧ 1 < q.nearest.length ∧
      issue = ⟨"spatialFilters", "Only one nearest filter is supported per query"⟩)
      (if 1 < q.nearest.length then
        [⟨"spatialFilters", "Only one nearest filter is supported per query"⟩] else []) :=
    .whenever _ _ (fun several => if_pos several) fun one => if_neg one
  refine told.congr fun r issue => ⟨?_, ?_⟩
  · rintro ⟨rfl, several, rfl⟩
    exact ⟨rfl, .single several⟩
  · rintro ⟨stage, misses⟩
    cases misses with
    | single several => exact ⟨rfl, several, rfl⟩
    | _ => cases stage

theorem lists_plainIssues : Lists Requirement.rank (q.MissesAt registry layer 8)
    (if !q.nearest.isEmpty && q.aggregate.isSome then
      [⟨"aggregate", "nearest cannot be combined with aggregate"⟩] else []) := by
  have both : (!q.nearest.isEmpty && q.aggregate.isSome) = true ↔
      q.nearest ≠ [] ∧ q.aggregate ≠ none := by
    rw [Bool.and_eq_true, Bool.not_eq_true', List.isEmpty_eq_false_iff, Option.isSome_iff_ne_none]
  have told : Lists Requirement.rank (fun r (issue : Issue) => r = .plain ∧
      (q.nearest ≠ [] ∧ q.aggregate ≠ none) ∧
      issue = ⟨"aggregate", "nearest cannot be combined with aggregate"⟩)
      (if !q.nearest.isEmpty && q.aggregate.isSome then
        [⟨"aggregate", "nearest cannot be combined with aggregate"⟩] else []) :=
    .whenever _ _ (fun combined => if_pos (both.mpr combined)) fun apart => if_neg (mt both.mp apart)
  refine told.congr fun r issue => ⟨?_, ?_⟩
  · rintro ⟨rfl, ⟨nearest, aggregated⟩, rfl⟩
    exact ⟨rfl, .plain nearest aggregated⟩
  · rintro ⟨stage, misses⟩
    cases misses with
    | plain nearest aggregated => exact ⟨rfl, ⟨nearest, aggregated⟩, rfl⟩
    | _ => cases stage

theorem lists_misses : Lists Requirement.rank (q.Misses registry layer)
    (q.temporalIssues ++ q.primaryIssues layer ++ registry.spatialIssuesFrom 0 q.spatials ++
      q.nearestIssues) := by
  have staged := Requirement.rank_lt_of_stage_lt
  have start : Lists Requirement.rank
      (fun r issue => r.stage < 0 ∧ q.Misses registry layer r issue) [] :=
    .nothing fun r _ told => Nat.not_lt_zero r.stage told.1
  have all := start.next staged lists_temporalIssues
    |>.next staged lists_selectFieldIssues
    |>.next staged lists_attributeIssues
    |>.next staged lists_orderIssues
    |>.next staged lists_groupIssues
    |>.next staged lists_aggregateMetricIssues
    |>.next staged lists_spatialFilterIssues
    |>.next staged lists_singleIssues
    |>.next staged lists_plainIssues
  simp only [primaryIssues_eq, nearestIssues, List.append_assoc, List.nil_append] at all ⊢
  refine all.congr fun r issue => and_iff_right ?_
  exact Requirement.stage_lt r

/-- Grounding accepts just the queries that the loaded data can answer, where filters are comparable that
pass the checks of types.  Of any other query it tells the selected layer when that is not loaded, and
otherwise each requirement that is missed, once and in order. -/
theorem grounding_tells_each_requirement (registry : Registry) (q : Query) :
    (q.groundingIssues registry = [] ↔
      ∃ layer, registry.get? q.selectLayer = some layer ∧ q.IsAnswerable registry layer) ∧
    (∀ (layer : Layer) (f : AttributeFilter), f.IsComparable layer ↔
      ¬ FilterCheck.sized.Fails layer f ∧ ¬ FilterCheck.truth.Fails layer f) ∧
    (registry.isLoaded q.selectLayer = false ∧ q.groundingIssues registry =
        [⟨"selectLayer", "Layer \"" ++ q.selectLayer ++ "\" is not loaded"⟩] ∨
      ∃ layer, registry.get? q.selectLayer = some layer ∧ layer.isLoaded = true ∧
        Lists Requirement.rank (q.Misses registry layer) (q.groundingIssues registry)) := by
  refine ⟨groundingIssues_eq_nil_iff, fun _ _ => AttributeFilter.isComparable_iff, ?_⟩
  unfold groundingIssues
  rw [Registry.isLoaded]
  cases found : registry.get? q.selectLayer with
  | none => exact .inl ⟨rfl, rfl⟩
  | some layer =>
    by_cases loaded : layer.isLoaded = true
    · dsimp only
      rw [if_pos loaded]
      exact .inr ⟨layer, rfl, loaded, lists_misses⟩
    · dsimp only
      rw [if_neg loaded]
      exact .inl ⟨Bool.eq_false_iff.mpr loaded, rfl⟩

/-- An unknown field, a text that is compared by size, and a target that is not loaded. -/
example : groundingIssues
    { ofLayer "parcels" with
      selectFields := some ["zoning", "geom"]
      attributeFilters := some [⟨"zoning", .gt, .one (.num (.int 5))⟩]
      spatialFilters := some [⟨.within, "flood_zones", some [⟨"x", .eq, .one (.bool true)⟩], none, none⟩] }
    (.ofLayers [⟨"parcels", "Polygon", [("zoning", "string")], ["zoning"], ["zoning"], [], true, none,
      none, none⟩] .null) = [
    ⟨"selectFields.geom", "Field \"geom\" is not queryable on \"parcels\""⟩,
    ⟨"attributeFilters.0.zoning", "Operator \"gt\" requires a numeric field"⟩,
    ⟨"spatialFilters.0.targetLayer", "Target layer \"flood_zones\" is not loaded"⟩] := by
  decide +kernel

end Query

end SpatialQuery
