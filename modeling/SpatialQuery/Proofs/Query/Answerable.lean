import SpatialQuery.Query.Grounding

/-!
# Queries without issues

Grounding finds nothing wrong with a query exactly when the loaded data can answer it: the layers are
loaded, every name is queryable on its layer, the types of the fields allow the comparisons, and the
combination of parts is one that is supported.
-/

set_option autoImplicit false

namespace SpatialQuery

/-- The types of the declared fields allow the comparison. -/
structure AttributeFilter.IsComparable (layer : Layer) (f : AttributeFilter) : Prop where
  sized : f.op.isNumeric = true → layer.isNumeric f.field = true
  truth : f.op = .eq → layer.isBoolean f.field = true → f.value.truth?.isSome = true

def SpatialFilter.IsGrounded (registry : Registry) (s : SpatialFilter) : Prop :=
  ∃ target, registry.get? s.targetLayer = some target ∧
    ∀ f ∈ s.targets, f.field ∈ target.queryableFields

def SpatialFilter.IsAnswerable (registry : Registry) (s : SpatialFilter) : Prop :=
  ∃ target, registry.get? s.targetLayer = some target ∧ target.isLoaded = true ∧
    ∀ f ∈ s.targets, f.field ∈ target.queryableFields ∧ f.IsComparable target

namespace Query

structure IsGrounded (registry : Registry) (layer : Layer) (q : Query) : Prop where
  fields : ∀ field ∈ q.selectFields.getD [], field ∈ layer.queryableFields
  attributes : ∀ f ∈ q.attributes, f.field ∈ layer.queryableFields
  order : ∀ o ∈ q.orderBy, o.field ∈ layer.queryableFields
  groups : ∀ aggregate ∈ q.aggregate, ∀ field ∈ aggregate.groupBy, field ∈ layer.queryableFields
  metrics : ∀ aggregate ∈ q.aggregate, ∀ m ∈ aggregate.metrics, m.field ≠ "*" →
    m.field ∈ layer.queryableFields
  spatials : ∀ s ∈ q.spatials, s.IsGrounded registry
  single : q.nearest.length ≤ 1
  plain : q.nearest ≠ [] → q.aggregate = none

structure IsAnswerable (registry : Registry) (layer : Layer) (q : Query) : Prop extends
    q.IsGrounded registry layer where
  loaded : layer.isLoaded = true
  untimed : q.temporal = none
  comparable : ∀ f ∈ q.attributes, f.IsComparable layer
  targets : ∀ s ∈ q.spatials, s.IsAnswerable registry

end Query

theorem SpatialFilter.IsAnswerable.isGrounded {registry : Registry} {s : SpatialFilter}
    (answerable : s.IsAnswerable registry) : s.IsGrounded registry := by
  obtain ⟨target, found, _, filters⟩ := answerable
  exact ⟨target, found, fun f member => (filters f member).1⟩

namespace Layer

variable {layer : Layer} {path : Text}

theorem fieldIssues_eq_nil_iff {field : Text} :
    layer.fieldIssues field path = [] ↔ field ∈ layer.queryableFields := by
  unfold fieldIssues
  by_cases queryable : layer.queryableFields.contains field = true
  · simp only [queryable, if_true, List.contains_iff_mem.mp queryable]
  · rw [if_neg queryable]
    simpa using queryable

theorem sizeIssues_eq_nil_iff {f : AttributeFilter} :
    layer.sizeIssues f path = [] ↔ (f.op.isNumeric = true → layer.isNumeric f.field = true) := by
  unfold sizeIssues
  cases f.op.isNumeric <;> cases layer.isNumeric f.field <;> simp

theorem truthIssues_eq_nil_iff {f : AttributeFilter} :
    layer.truthIssues f path = [] ↔
      (f.op = .eq → layer.isBoolean f.field = true → f.value.truth?.isSome = true) := by
  unfold truthIssues
  by_cases equality : f.op = .eq
  · cases layer.isBoolean f.field <;> cases f.value.truth? <;> simp [equality]
  · simp [equality]

theorem filterIssuesFrom_eq_nil_iff {filters : List AttributeFilter} {index : Nat} :
    layer.filterIssuesFrom path index filters = [] ↔
      ∀ f ∈ filters, f.field ∈ layer.queryableFields ∧ f.IsComparable layer := by
  induction filters generalizing index with
  | nil => simp [filterIssuesFrom]
  | cons f rest ih =>
    simp only [filterIssuesFrom, List.append_eq_nil_iff, fieldIssues_eq_nil_iff,
      sizeIssues_eq_nil_iff, truthIssues_eq_nil_iff, ih, List.forall_mem_cons]
    constructor
    · rintro ⟨⟨⟨queryable, sized⟩, truth⟩, others⟩
      exact ⟨⟨queryable, sized, truth⟩, others⟩
    · rintro ⟨⟨queryable, sized, truth⟩, others⟩
      exact ⟨⟨⟨queryable, sized⟩, truth⟩, others⟩

theorem namedFieldIssues_eq_nil_iff {fields : List Text} :
    layer.namedFieldIssues path fields = [] ↔ ∀ field ∈ fields, field ∈ layer.queryableFields := by
  simp only [namedFieldIssues, List.flatMap_eq_nil_iff, fieldIssues_eq_nil_iff]

theorem metricIssuesFrom_eq_nil_iff {metrics : List Metric} {index : Nat} :
    layer.metricIssuesFrom index metrics = [] ↔
      ∀ m ∈ metrics, m.field ≠ "*" → m.field ∈ layer.queryableFields := by
  induction metrics generalizing index with
  | nil => simp [metricIssuesFrom]
  | cons m rest ih =>
    simp only [metricIssuesFrom, List.append_eq_nil_iff, ih, List.forall_mem_cons]
    refine and_congr_left fun _ => ?_
    by_cases rows : m.field = "*"
    · simp [rows]
    · simp only [rows, if_false, fieldIssues_eq_nil_iff, ne_eq, not_false_eq_true, true_imp_iff]

end Layer

theorem Registry.spatialIssuesFrom_eq_nil_iff {registry : Registry} {filters : List SpatialFilter}
    {index : Nat} : registry.spatialIssuesFrom index filters = [] ↔
      ∀ s ∈ filters, s.IsAnswerable registry := by
  induction filters generalizing index with
  | nil => simp [spatialIssuesFrom]
  | cons s rest ih =>
    simp only [spatialIssuesFrom, List.append_eq_nil_iff, ih, List.forall_mem_cons]
    refine and_congr_left fun _ => ?_
    unfold SpatialFilter.IsAnswerable
    cases found : registry.get? s.targetLayer with
    | none => simp
    | some target =>
      by_cases loaded : target.isLoaded = true
      · simp [loaded, Layer.filterIssuesFrom_eq_nil_iff]
      · simp [loaded]

namespace Query

variable {q : Query}

theorem temporalIssues_eq_nil_iff : q.temporalIssues = [] ↔ q.temporal = none := by
  unfold temporalIssues
  cases q.temporal <;> simp

theorem nearestIssues_eq_nil_iff :
    q.nearestIssues = [] ↔ q.nearest.length ≤ 1 ∧ (q.nearest ≠ [] → q.aggregate = none) := by
  unfold nearestIssues
  rw [List.append_eq_nil_iff]
  refine and_congr ?_ ?_
  · by_cases several : 1 < q.nearest.length
    · simp only [several, if_true, List.cons_ne_nil, false_iff]
      omega
    · simp only [several, if_false, true_iff]
      omega
  · cases q.nearest <;> cases q.aggregate <;> simp

theorem primaryIssues_eq_nil_iff {layer : Layer} : q.primaryIssues layer = [] ↔
    (∀ field ∈ q.selectFields.getD [], field ∈ layer.queryableFields) ∧
      (∀ f ∈ q.attributes, f.field ∈ layer.queryableFields ∧ f.IsComparable layer) ∧
      (∀ o ∈ q.orderBy, o.field ∈ layer.queryableFields) ∧
      ∀ aggregate ∈ q.aggregate, (∀ field ∈ aggregate.groupBy, field ∈ layer.queryableFields) ∧
        ∀ m ∈ aggregate.metrics, m.field ≠ "*" → m.field ∈ layer.queryableFields := by
  simp only [primaryIssues, List.append_eq_nil_iff, Layer.namedFieldIssues_eq_nil_iff,
    Layer.filterIssuesFrom_eq_nil_iff, and_assoc]
  refine and_congr_right fun _ => and_congr_right fun _ => and_congr ?_ ?_
  · cases q.orderBy <;> simp [Layer.namedFieldIssues_eq_nil_iff]
  · cases q.aggregate <;>
      simp [Layer.namedFieldIssues_eq_nil_iff, Layer.metricIssuesFrom_eq_nil_iff]

theorem groundingIssues_eq_nil_iff {registry : Registry} : q.groundingIssues registry = [] ↔
    ∃ layer, registry.get? q.selectLayer = some layer ∧ q.IsAnswerable registry layer := by
  unfold groundingIssues
  cases found : registry.get? q.selectLayer with
  | none => simp
  | some layer =>
    by_cases loaded : layer.isLoaded = true
    · simp only [loaded, if_true, List.append_eq_nil_iff, temporalIssues_eq_nil_iff,
        primaryIssues_eq_nil_iff, Registry.spatialIssuesFrom_eq_nil_iff, nearestIssues_eq_nil_iff,
        Option.some.injEq, exists_eq_left']
      constructor
      · rintro ⟨⟨⟨untimed, fields, attributes, order, aggregate⟩, spatials⟩, single, plain⟩
        exact {
          fields, order, single, plain, loaded, untimed
          attributes := fun f member => (attributes f member).1
          groups := fun a given => (aggregate a given).1
          metrics := fun a given => (aggregate a given).2
          spatials := fun s member => (spatials s member).isGrounded
          comparable := fun f member => (attributes f member).2
          targets := spatials }
      · intro answerable
        refine ⟨⟨⟨answerable.untimed, answerable.fields, ?_, answerable.order, ?_⟩,
          answerable.targets⟩, answerable.single, answerable.plain⟩
        · exact fun f member => ⟨answerable.attributes f member, answerable.comparable f member⟩
        · exact fun a given => ⟨answerable.groups a given, answerable.metrics a given⟩
    · simp only [loaded, Bool.false_eq_true, if_false, List.cons_ne_nil, Option.some.injEq,
        exists_eq_left', false_iff]
      exact fun answerable => loaded answerable.loaded

end Query

end SpatialQuery
