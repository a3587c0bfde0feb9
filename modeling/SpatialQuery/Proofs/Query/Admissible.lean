import SpatialQuery.Proofs.Query.WellFormed
import SpatialQuery.Query.Limit

/-!
# Admissible queries

Everything that the shape of a query asks of its parts: names that are names, positive distances and
numbers, times within their range, and what well-formed filters have.  A query that was accepted is
admissible, and it remains so when its concept fields are replaced and when it is bounded.
-/

set_option autoImplicit false

namespace SpatialQuery

structure Text.IsName (t : Text) : Prop where
  nonEmpty : t ≠ ""
  ordinary : t.toString?.isSome = true

structure AttributeFilter.Admissible (f : AttributeFilter) : Prop extends f.WellFormed where
  field : f.field.IsName

structure SpatialFilter.Admissible (s : SpatialFilter) : Prop extends s.WellFormed where
  targetLayer : s.targetLayer.IsName
  filters : ∀ f ∈ s.targets, f.Admissible
  distance : ∀ d ∈ s.distance, d.le (.int 0) = false
  limit : ∀ k ∈ s.limit, 0 < k

structure Metric.Admissible (m : Metric) : Prop where
  field : m.field.IsName
  name : ∀ t ∈ m.name, t.IsName

structure Aggregate.Admissible (a : Aggregate) : Prop where
  grouped : a.groupBy ≠ []
  groups : ∀ t ∈ a.groupBy, t.IsName
  measured : a.metrics ≠ []
  metrics : ∀ m ∈ a.metrics, m.Admissible

def TimeRef.Admissible : TimeRef → Prop
  | .year n => 1900 ≤ n ∧ n ≤ 2100
  | .date text => Shape.isDateText text = true

structure Temporal.Admissible (t : Temporal) : Prop where
  baseline : t.baseline.Admissible
  comparison : t.comparison.Admissible
  metric : t.metric.IsName

structure Query.Admissible (q : Query) : Prop where
  selectLayer : q.selectLayer.IsName
  selectFields : ∀ t ∈ q.selectFields.getD [], t.IsName
  attributes : ∀ f ∈ q.attributes, f.Admissible
  spatials : ∀ s ∈ q.spatials, s.Admissible
  aggregate : ∀ a ∈ q.aggregate, a.Admissible
  temporal : ∀ t ∈ q.temporal, t.Admissible
  limit : ∀ k ∈ q.limit, 0 < k
  orderBy : ∀ o ∈ q.orderBy, o.field.IsName

theorem Query.Admissible.wellFormed {q : Query} (admissible : q.Admissible) : q.WellFormed :=
  ⟨fun f member => (admissible.attributes f member).toWellFormed,
    fun s member => (admissible.spatials s member).toWellFormed⟩

/-! ## Accepted queries -/

namespace Shape

open Checked

variable {α : Type}

theorem optional_each {members : List (Text × Json)} {key spelling : Text} {rule : Rule α}
    {value : Option α} (accepted : optional members key spelling rule = .ok value) :
    ∀ a ∈ value, ∃ j, rule j = .ok a := by
  rintro a rfl
  exact optional_ok accepted

theorem optional_list_each {members : List (Text × Json)} {key spelling : Text} {item : Rule α}
    {value : Option (List α)} (accepted : optional members key spelling (list item) = .ok value) :
    ∀ a ∈ value.getD [], ∃ j, item j = .ok a := by
  cases value with
  | none => simp
  | some items =>
    obtain ⟨j, listed⟩ := optional_ok accepted
    exact list_ok listed

theorem nonEmptyList_ok {item : Rule α} {j : Json} {results : List α}
    (accepted : nonEmptyList item j = .ok results) :
    results ≠ [] ∧ ∀ a ∈ results, ∃ c, item c = .ok a := by
  cases j with
  | arr items =>
    cases items with
    | nil => cases accepted
    | cons first rest =>
      change list item (.arr (first :: rest)) = .ok results at accepted
      refine ⟨?_, list_ok accepted⟩
      rintro rfl
      obtain ⟨_, _, prepended, _, same⟩ := ap_ok_iff.mp accepted
      obtain ⟨_, _, rfl⟩ := map_ok_iff.mp prepended
      cases same
  | _ => cases accepted

theorem name_ok {j : Json} {t : Text} (accepted : name j = .ok t) : t.IsName := by
  obtain ⟨_, sound⟩ := ensure_ok_iff.mp accepted
  split at sound
  · cases sound
  · rename_i nonEmpty
    refine ⟨nonEmpty, ?_⟩
    unfold surrogateFault? at sound
    cases ordinary : t.toString? with
    | none => simp [ordinary] at sound
    | some s => rfl

theorem positive_ok {j : Json} {n : Int} (accepted : positive j = .ok n) : 0 < n := by
  obtain ⟨_, sound⟩ := ensure_ok_iff.mp accepted
  split at sound
  · assumption
  · cases sound

theorem distance_ok {j : Json} {d : Number} (accepted : distance j = .ok d) :
    d.le (.int 0) = false := by
  cases j with
  | num n =>
    simp only [distance] at accepted
    split at accepted
    · cases accepted
    · rename_i notPositive
      cases accepted
      exact eq_false_of_ne_true notPositive
  | _ => cases accepted

theorem attributeFilter_admissible {j : Json} {f : AttributeFilter}
    (accepted : attributeFilter j = .ok f) : f.Admissible := by
  refine ⟨attributeFilter_ok accepted, ?_⟩
  obtain ⟨members, parts⟩ := record_ok accepted
  obtain ⟨built, _⟩ := ensure_ok_iff.mp parts
  obtain ⟨_, value, beforeValue, _, rfl⟩ := ap_ok_iff.mp built
  obtain ⟨_, op, beforeOp, _, rfl⟩ := ap_ok_iff.mp beforeValue
  obtain ⟨field, named, rfl⟩ := map_ok_iff.mp beforeOp
  obtain ⟨_, named⟩ := required_ok named
  exact name_ok named

theorem spatialFilter_admissible {j : Json} {s : SpatialFilter}
    (accepted : spatialFilter j = .ok s) : s.Admissible := by
  have wellFormed := spatialFilter_ok accepted
  obtain ⟨members, parts⟩ := record_ok accepted
  obtain ⟨built, _⟩ := ensure_ok_iff.mp parts
  obtain ⟨_, limit, beforeLimit, bounded, rfl⟩ := ap_ok_iff.mp built
  obtain ⟨_, distance, beforeDistance, measured, rfl⟩ := ap_ok_iff.mp beforeLimit
  obtain ⟨_, filters, beforeFilters, filtered, rfl⟩ := ap_ok_iff.mp beforeDistance
  obtain ⟨_, target, beforeTarget, named, rfl⟩ := ap_ok_iff.mp beforeFilters
  obtain ⟨op, _, rfl⟩ := map_ok_iff.mp beforeTarget
  obtain ⟨_, named⟩ := required_ok named
  refine ⟨wellFormed, name_ok named, ?_, ?_, ?_⟩
  · intro f member
    obtain ⟨_, ruled⟩ := optional_list_each filtered f member
    exact attributeFilter_admissible ruled
  · intro d given
    obtain ⟨_, ruled⟩ := optional_each measured d given
    exact distance_ok ruled
  · intro k given
    obtain ⟨_, ruled⟩ := optional_each bounded k given
    exact positive_ok ruled

theorem metric_admissible {j : Json} {m : Metric} (accepted : metric j = .ok m) :
    m.Admissible := by
  obtain ⟨members, built⟩ := record_ok accepted
  obtain ⟨_, alias_, beforeAlias, aliased, rfl⟩ := ap_ok_iff.mp built
  obtain ⟨_, op, beforeOp, _, rfl⟩ := ap_ok_iff.mp beforeAlias
  obtain ⟨field, named, rfl⟩ := map_ok_iff.mp beforeOp
  obtain ⟨_, named⟩ := required_ok named
  refine ⟨name_ok named, fun t given => ?_⟩
  obtain ⟨_, ruled⟩ := optional_each aliased t given
  exact name_ok ruled

theorem aggregate_admissible {j : Json} {a : Aggregate} (accepted : aggregate j = .ok a) :
    a.Admissible := by
  obtain ⟨members, built⟩ := record_ok accepted
  obtain ⟨_, metrics, beforeMetrics, measured, rfl⟩ := ap_ok_iff.mp built
  obtain ⟨groups, grouped, rfl⟩ := map_ok_iff.mp beforeMetrics
  obtain ⟨_, grouped⟩ := required_ok grouped
  obtain ⟨_, measured⟩ := required_ok measured
  obtain ⟨someGroup, named⟩ := nonEmptyList_ok grouped
  obtain ⟨someMetric, ruled⟩ := nonEmptyList_ok measured
  refine ⟨someGroup, fun t member => ?_, someMetric, fun m member => ?_⟩
  · obtain ⟨_, ruled⟩ := named t member
    exact name_ok ruled
  · obtain ⟨_, ruled⟩ := ruled m member
    exact metric_admissible ruled

theorem yearRef_admissible {j : Json} {ref : TimeRef} (accepted : yearRef j = .ok ref) :
    ref.Admissible := by
  obtain ⟨members, built⟩ := record_ok accepted
  obtain ⟨n, stated, rfl⟩ := map_ok_iff.mp built
  obtain ⟨_, ruled⟩ := required_ok stated
  obtain ⟨_, sound⟩ := ensure_ok_iff.mp ruled
  split at sound
  · cases sound
  · split at sound
    · cases sound
    · simp only [TimeRef.Admissible]
      omega

theorem dateRef_admissible {j : Json} {ref : TimeRef} (accepted : dateRef j = .ok ref) :
    ref.Admissible := by
  obtain ⟨members, built⟩ := record_ok accepted
  obtain ⟨text, stated, rfl⟩ := map_ok_iff.mp built
  obtain ⟨_, ruled⟩ := required_ok stated
  obtain ⟨_, sound⟩ := ensure_ok_iff.mp ruled
  split at sound
  · assumption
  · cases sound

theorem timeRef_admissible {j : Json} {ref : TimeRef} (accepted : timeRef j = .ok ref) :
    ref.Admissible := by
  unfold timeRef at accepted
  cases asYear : (yearRef j).under "YearRef" with
  | ok year =>
    rw [asYear] at accepted
    cases accepted
    exact yearRef_admissible (under_ok_iff.mp asYear)
  | error found =>
    rw [asYear] at accepted
    cases asDate : (dateRef j).under "DateRef" with
    | ok date =>
      rw [asDate] at accepted
      cases accepted
      exact dateRef_admissible (under_ok_iff.mp asDate)
    | error more =>
      rw [asDate] at accepted
      cases accepted

theorem temporal_admissible {j : Json} {t : Temporal} (accepted : temporal j = .ok t) :
    t.Admissible := by
  obtain ⟨members, built⟩ := record_ok accepted
  obtain ⟨_, metric, beforeMetric, named, rfl⟩ := ap_ok_iff.mp built
  obtain ⟨_, comparison, beforeComparison, compared, rfl⟩ := ap_ok_iff.mp beforeMetric
  obtain ⟨baseline, based, rfl⟩ := map_ok_iff.mp beforeComparison
  obtain ⟨_, named⟩ := required_ok named
  obtain ⟨_, compared⟩ := required_ok compared
  obtain ⟨_, based⟩ := required_ok based
  exact ⟨timeRef_admissible based, timeRef_admissible compared, name_ok named⟩

theorem orderBy_named {j : Json} {o : OrderBy} (accepted : orderBy j = .ok o) : o.field.IsName := by
  obtain ⟨members, built⟩ := record_ok accepted
  obtain ⟨_, direction, beforeDirection, _, rfl⟩ := ap_ok_iff.mp built
  obtain ⟨field, named, rfl⟩ := map_ok_iff.mp beforeDirection
  obtain ⟨_, named⟩ := required_ok named
  exact name_ok named

theorem query_admissible {raw : Json} {q : Query} (accepted : query raw = .ok q) :
    q.Admissible := by
  obtain ⟨members, built⟩ := record_ok accepted
  obtain ⟨_, order, beforeOrder, ordered, rfl⟩ := ap_ok_iff.mp built
  obtain ⟨_, limit, beforeLimit, bounded, rfl⟩ := ap_ok_iff.mp beforeOrder
  obtain ⟨_, times, beforeTimes, timed, rfl⟩ := ap_ok_iff.mp beforeLimit
  obtain ⟨_, aggregate, beforeAggregate, aggregated, rfl⟩ := ap_ok_iff.mp beforeTimes
  obtain ⟨_, spatialLogic, beforeSpatialLogic, _, rfl⟩ := ap_ok_iff.mp beforeAggregate
  obtain ⟨_, spatials, beforeSpatials, placed, rfl⟩ := ap_ok_iff.mp beforeSpatialLogic
  obtain ⟨_, attributeLogic, beforeLogic, _, rfl⟩ := ap_ok_iff.mp beforeSpatials
  obtain ⟨_, attributes, beforeAttributes, filtered, rfl⟩ := ap_ok_iff.mp beforeLogic
  obtain ⟨_, fields, beforeFields, listed, rfl⟩ := ap_ok_iff.mp beforeAttributes
  obtain ⟨selected, named, rfl⟩ := map_ok_iff.mp beforeFields
  obtain ⟨_, named⟩ := required_ok named
  refine ⟨name_ok named, ?_, ?_, ?_, ?_, ?_, ?_, ?_⟩
  · intro t member
    obtain ⟨_, ruled⟩ := optional_list_each listed t member
    exact name_ok ruled
  · intro f member
    obtain ⟨_, ruled⟩ := optional_list_each filtered f member
    exact attributeFilter_admissible ruled
  · intro s member
    obtain ⟨_, ruled⟩ := optional_list_each placed s member
    exact spatialFilter_admissible ruled
  · intro a given
    obtain ⟨_, ruled⟩ := optional_each aggregated a given
    exact aggregate_admissible ruled
  · intro t given
    obtain ⟨_, ruled⟩ := optional_each timed t given
    exact temporal_admissible ruled
  · intro k given
    obtain ⟨_, ruled⟩ := optional_each bounded k given
    exact positive_ok ruled
  · intro o given
    obtain ⟨_, ruled⟩ := optional_each ordered o given
    exact orderBy_named ruled

end Shape

namespace Query

theorem ofJson_ok_iff {raw : Json} {q : Query} : ofJson raw = .ok q ↔ Shape.query raw = .ok q := by
  unfold ofJson
  cases Shape.query raw <;> simp [Checked.toIssues]

theorem admissible_of_ofJson {raw : Json} {q : Query} (accepted : ofJson raw = .ok q) :
    q.Admissible :=
  Shape.query_admissible (ofJson_ok_iff.mp accepted)

end Query

/-! ## Replacing concept fields -/

namespace FilterRules

/-- No rule makes an inadmissible filter of an admissible one. -/
def KeepsAdmissible (rules : FilterRules) : Prop :=
  ∀ entry ∈ rules, ∀ f g note, entry.2 f = .ok (g, note) → f.Admissible → g.Admissible

theorem builtIn_keepsAdmissible : builtIn.KeepsAdmissible := by
  intro entry member f g note replaced admissible
  have wellFormed := builtIn_preserving entry member f g note replaced admissible.toWellFormed
  refine ⟨wellFormed, ?_⟩
  have code : Text.IsName "zone_code" := ⟨by decide, by decide⟩
  have title : Text.IsName "zone_name" := ⟨by decide, by decide⟩
  simp only [builtIn, List.mem_cons, List.not_mem_nil, or_false] at member
  rcases member with rfl | rfl | rfl
  · dsimp only [codeStart] at replaced
    split at replaced <;> cases replaced
    exact code
  · dsimp only [codeStart] at replaced
    split at replaced <;> cases replaced
    exact code
  · cases replaced
    exact title

theorem replacement_admissible {rules : FilterRules} (keeps : rules.KeepsAdmissible) (layer : Text)
    {f : AttributeFilter} (admissible : f.Admissible) : (rules.replacement layer f).Admissible := by
  rcases rules.replacement_cases layer f with same | ⟨entry, member, note, replaced⟩
  · rw [same]
    exact admissible
  · exact keeps entry member f _ note replaced admissible

end FilterRules

theorem SpatialFilter.Admissible.normalized {rules : FilterRules} (keeps : rules.KeepsAdmissible)
    {s : SpatialFilter} (admissible : s.Admissible) : (s.normalized rules).Admissible := by
  have replaced : ∀ f ∈ (s.normalized rules).targets, f.Admissible := by
    rw [Query.targets_normalized]
    intro f member
    obtain ⟨g, inTargets, rfl⟩ := List.mem_map.mp member
    exact FilterRules.replacement_admissible keeps _ (admissible.filters g inTargets)
  exact ⟨⟨admissible.op, admissible.parameters, fun f member => (replaced f member).toWellFormed⟩,
    admissible.targetLayer, replaced, admissible.distance, admissible.limit⟩

namespace Query

theorem Admissible.normalized {rules : FilterRules} (keeps : rules.KeepsAdmissible) {q : Query}
    (admissible : q.Admissible) : (q.normalized rules).Admissible where
  selectLayer := admissible.selectLayer
  selectFields := admissible.selectFields
  attributes := by
    rw [attributes_normalized]
    intro f member
    obtain ⟨g, inAttributes, rfl⟩ := List.mem_map.mp member
    exact FilterRules.replacement_admissible keeps _ (admissible.attributes g inAttributes)
  spatials := by
    rw [spatials_normalized]
    intro s member
    obtain ⟨t, inSpatials, rfl⟩ := List.mem_map.mp member
    exact (admissible.spatials t inSpatials).normalized keeps
  aggregate := admissible.aggregate
  temporal := admissible.temporal
  limit := admissible.limit
  orderBy := admissible.orderBy

end Query

end SpatialQuery
