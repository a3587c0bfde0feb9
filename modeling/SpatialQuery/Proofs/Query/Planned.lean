import SpatialQuery.Proofs.Query.Admissible
import SpatialQuery.Proofs.Query.Grounded
import SpatialQuery.Service.Plan

/-!
# Planned queries

A query that is planned was accepted by every check.  No concept field is left in it to be replaced, no
limit is over its cap, and every bound is stated; planning it again would leave it as it is.
-/

set_option autoImplicit false

namespace SpatialQuery

/-! ## Nothing is left to replace -/

namespace FilterRules

/-- What a rule gives is left alone by every rule. -/
def IsFinal (rules : FilterRules) : Prop :=
  ∀ layer f g note, rules.apply layer f = .ok (g, note) → rules.apply layer g = .ok (g, none)

theorem apply_of_get?_eq_none {rules : FilterRules} {layer : Text} {f : AttributeFilter}
    (none : Assoc.get? (layer, f.field) rules = none) : rules.apply layer f = .ok (f, .none) := by
  simp only [apply, none]

theorem builtIn_isFinal : builtIn.IsFinal := by
  intro layer f g note applied
  cases found : Assoc.get? (layer, f.field) builtIn with
  | none =>
    rw [apply_of_get?_eq_none found] at applied
    cases applied
    exact apply_of_get?_eq_none found
  | some rule =>
    simp only [apply, found] at applied
    have zoning : layer = "zoning_districts" ∧ (g.field = "zone_code" ∨ g.field = "zone_name") := by
      simp only [builtIn, Assoc.get?] at found
      split at found
      · rename_i same
        cases found
        refine ⟨(congrArg Prod.fst same).symm, Or.inl ?_⟩
        dsimp only [codeStart] at applied
        split at applied <;> cases applied
        rfl
      · split at found
        · rename_i same
          cases found
          refine ⟨(congrArg Prod.fst same).symm, Or.inl ?_⟩
          dsimp only [codeStart] at applied
          split at applied <;> cases applied
          rfl
        · split at found
          · rename_i same
            cases found
            cases applied
            exact ⟨(congrArg Prod.fst same).symm, Or.inr rfl⟩
          · cases found
    obtain ⟨rfl, named⟩ := zoning
    refine apply_of_get?_eq_none ?_
    rcases named with named | named <;> rw [named] <;> decide

theorem issuesFrom_eq_nil_iff {rules : FilterRules} {layer path : Text} {filters : List AttributeFilter}
    {index : Nat} : rules.issuesFrom layer path index filters = [] ↔
      ∀ f ∈ filters, ∃ g note, rules.apply layer f = .ok (g, note) := by
  induction filters generalizing index with
  | nil => simp [issuesFrom]
  | cons f rest ih =>
    cases applied : rules.apply layer f with
    | ok result => simpa [issuesFrom, applied, ih] using fun _ => ⟨result.1, result.2, rfl⟩
    | error reason => simp [issuesFrom, applied]

theorem spatialIssuesFrom_eq_nil_iff {rules : FilterRules} {filters : List SpatialFilter}
    {index : Nat} : rules.spatialIssuesFrom index filters = [] ↔
      ∀ s ∈ filters, ∀ f ∈ s.targets, ∃ g note, rules.apply s.targetLayer f = .ok (g, note) := by
  induction filters generalizing index with
  | nil => simp [spatialIssuesFrom]
  | cons s rest ih =>
    simp only [spatialIssuesFrom, List.append_eq_nil_iff, issuesFrom_eq_nil_iff, ih,
      List.forall_mem_cons]

/-- The rules leave a filter of the layer as it is and have nothing to note. -/
def Leaves (rules : FilterRules) (layer : Text) (f : AttributeFilter) : Prop :=
  rules.apply layer f = .ok (f, none)

theorem leaves_replacement {rules : FilterRules} (final : rules.IsFinal) {layer : Text}
    {f g : AttributeFilter} {note : Option Text} (applied : rules.apply layer f = .ok (g, note)) :
    rules.Leaves layer (rules.replacement layer f) := by
  simp only [replacement, applied]
  exact final layer f g note applied

theorem map_replacement_of_leaves {rules : FilterRules} {layer : Text}
    {filters : List AttributeFilter} (leaves : ∀ f ∈ filters, rules.Leaves layer f) :
    filters.map (rules.replacement layer) = filters := by
  refine (List.map_congr_left fun f member => ?_).trans (List.map_id filters)
  have left : rules.apply layer f = .ok (f, none) := leaves f member
  simp only [replacement, left, id]

theorem notes_of_leaves {rules : FilterRules} {layer : Text} {filters : List AttributeFilter}
    (leaves : ∀ f ∈ filters, rules.Leaves layer f) : rules.notes layer filters = [] := by
  refine List.filterMap_eq_nil_iff.mpr fun f member => ?_
  have left : rules.apply layer f = .ok (f, none) := leaves f member
  simp only [note?, left]

end FilterRules

namespace Query

variable {rules : FilterRules}

structure IsLeft (rules : FilterRules) (q : Query) : Prop where
  attributes : ∀ f ∈ q.attributes, rules.Leaves q.selectLayer f
  targets : ∀ s ∈ q.spatials, ∀ f ∈ s.targets, rules.Leaves s.targetLayer f

theorem normalize_of_isLeft {q : Query} (left : q.IsLeft rules) :
    q.normalize rules = .ok (q, []) := by
  have sound : q.ruleIssues rules = [] := by
    rw [ruleIssues, List.append_eq_nil_iff, FilterRules.issuesFrom_eq_nil_iff,
      FilterRules.spatialIssuesFrom_eq_nil_iff]
    exact ⟨fun f member => ⟨f, none, left.attributes f member⟩,
      fun s inSpatials f member => ⟨f, none, left.targets s inSpatials f member⟩⟩
  have silent : q.ruleNotes rules = [] := by
    rw [ruleNotes, List.append_eq_nil_iff, List.flatMap_eq_nil_iff]
    exact ⟨FilterRules.notes_of_leaves left.attributes,
      fun s member => FilterRules.notes_of_leaves (left.targets s member)⟩
  have same : q.normalized rules = q := by
    obtain ⟨selectLayer, selectFields, attributes, attributeLogic, spatials, spatialLogic, aggregate,
      temporal, limit, orderBy⟩ := q
    simp only [normalized, mk.injEq, true_and, and_true]
    constructor
    · cases attributes with
      | none => rfl
      | some filters => exact congrArg some (FilterRules.map_replacement_of_leaves left.attributes)
    · cases spatials with
      | none => rfl
      | some filters =>
        refine congrArg some ((List.map_congr_left fun s member => ?_).trans (List.map_id filters))
        have leaves := left.targets s member
        obtain ⟨op, targetLayer, targetFilter, distance, bound⟩ := s
        cases targetFilter with
        | none => rfl
        | some targets =>
          simp only [SpatialFilter.normalized, Option.map_some, id, SpatialFilter.mk.injEq,
            Option.some.injEq, true_and, and_true]
          exact FilterRules.map_replacement_of_leaves leaves
  simp only [normalize, sound, silent, same]

theorem isLeft_of_normalize (final : rules.IsFinal) {q normal : Query} {notes : List Text}
    (accepted : q.normalize rules = .ok (normal, notes)) : normal.IsLeft rules := by
  have sound : q.ruleIssues rules = [] := by
    unfold normalize at accepted
    split at accepted
    · assumption
    · cases accepted
  rw [ruleIssues, List.append_eq_nil_iff, FilterRules.issuesFrom_eq_nil_iff,
    FilterRules.spatialIssuesFrom_eq_nil_iff] at sound
  obtain ⟨attributes, targets⟩ := sound
  rw [eq_normalized accepted]
  refine ⟨?_, ?_⟩
  · rw [attributes_normalized]
    intro f member
    obtain ⟨g, inAttributes, rfl⟩ := List.mem_map.mp member
    obtain ⟨_, _, applied⟩ := attributes g inAttributes
    exact FilterRules.leaves_replacement final applied
  · rw [spatials_normalized]
    intro s member f inTargets
    obtain ⟨t, inSpatials, rfl⟩ := List.mem_map.mp member
    rw [targets_normalized] at inTargets
    obtain ⟨g, given, rfl⟩ := List.mem_map.mp inTargets
    obtain ⟨_, _, applied⟩ := targets t inSpatials g given
    exact FilterRules.leaves_replacement final applied

end Query

/-! ## Bounding changes neither names nor filters -/

namespace Limit

theorem default_pos (geometryType : Text) : 0 < default geometryType := by
  unfold default
  repeat' split
  all_goals decide

theorem default_le_cap (geometryType : Text) : default geometryType ≤ cap geometryType := by
  unfold default cap
  repeat' split
  all_goals decide

theorem isNearest_of_wanted? {s : SpatialFilter} {k : Int} (wanted : wanted? s = some k) :
    s.isNearest = true := by
  unfold wanted? at wanted
  split at wanted
  · assumption
  · cases wanted

theorem wanted?_clamp (bound : Int) (s : SpatialFilter) :
    wanted? (clamp bound s) = (wanted? s).map (min bound) := by
  unfold clamp
  cases wanted : wanted? s with
  | none => simpa using wanted
  | some k =>
    dsimp only
    split
    · rename_i above
      have nearest : s.isNearest = true := isNearest_of_wanted? wanted
      have still : ({ s with limit := some bound } : SpatialFilter).isNearest = true := nearest
      rw [wanted?, if_pos still, Option.map_some]
      exact congrArg some (by omega)
    · rename_i within
      rw [wanted, Option.map_some]
      exact congrArg some (by omega)

theorem clamp_of_le {bound : Int} {s : SpatialFilter} (within : ∀ k ∈ wanted? s, k ≤ bound) :
    clamp bound s = s := by
  unfold clamp
  cases wanted : wanted? s with
  | none => rfl
  | some k => exact if_neg (Int.not_lt.mpr (within k wanted))

theorem wanted?_clamp_le {bound k : Int} {s : SpatialFilter} (wanted : k ∈ wanted? (clamp bound s)) :
    k ≤ bound := by
  rw [wanted?_clamp] at wanted
  obtain ⟨asked, _, rfl⟩ := Option.map_eq_some_iff.mp wanted
  omega

end Limit

theorem SpatialFilter.Admissible.clamp {bound : Int} (isPositive : 0 < bound) {s : SpatialFilter}
    (admissible : s.Admissible) : (Limit.clamp bound s).Admissible := by
  unfold Limit.clamp
  split
  · split
    · rename_i k wanted _
      have nearest : s.op = .nearest := by
        simpa [SpatialFilter.isNearest] using Limit.isNearest_of_wanted? wanted
      refine ⟨⟨admissible.op, ?_, admissible.targets⟩, admissible.targetLayer, admissible.filters,
        admissible.distance, ?_⟩
      · simp [Shape.parameterFault?, nearest]
      · intro k given
        cases given
        exact isPositive
    · exact admissible
  · exact admissible

namespace Query

variable {q : Query} {registry : Registry}

theorem foldl_max_pos {wanted : List Int} {start : Int} (isPositive : 0 < start) :
    0 < wanted.foldl max start := by
  induction wanted generalizing start with
  | nil => exact isPositive
  | cons k rest ih => exact ih (by omega)

theorem foldl_max_le {wanted : List Int} {start bound : Int} (first : start ≤ bound)
    (others : ∀ k ∈ wanted, k ≤ bound) : wanted.foldl max start ≤ bound := by
  induction wanted generalizing start with
  | nil => exact first
  | cons k rest ih =>
    obtain ⟨here, later⟩ := List.forall_mem_cons.mp others
    exact ih (by omega) later

theorem wanted_le_cap {bound : Int} (filters : List SpatialFilter) :
    ∀ k ∈ (filters.map (Limit.clamp bound)).filterMap Limit.wanted?, k ≤ bound := by
  intro k member
  obtain ⟨_, clamped, wanted⟩ := List.mem_filterMap.mp member
  obtain ⟨s, _, rfl⟩ := List.mem_map.mp clamped
  exact Limit.wanted?_clamp_le wanted

theorem cap_pos (q : Query) (registry : Registry) : 0 < Limit.cap (q.geometryType registry) :=
  Int.lt_of_lt_of_le (Limit.default_pos _) (Limit.default_le_cap _)

theorem maxFeatures_pos (positive : ∀ k ∈ q.limit, 0 < k) :
    0 < (q.limited registry).maxFeatures := by
  have capped := q.cap_pos registry
  simp only [limited]
  split
  · rename_i k given
    have asked := positive k given
    omega
  · exact foldl_max_pos (Limit.default_pos _)

theorem maxFeatures_le_cap : (q.limited registry).maxFeatures ≤ (q.limited registry).cap := by
  simp only [limited]
  split
  · exact Int.min_le_right _ _
  · refine foldl_max_le (Limit.default_le_cap _) ?_
    cases q.spatialFilters with
    | none => simp
    | some filters => exact wanted_le_cap filters

theorem Admissible.limited (admissible : q.Admissible) :
    (q.limited registry).query.Admissible where
  selectLayer := admissible.selectLayer
  selectFields := admissible.selectFields
  attributes := admissible.attributes
  spatials := by
    rw [spatials_limited]
    intro s member
    obtain ⟨t, inSpatials, rfl⟩ := List.mem_map.mp member
    exact (admissible.spatials t inSpatials).clamp (q.cap_pos registry)
  aggregate := admissible.aggregate
  temporal := admissible.temporal
  limit := by
    rintro k ⟨⟩
    exact maxFeatures_pos admissible.limit
  orderBy := admissible.orderBy

theorem IsLeft.limited {rules : FilterRules} (left : q.IsLeft rules) :
    (q.limited registry).query.IsLeft rules := by
  refine ⟨left.attributes, ?_⟩
  rw [spatials_limited]
  intro s member f inTargets
  obtain ⟨t, inSpatials, rfl⟩ := List.mem_map.mp member
  obtain ⟨sameLayer, sameTargets⟩ := targets_clamp (Limit.cap (q.geometryType registry)) t
  rw [sameTargets] at inTargets
  rw [sameLayer]
  exact left.targets t inSpatials f inTargets

theorem spatialIssuesFrom_clamp (bound : Int) (filters : List SpatialFilter) (index : Nat) :
    registry.spatialIssuesFrom index (filters.map (Limit.clamp bound)) =
      registry.spatialIssuesFrom index filters := by
  induction filters generalizing index with
  | nil => rfl
  | cons s rest ih =>
    obtain ⟨sameLayer, sameTargets⟩ := targets_clamp bound s
    simp only [List.map_cons, Registry.spatialIssuesFrom, Registry.spatialIssuesFrom.notLoaded, ih,
      sameLayer, sameTargets]

theorem groundingIssues_limited :
    (q.limited registry).query.groundingIssues registry = q.groundingIssues registry := by
  have spatial : registry.spatialIssuesFrom 0 (q.limited registry).query.spatials =
      registry.spatialIssuesFrom 0 q.spatials := by
    rw [spatials_limited, spatialIssuesFrom_clamp]
  have nearest : (q.limited registry).query.nearestIssues = q.nearestIssues := by
    simp only [nearestIssues, nearest_limited, List.length_map, List.isEmpty_map]
    rfl
  unfold groundingIssues
  rw [spatial, nearest]
  rfl

theorem limited_limited :
    (q.limited registry).query.limited registry =
      { q.limited registry with truncated := false, defaultApplied := false } := by
  have within : ∀ k ∈ (q.limited registry).query.spatials.filterMap Limit.wanted?,
      k ≤ (q.limited registry).cap := by
    rw [spatials_limited]
    exact wanted_le_cap q.spatials
  have clamped : (q.limited registry).query.spatialFilters.map
      (fun filters => filters.map (Limit.clamp (q.limited registry).cap)) =
        (q.limited registry).query.spatialFilters := by
    simp only [Query.limited, Option.map_map]
    refine Option.map_congr fun filters _ => ?_
    simp only [Function.comp, List.map_map]
    exact List.map_congr_left fun s _ => Limit.clamp_of_le fun k wanted => Limit.wanted?_clamp_le wanted
  have features : min (q.limited registry).maxFeatures (q.limited registry).cap =
      (q.limited registry).maxFeatures := Int.min_eq_left maxFeatures_le_cap
  have featuresUnder : decide ((q.limited registry).cap < (q.limited registry).maxFeatures) = false :=
    decide_eq_false (Int.not_lt.mpr maxFeatures_le_cap)
  have nearestUnder : ((q.limited registry).query.spatials.filterMap Limit.wanted?).any
      ((q.limited registry).cap < ·) = false := by
    refine List.any_eq_false.mpr fun k member => ?_
    simpa using within k member
  calc (q.limited registry).query.limited registry
      = { q.limited registry with
          query := { (q.limited registry).query with
            limit := some (min (q.limited registry).maxFeatures (q.limited registry).cap)
            spatialFilters := (q.limited registry).query.spatialFilters.map
              fun filters => filters.map (Limit.clamp (q.limited registry).cap) }
          truncated := decide ((q.limited registry).cap < (q.limited registry).maxFeatures) ||
            ((q.limited registry).query.spatials.filterMap Limit.wanted?).any
              ((q.limited registry).cap < ·)
          defaultApplied := false
          maxFeatures := min (q.limited registry).maxFeatures (q.limited registry).cap
          tolerance := Limit.tolerance (q.geometryType registry)
            (min (q.limited registry).maxFeatures (q.limited registry).cap) } := rfl
    _ = { q.limited registry with truncated := false, defaultApplied := false } := by
      rw [clamped, features, featuresUnder, nearestUnder]
      rfl

end Query

/-! ## Plans -/

namespace Service.Plan

variable {registry : Registry} {q : Query} {plan : Plan}

theorem exists_of_ofQuery (planned : ofQuery registry q = .ok plan) :
    ∃ normal notes, q.normalize .builtIn = .ok (normal, notes) ∧
      normal.groundingIssues registry = [] ∧ plan = ⟨registry, normal.limited registry, notes⟩ := by
  unfold ofQuery at planned
  split at planned
  · cases planned
  · rename_i normal notes normalized
    split at planned
    · rename_i grounded
      cases planned
      exact ⟨normal, notes, normalized, grounded, rfl⟩
    · cases planned

theorem registry_of_ofQuery (planned : ofQuery registry q = .ok plan) : plan.registry = registry := by
  obtain ⟨_, _, _, _, rfl⟩ := exists_of_ofQuery planned
  rfl

theorem admissible_of_ofQuery (planned : ofQuery registry q = .ok plan) (admissible : q.Admissible) :
    plan.limited.query.Admissible := by
  obtain ⟨normal, notes, normalized, _, rfl⟩ := exists_of_ofQuery planned
  rw [Query.eq_normalized normalized]
  exact (admissible.normalized FilterRules.builtIn_keepsAdmissible).limited

theorem answerable_of_ofQuery (planned : ofQuery registry q = .ok plan) :
    ∃ layer, registry.get? plan.limited.query.selectLayer = some layer ∧
      plan.limited.query.IsAnswerable registry layer := by
  obtain ⟨normal, notes, _, grounded, rfl⟩ := exists_of_ofQuery planned
  exact Query.groundingIssues_eq_nil_iff.mp (Query.groundingIssues_limited.trans grounded)

theorem compilable_of_ofQuery (backed : registry.IsBacked) {raw : Json}
    (accepted : Query.ofJson raw = .ok q) (planned : ofQuery registry q = .ok plan) {layer : Layer}
    (found : registry.get? plan.limited.query.selectLayer = some layer) :
    plan.limited.query.Compilable registry layer := by
  obtain ⟨known, foundKnown, answerable⟩ := answerable_of_ofQuery planned
  cases found.symm.trans foundKnown
  have admissible := admissible_of_ofQuery planned (Query.admissible_of_ofJson accepted)
  exact Query.compilable_of_grounded backed found admissible.wellFormed answerable.toIsGrounded

def select (plan : Plan) : Sql.Select := plan.limited.query.statement plan.tolerance

theorem statement_of_ofQuery (backed : registry.IsBacked) {raw : Json}
    (accepted : Query.ofJson raw = .ok q) (planned : ofQuery registry q = .ok plan) :
    plan.statement = .ok plan.select.written := by
  obtain ⟨layer, found, _⟩ := answerable_of_ofQuery planned
  have compilable := compilable_of_ofQuery backed accepted planned found
  rw [← registry_of_ofQuery planned] at found compilable
  exact mapError_eq_ok_iff.mpr
    ((Sql.compile_ok_iff _ _ plan.tolerance _).mpr ⟨layer, found, compilable, rfl⟩)

end Service.Plan

end SpatialQuery
