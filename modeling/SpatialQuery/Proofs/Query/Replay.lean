import SpatialQuery.Proofs.Query.Planned
import SpatialQuery.Proofs.Query.RoundTrip
import SpatialQuery.Proofs.Query.Values
import SpatialQuery.Service.Stage

/-!
# The query that is told back

An answer tells the query as it was bounded.  Who asks that query again gets it planned as it was: no
concept field is left to be replaced, no limit is over its cap, and every bound is stated.
-/

set_option autoImplicit false

namespace SpatialQuery

namespace Query

theorem payload_wire (q : Query) : payload q.wire = (q.wire, .direct) := by
  have unwrapped : q.wire.get? "query" = none := by
    rw [wire, Json.present, Json.get?, Json.member?, Assoc.get?_filterMap]
    · rfl
    · change (["selectLayer", "selectFields", "attributeFilters", "attributeLogic",
        "spatialFilters", "spatialLogic", "aggregate", "temporal", "limit", "orderBy"] :
          List Text).Nodup
      decide
  simp only [payload, unwrapped]

end Query

theorem Feature.get?_metadata {name : Text} (count : Int) (milliseconds : Number) (limited : Limited)
    (notes : List Text) (use : CacheUse) {extra : List (Text × Json)}
    (apart : ∀ m ∈ extra, m.1 ≠ name) :
    (metadata count milliseconds limited notes use extra).get? name =
      (metadata count milliseconds limited notes use []).get? name := by
  have kept : ∀ facts : List (Text × Json),
      Json.member? (extra.foldl (fun facts m => Assoc.insert m.1 m.2 facts) facts) name =
        Json.member? facts name := by
    induction extra with
    | nil => exact fun _ => rfl
    | cons m rest ih =>
      obtain ⟨here, later⟩ := List.forall_mem_cons.mp apart
      exact fun facts => (ih later _).trans (Assoc.get?_insert_of_ne here _ _)
  exact kept _

theorem Feature.query_of_metadata (count : Int) (milliseconds : Number) (limited : Limited)
    (notes : List Text) (use : CacheUse) {extra : List (Text × Json)}
    (apart : ∀ m ∈ extra, m.1 ≠ "query") :
    (metadata count milliseconds limited notes use extra).get? "query" =
      some (Json.finiteOrNull limited.query.wire) :=
  (get?_metadata count milliseconds limited notes use apart).trans rfl

namespace Service

theorem Origin.facts_apart (origin : Origin) (count : Nat) :
    ∀ m ∈ origin.facts count, m.1 ≠ "query" := by
  cases origin <;> simp only [Origin.facts, List.forall_mem_cons, List.not_mem_nil, false_implies,
    implies_true, and_true] <;> decide

/-- The query of an answer is a fixed point: asked again as it is told, it is accepted by every stage,
nothing is left to replace or to bound, and key and statement are the former ones. -/
theorem told_query_is_planned_again {registry : Registry} {raw : Json} {q : Query}
    (accepted : Query.ofJson raw = .ok q) {plan : Plan}
    (planned : Plan.ofQuery registry q = .ok plan) :
    Query.payload plan.limited.query.wire = (plan.limited.query.wire, .direct) ∧
    Query.ofJson plan.limited.query.wire = .ok plan.limited.query ∧
    plan.limited.query.normalize .builtIn = .ok (plan.limited.query, []) ∧
    plan.limited.query.groundingIssues registry = [] ∧
    plan.limited.query.limited registry =
      { plan.limited with truncated := false, defaultApplied := false } ∧
    (∃ again : Plan,
      (∀ {τ : Type} (s : Service τ), s.registry = registry →
        Stage.receive s (.structured plan.limited.query.wire) =
          .planned (.structured .direct) again) ∧
      again.limited = plan.limited.query.limited registry ∧
      again.notes = [] ∧
      again.limited.query.canonical = plan.limited.query.canonical ∧
      again.limited.query.hash = plan.limited.query.hash ∧
      again.key = plan.key ∧
      again.statement = plan.statement) ∧
    (raw.isFinite = true → ∀ (milliseconds : Number) (count : Nat) (use : Feature.CacheUse)
      (origin : Origin),
      (Feature.metadata count milliseconds plan.limited plan.notes use (origin.facts count)).get?
        "query" = some plan.limited.query.wire) := by
  obtain ⟨normal, notes, normalized, grounded, rfl⟩ := Plan.exists_of_ofQuery planned
  have left := Query.isLeft_of_normalize FilterRules.builtIn_isFinal normalized
  have boundedAdmissible : (normal.limited registry).query.Admissible :=
    Plan.admissible_of_ofQuery planned (Query.admissible_of_ofJson accepted)
  have boundedLeft : (normal.limited registry).query.IsLeft .builtIn := left.limited
  have direct := Query.payload_wire (normal.limited registry).query
  have read := Query.ofJson_wire boundedAdmissible
  have settled := Query.normalize_of_isLeft boundedLeft
  have sound : (normal.limited registry).query.groundingIssues registry = [] :=
    Query.groundingIssues_limited.trans grounded
  have bounded : (normal.limited registry).query.limited registry =
      { normal.limited registry with truncated := false, defaultApplied := false } :=
    Query.limited_limited
  refine ⟨direct, read, settled, sound, bounded,
    ⟨⟨registry, (normal.limited registry).query.limited registry, []⟩, ?_, rfl, rfl, ?_⟩, ?_⟩
  · rintro τ s rfl
    simp only [Stage.receive, direct, read, Stage.ofQuery, Plan.ofQuery, settled, sound]
  · rw [bounded]
    exact ⟨rfl, rfl, rfl, rfl⟩
  · intro finite milliseconds count use origin
    have finiteQuery : normal.Every (fun n => n.isFinite = true) fun _ => True := by
      rw [Query.eq_normalized normalized]
      exact (Query.every_of_ofJson (Json.isFinite_iff.mp finite) accepted).normalized
        (FilterRules.builtIn_keepsEvery fun _ => trivial)
    have told := Query.every_wire Query.finite_surroundings boundedAdmissible finiteQuery.limited
    rw [Feature.query_of_metadata _ _ _ _ _ (origin.facts_apart count),
      Json.finiteOrNull_of_every told]

def districtsRegistry : Registry := .ofLayers [
  ⟨"zoning_districts", "Polygon", [], ["zone_code"], ["zone_code"], [], true, none, none, none⟩,
  ⟨"hydrology", "LineString", [], ["name"], ["name"], [], true, none, none, none⟩] .null

def districtsRequest : Json := .obj [
  ("selectLayer", .str "zoning_districts"),
  ("attributeFilters", .arr [
    .obj [("field", .str "allows_residential"), ("op", .str "eq"), ("value", .bool true)]]),
  ("spatialFilters", .arr [
    .obj [("op", .str "nearest"), ("targetLayer", .str "hydrology"), ("limit", .int 99999)]])]

def districtsQuery : Query :=
  { Query.ofLayer "zoning_districts" with
    attributeFilters := some [⟨"allows_residential", .eq, .one (.bool true)⟩]
    spatialFilters := some [⟨.nearest, "hydrology", none, none, some 99999⟩] }

/-- As it is told: by a column, under the cap, and with the bound that was put. -/
def districtsTold : Query :=
  { Query.ofLayer "zoning_districts" with
    attributeFilters := some [⟨"zone_code", .like, .one (.str "R%")⟩]
    spatialFilters := some [⟨.nearest, "hydrology", none, none, some 3000⟩]
    limit := some 3000 }

theorem told_query_is_planned_again_sample :
    ∃ plan, Query.ofJson districtsRequest = .ok districtsQuery ∧
      Plan.ofQuery districtsRegistry districtsQuery = .ok plan ∧
      plan.limited.query = districtsTold ∧
      Query.ofJson districtsTold.wire = .ok districtsTold ∧
      districtsTold.normalize .builtIn = .ok (districtsTold, []) ∧
      districtsTold.groundingIssues districtsRegistry = [] ∧
      (districtsTold.limited districtsRegistry).query = districtsTold := by
  have accepted : Query.ofJson districtsRequest = .ok districtsQuery := rfl
  obtain ⟨plan, planned, told⟩ : ∃ plan, Plan.ofQuery districtsRegistry districtsQuery = .ok plan ∧
      plan.limited.query = districtsTold := ⟨_, rfl, rfl⟩
  obtain ⟨_, read, settled, sound, bounded, _, _⟩ := told_query_is_planned_again accepted planned
  rw [told] at read settled sound bounded
  exact ⟨plan, accepted, planned, told, read, settled, sound,
    (congrArg Limited.query bounded).trans told⟩

end Service

end SpatialQuery
