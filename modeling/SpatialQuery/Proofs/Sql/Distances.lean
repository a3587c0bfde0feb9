import SpatialQuery.Proofs.Number
import SpatialQuery.Proofs.Sql.Calls
import SpatialQuery.Proofs.Sql.Grouped

/-!
# Distances that are bound

The distances that a query asks for are those that its statement is bound to: replacing its concept
fields and bounding it change none of them.  Each of them was found not to be zero or less.  So each is
positive, with one exception: a double that is no number at all compares with nothing, and it gets into
the statement as well.
-/

set_option autoImplicit false

namespace SpatialQuery

open Sql

/-! ## Distances stay what they are -/

theorem SpatialFilter.reach?_normalized (rules : FilterRules) (s : SpatialFilter) :
    (s.normalized rules).reach? = s.reach? := rfl

theorem SpatialFilter.reach?_clamp (bound : Int) (s : SpatialFilter) :
    (Limit.clamp bound s).reach? = s.reach? := by
  unfold Limit.clamp
  split
  · split <;> rfl
  · rfl

namespace Query

theorem reaches_normalized (rules : FilterRules) (q : Query) :
    (q.normalized rules).reaches = q.reaches := by
  rw [reaches, spatials_normalized, List.filterMap_map]
  exact List.filterMap_congr fun s _ => s.reach?_normalized rules

theorem reaches_limited (registry : Registry) (q : Query) :
    (q.limited registry).query.reaches = q.reaches := by
  rw [reaches, spatials_limited, List.filterMap_map]
  exact List.filterMap_congr fun s _ => s.reach?_clamp _

/-- A distance that was accepted is positive, unless it is no number. -/
theorem Admissible.reaches {q : Query} (admissible : q.Admissible) :
    ∀ d ∈ q.reaches, d.IsPositive ↔ d.isNoNumber = false := by
  intro d member
  obtain ⟨s, inSpatials, reach⟩ := List.mem_filterMap.mp member
  have given : d ∈ s.distance := by
    unfold SpatialFilter.reach? at reach
    split at reach
    · exact reach
    · cases reach
  have above := Number.le_zero_eq_false_iff.mp ((admissible.spatials s inSpatials).distance d given)
  refine ⟨fun positive => positive.isNoNumber, fun number => above.resolve_right ?_⟩
  simp [number]

end Query

namespace Service.Plan

variable {registry : Registry} {q : Query} {plan : Plan}

theorem reaches_of_ofQuery (planned : ofQuery registry q = .ok plan) :
    plan.limited.query.reaches = q.reaches := by
  obtain ⟨normal, notes, normalized, _, rfl⟩ := exists_of_ofQuery planned
  rw [Query.reaches_limited, Query.eq_normalized normalized, Query.reaches_normalized]

/-- What is run for a plan is bound to the distances of its query, in their order, one for each call of
`ST_DWithin`; and a distance is positive, unless it is no number. -/
theorem bound_distance_is_positive_iff_number {raw : Json} (accepted : Query.ofJson raw = .ok q)
    (planned : ofQuery registry q = .ok plan) {w : Written} (stated : plan.statement = .ok w) :
    boundDistances w = some (asParameters q.reaches) ∧
      ∀ d ∈ q.reaches, d.IsPositive ↔ d.isNoNumber = false := by
  refine ⟨?_, (Query.admissible_of_ofJson accepted).reaches⟩
  obtain ⟨_, _, _, rfl⟩ := (compile_ok_iff _ _ _ _).mp (mapError_eq_ok_iff.mp stated)
  rw [boundDistances_statement, reaches_of_ofQuery planned]

/-! ## A distance that is no number -/

def reachSource (distance : Text) : Text :=
  ("\x7b\"selectLayer\": \"parcels\", \"spatialFilters\": [\x7b\"op\": \"within_distance\", " : Text) ++
    "\"targetLayer\": \"parcels\", \"distance\": " ++ distance ++ "\x7d]\x7d"

def reachQuery (distance : Number) : Query :=
  { Query.ofLayer "parcels" with
    spatialFilters := some [⟨.withinDistance, "parcels", none, some distance, none⟩] }

theorem reach_planned {layer : Layer} (found : registry.get? "parcels" = some layer)
    (isLoaded : layer.isLoaded = true) (distance : Number) :
    ofQuery registry (reachQuery distance) =
      .ok ⟨registry, (reachQuery distance).limited registry, []⟩ := by
  have grounded : (reachQuery distance).groundingIssues registry = [] :=
    Query.groundingIssues_eq_nil_iff.mpr ⟨layer, found, {
      fields := nofun
      attributes := nofun
      order := nofun
      groups := nofun
      metrics := nofun
      spatials := by
        intro s member
        cases List.mem_singleton.mp member
        exact ⟨layer, found, nofun⟩
      single := Nat.zero_le 1
      plain := fun some => absurd rfl some
      loaded := isLoaded
      untimed := rfl
      comparable := nofun
      targets := by
        intro s member
        cases List.mem_singleton.mp member
        exact ⟨layer, found, isLoaded, nofun⟩ }⟩
  have normalized : (reachQuery distance).normalize .builtIn = .ok (reachQuery distance, []) := rfl
  simp only [ofQuery, normalized, grounded]

theorem reach_stated [Stack] {source : Text} {distance : Number}
    (read : (Json.read (Stack.reading .body) source).toOption.map Query.ofJson =
      some (.ok (reachQuery distance))) :
    ∃ registry plan raw,
      (Manifest.registryOfFile parcelsDescribe "" (some parcelsFile)).run () =
        (.ok (.ok registry), ()) ∧
      Json.read (Stack.reading .body) source = .ok raw ∧ Query.ofJson raw = .ok (reachQuery distance) ∧
      ofQuery registry (reachQuery distance) = .ok plan ∧
      plan.statement = .ok plan.select.written := by
  obtain ⟨registry, layer, built, found, isLoaded, -⟩ := parcels_built
  have planned := reach_planned found isLoaded distance
  cases decoded : Json.read (Stack.reading .body) source with
  | error e =>
    rw [decoded] at read
    cases read
  | ok raw =>
    rw [decoded] at read
    have accepted : Query.ofJson raw = .ok (reachQuery distance) := Option.some.inj read
    exact ⟨registry, _, raw, built, rfl, accepted, planned,
      statement_of_ofQuery (Manifest.registryOfFile_isBacked built) accepted planned⟩

section

open Stack.Usual

theorem bound_distance_is_positive_iff_number_sample :
    ∃ (registry : Registry) (plan : Plan) (raw : Json) (w : Written),
      (Manifest.registryOfFile parcelsDescribe "" (some parcelsFile)).run () =
        (.ok (.ok registry), ()) ∧
      Json.read (Stack.reading .body) (reachSource "100") = .ok raw ∧
      Query.ofJson raw = .ok (reachQuery (.int 100)) ∧
      ofQuery registry (reachQuery (.int 100)) = .ok plan ∧ plan.statement = .ok w ∧
      boundDistances w = some [some (.one (.num (.int 100)))] ∧ (Number.int 100).IsPositive := by
  have read : (Json.read (Stack.reading .body) (reachSource "100")).toOption.map Query.ofJson =
      some (.ok (reachQuery (.int 100))) := by decide +kernel
  obtain ⟨registry, plan, raw, built, decoded, accepted, planned, stated⟩ := reach_stated read
  obtain ⟨bound, positive⟩ := bound_distance_is_positive_iff_number accepted planned stated
  exact ⟨registry, plan, raw, _, built, decoded, accepted, planned, stated, bound,
    (positive (.int 100) List.mem_cons_self).mpr rfl⟩

/-- What is no number is bound as a distance. -/
theorem no_number_is_bound_as_distance :
    ∃ (registry : Registry) (plan : Plan) (raw : Json) (w : Written),
      (Manifest.registryOfFile parcelsDescribe "" (some parcelsFile)).run () =
        (.ok (.ok registry), ()) ∧
      Json.read (Stack.reading .body) (reachSource "NaN") = .ok raw ∧
      Query.ofJson raw = .ok (reachQuery (.real Decimal.notANumber)) ∧
      ofQuery registry (reachQuery (.real Decimal.notANumber)) = .ok plan ∧
      plan.statement = .ok w ∧
      boundDistances w = some [some (.one (.num (.real Decimal.notANumber)))] ∧
      ¬ (Number.real Decimal.notANumber).IsPositive := by
  have read : (Json.read (Stack.reading .body) (reachSource "NaN")).toOption.map Query.ofJson =
      some (.ok (reachQuery (.real Decimal.notANumber))) := by decide +kernel
  obtain ⟨registry, plan, raw, built, decoded, accepted, planned, stated⟩ := reach_stated read
  refine ⟨registry, plan, raw, _, built, decoded, accepted, planned, stated, ?_, ?_⟩
  · rw [select, boundDistances_statement, reaches_of_ofQuery planned]
    rfl
  · intro positive
    have number := positive.isNoNumber
    revert number
    decide

end

end Service.Plan

end SpatialQuery
