import SpatialQuery.Feature.Collection
import SpatialQuery.Proofs.Query.Planned

/-!
# Output columns

What the columns of a result are called.  One name has a meaning of its own: the geometry of a feature is
what stands under `geometry`.  No loaded column has that name, so in a statement that names no metric by
it only the geometry itself has it.
-/

set_option autoImplicit false

namespace SpatialQuery

open Sql
open Feature (geometryKey)

namespace Sql

def Output.name? : Output → Option Text
  | .column name => some name
  | .attributes => none
  | .geometry _ => some geometryKey
  | .distance _ => some "distance"
  | .metric _ _ name => some name

def Output.isGeometry : Output → Bool
  | .geometry _ => true
  | _ => false

def Output.isCalled (name : Text) (o : Output) : Bool := o.name? == some name

theorem filter_map_column {names : List Text} (other : geometryKey ∉ names) :
    (names.map Output.column).filter (Output.isCalled geometryKey) = [] := by
  rw [List.filter_eq_nil_iff, List.forall_mem_map]
  intro name member called
  have same : name = geometryKey := by simpa [Output.isCalled, Output.name?] using called
  exact other (same ▸ member)

end Sql

/-! ## The names of metrics -/

theorem metricName_ne_geometry {m : Metric} (unnamed : m.name ≠ some geometryKey) :
    metricName m ≠ geometryKey := by
  intro same
  unfold metricName at same
  cases name : m.name with
  | some given =>
    rw [name] at same unnamed
    exact unnamed (congrArg some same)
  | none =>
    rw [name] at same
    have underscore : Mark.char '_' ∈ geometryKey.marks := by
      rw [← same]
      exact List.mem_append_left _ (List.mem_append_right _ List.mem_cons_self)
    exact absurd underscore (by decide)

theorem filter_map_metric {metrics : List Metric}
    (unnamed : ∀ m ∈ metrics, m.name ≠ some geometryKey) :
    (metrics.map Metric.output).filter (Output.isCalled geometryKey) = [] := by
  rw [List.filter_eq_nil_iff, List.forall_mem_map]
  intro m member called
  have same : metricName m = geometryKey := by
    simpa [Output.isCalled, Metric.output, Output.name?] using called
  exact metricName_ne_geometry (unnamed m member) same

/-! ## The outputs of a query -/

theorem Registry.RealizesCatalog.geometry_not_queryable {registry : Registry}
    (realizes : registry.RealizesCatalog) {name : Text} {layer : Layer}
    (found : registry.get? name = some layer) : geometryKey ∉ layer.queryableFields := by
  obtain ⟨schema, _, here⟩ := realizes.get? found
  intro queryable
  rcases (here.queryable _).mp queryable with loaded | concept
  · exact here.external _ loaded (by decide)
  · unfold Catalog.virtualFields at concept
    split at concept
    · exact absurd concept (by decide)
    · cases concept

namespace Query

variable {q : Query}

theorem filter_outputs (other : geometryKey ∉ q.selectFields.getD []) :
    q.outputs.filter (Output.isCalled geometryKey) = [] := by
  unfold outputs
  split
  · rfl
  · exact filter_map_column other

/-- The geometry is put out once, or not at all where rows are grouped, and nothing else is called like
it. -/
theorem geometry_outputs {registry : Registry} {layer : Layer}
    (grounded : q.IsGrounded registry layer) (other : geometryKey ∉ layer.queryableFields)
    (unnamed : ∀ a ∈ q.aggregate, ∀ m ∈ a.metrics, m.name ≠ some geometryKey) (tolerance : Number) :
    (q.statement tolerance).outputs.filter (Output.isCalled geometryKey) =
      if q.aggregate.isSome then [] else [.geometry tolerance] := by
  have selected := filter_outputs fun member => other (grounded.fields _ member)
  unfold statement
  rcases nearest : q.nearest with _ | ⟨first, rest⟩
  · cases aggregated : q.aggregate with
    | none =>
      dsimp only
      rw [List.filter_append, selected]
      rfl
    | some a =>
      dsimp only
      rw [List.filter_append, filter_map_column fun member => other (grounded.groups a aggregated _ member),
        filter_map_metric (unnamed a aggregated)]
      rfl
  · rw [grounded.plain (by simp [nearest])]
    dsimp only
    rw [List.filter_append, selected]
    rfl

theorem outputs_end (tolerance : Number) (ungrouped : q.aggregate = none) :
    ∃ others, (q.statement tolerance).outputs = others ++ [.geometry tolerance] := by
  unfold statement
  rcases q.nearest with _ | ⟨first, rest⟩
  · rw [ungrouped]
    exact ⟨_, rfl⟩
  · exact ⟨q.outputs ++ [.distance first.union], by simp⟩

end Query

theorem Service.Plan.aggregate_of_ofQuery {registry : Registry} {q : Query} {plan : Plan}
    (planned : ofQuery registry q = .ok plan) : plan.limited.query.aggregate = q.aggregate := by
  obtain ⟨normal, notes, normalized, _, rfl⟩ := exists_of_ofQuery planned
  rw [Query.eq_normalized normalized]
  rfl

end SpatialQuery
