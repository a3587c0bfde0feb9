import SpatialQuery.Proofs.Sql.Select

/-!
# The statement of a query

What a query is compiled to depends on the query and on the tolerance alone.  A registry only decides
whether the query is compiled at all.  `Query.statement` is that statement, and `Query.Compilable` says
which names have to be known and which parts have to be there.
-/

set_option autoImplicit false

namespace SpatialQuery

open Sql

/-! ## What is written for each part -/

def AttributeFilter.test (f : AttributeFilter) : Test :=
  match f.op, f.value with
  | .oneOf, .many values => .member f.field values
  | op, value => .compare f.field ((comparison? op).getD .equal) value

def SpatialFilter.union (s : SpatialFilter) : Union :=
  ⟨frame s.op, s.targetLayer, s.targets.map AttributeFilter.test⟩

def SpatialFilter.place (s : SpatialFilter) : Place :=
  match s.op, s.distance with
  | .withinDistance, some distance => .near s.union distance
  | op, _ => .related ((relation? op).getD .intersects) s.union

theorem SpatialFilter.place_near {s : SpatialFilter} {distance : Number}
    (metric : s.op = .withinDistance) (given : s.distance = some distance) :
    s.place = .near s.union distance := by
  unfold place
  rw [metric, given]

theorem SpatialFilter.place_related {s : SpatialFilter} (unmeasured : s.op ≠ .withinDistance) :
    s.place = .related ((relation? s.op).getD .intersects) s.union := by
  unfold place
  split
  · rename_i contrary _
    exact absurd contrary unmeasured
  · rfl

def Metric.argument (m : Metric) : Argument :=
  if m.field = "*" then (if m.op = .count then .rows else .one) else .column m.field

def Metric.output (m : Metric) : Output := .metric m.op m.argument (metricName m)

namespace Query

def places (q : Query) : List SpatialFilter := q.spatials.filter fun s => !s.isNearest

def attributeGroup (q : Query) : Sql.Group Test :=
  ⟨q.attributeLogic.getD .and, q.attributes.map AttributeFilter.test⟩

def spatialGroup (q : Query) : Sql.Group Place :=
  ⟨q.spatialLogic.getD .and, q.places.map SpatialFilter.place⟩

def outputs (q : Query) : List Output :=
  match q.selectFields.getD [] with
  | [] => [.attributes]
  | names => names.map .column

def order (q : Query) : Option Order := q.orderBy.map fun o => .column o.field o.direction

def statement (q : Query) (tolerance : Number) : Select :=
  match q.nearest, q.aggregate with
  | nearest :: _, _ =>
    let k := nearest.limit.getD 0
    { outputs := q.outputs ++ [.distance nearest.union, .geometry tolerance]
      table := q.selectLayer
      tests := q.attributeGroup
      places := q.spatialGroup
      groupBy := none
      order := some .distance
      limit := some (q.limit.elim k (min · k)) }
  | [], some aggregate =>
    { outputs := aggregate.groupBy.map .column ++ aggregate.metrics.map Metric.output
      table := q.selectLayer
      tests := q.attributeGroup
      places := q.spatialGroup
      groupBy := some aggregate.groupBy
      order := q.order
      limit := q.limit }
  | [], none =>
    { outputs := q.outputs ++ [.geometry tolerance]
      table := q.selectLayer
      tests := q.attributeGroup
      places := q.spatialGroup
      groupBy := none
      order := q.order
      limit := q.limit }

end Query

/-! ## What has to be known -/

/-- The operator can be said of the value. -/
def AttributeFilter.IsSayable (f : AttributeFilter) : Prop :=
  match f.op with
  | .oneOf => ∃ first rest, f.value = .many (first :: rest)
  | op => (comparison? op).isSome = true

structure AttributeFilter.Testable (layer : Layer) (f : AttributeFilter) : Prop where
  known : layer.hasColumn f.field = true
  sayable : f.IsSayable

/-- The target is a layer that has every field that it is filtered by. -/
def SpatialFilter.Reachable (registry : Registry) (s : SpatialFilter) : Prop :=
  ∃ layer, registry.get? s.targetLayer = some layer ∧ ∀ f ∈ s.targets, f.Testable layer

structure SpatialFilter.Placeable (registry : Registry) (s : SpatialFilter) : Prop where
  condition : s.isNearest = false
  reachable : s.Reachable registry
  measured : s.op = .withinDistance → s.distance.isSome = true
  related : s.op ≠ .withinDistance → (relation? s.op).isSome = true

namespace Query

/-- What the outputs need, in each of the three shapes. -/
def OutputsKnown (registry : Registry) (layer : Layer) (q : Query) : Prop :=
  match q.nearest, q.aggregate with
  | _ :: _ :: _, _ => False
  | [nearest], aggregate =>
    aggregate = none ∧ nearest.limit.isSome = true ∧ nearest.Reachable registry ∧
      ∀ name ∈ q.selectFields.getD [], layer.hasColumn name = true
  | [], some aggregate =>
    (∀ name ∈ aggregate.groupBy, layer.hasColumn name = true) ∧
      (∀ m ∈ aggregate.metrics, m.field ≠ "*" → layer.hasColumn m.field = true) ∧
      ∀ o ∈ q.orderBy, layer.hasColumn o.field = true
  | [], none =>
    (∀ name ∈ q.selectFields.getD [], layer.hasColumn name = true) ∧
      ∀ o ∈ q.orderBy, layer.hasColumn o.field = true

structure Compilable (registry : Registry) (layer : Layer) (q : Query) : Prop where
  tests : ∀ f ∈ q.attributes, f.Testable layer
  places : ∀ s ∈ q.places, s.Placeable registry
  outputs : q.OutputsKnown registry layer

end Query

namespace Sql

theorem nearest_of_mem {registry : Registry} {layer : Layer} {q : Query} {nearest : SpatialFilter}
    (known : q.OutputsKnown registry layer) (member : nearest ∈ q.nearest) :
    q.nearest = [nearest] ∧ nearest.Reachable registry := by
  unfold Query.OutputsKnown at known
  rcases filters : q.nearest with _ | ⟨first, _ | ⟨second, others⟩⟩
  · simp [filters] at member
  · have same : nearest = first := by simpa [filters] using member
    simp only [filters] at known
    exact ⟨by rw [same], same ▸ known.2.2.1⟩
  · simp [filters] at known

/-! ## A query with hostile names -/

def sampleLayer (name : Text) (columns : List Text) : Layer where
  name := name
  geometryType := "Polygon"
  schemaFields := []
  loadedFields := columns
  queryableFields := columns
  oddLabels := []
  isLoaded := true
  featureCount := none
  description := none
  source := none

/-- Layers and columns whose names hold quotes, dollar signs and pieces of statements. -/
def sampleRegistry : Registry :=
  ⟨[sampleLayer "a\"b" ["x\"; DROP TABLE t; --", "$1"], sampleLayer "c\nWHERE 1" ["\"\"", "or"]],
    .null⟩

def sampleQuery : Query :=
  { Query.ofLayer "a\"b" with
    selectFields := some ["$1"]
    attributeFilters := some [⟨"$1", .gt, .one (.num (.int 1))⟩,
      ⟨"x\"; DROP TABLE t; --", .oneOf, .many [.str "a", .str "b"]⟩]
    attributeLogic := some .or
    spatialFilters := some [
      ⟨.withinDistance, "c\nWHERE 1", some [⟨"or", .like, .one (.str "$9")⟩], some (.int 500), none⟩,
      ⟨.nearest, "c\nWHERE 1", some [⟨"\"\"", .eq, .one (.bool true)⟩], none, some 3⟩,
      ⟨.intersects, "a\"b", none, none, none⟩]
    spatialLogic := some .or }

end Sql

end SpatialQuery
