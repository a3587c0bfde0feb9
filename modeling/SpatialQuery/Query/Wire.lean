import SpatialQuery.Json.Basic
import SpatialQuery.Query.Basic

/-!
# The wire form of queries

A query as a JSON object.  Absent parts are left out, empty lists are kept.
-/

set_option autoImplicit false

namespace SpatialQuery

def Scalar.wire : Scalar → Json
  | .bool b => .bool b
  | .num n => .num n
  | .str s => .str s

def FilterValue.wire : FilterValue → Json
  | .one value => value.wire
  | .many values => .arr (values.map Scalar.wire)

def AttributeFilter.wire (f : AttributeFilter) : Json :=
  .obj [("field", .str f.field), ("op", .str f.op.name), ("value", f.value.wire)]

def SpatialFilter.wire (f : SpatialFilter) : Json :=
  .present [
    ("op", some (.str f.op.name)),
    ("targetLayer", some (.str f.targetLayer)),
    ("targetFilter", f.targetFilter.map fun filters => .arr (filters.map AttributeFilter.wire)),
    ("distance", f.distance.map .num),
    ("limit", f.limit.map .int)]

def Metric.wire (m : Metric) : Json :=
  .present [
    ("field", some (.str m.field)),
    ("op", some (.str m.op.name)),
    ("alias", m.name.map .str)]

def Aggregate.wire (a : Aggregate) : Json :=
  .obj [("groupBy", .texts a.groupBy), ("metrics", .arr (a.metrics.map Metric.wire))]

def TimeRef.wire : TimeRef → Json
  | .year n => .obj [("year", .int n)]
  | .date text => .obj [("date", .str text)]

def Temporal.wire (t : Temporal) : Json :=
  .obj [
    ("baseline", t.baseline.wire), ("comparison", t.comparison.wire), ("metric", .str t.metric)]

def OrderBy.wire (o : OrderBy) : Json :=
  .obj [("field", .str o.field), ("direction", .str o.direction.name)]

def Query.wire (q : Query) : Json :=
  .present [
    ("selectLayer", some (.str q.selectLayer)),
    ("selectFields", q.selectFields.map .texts),
    ("attributeFilters", q.attributeFilters.map fun filters =>
      .arr (filters.map AttributeFilter.wire)),
    ("attributeLogic", q.attributeLogic.map fun logic => .str logic.name),
    ("spatialFilters", q.spatialFilters.map fun filters => .arr (filters.map SpatialFilter.wire)),
    ("spatialLogic", q.spatialLogic.map fun logic => .str logic.name),
    ("aggregate", q.aggregate.map Aggregate.wire),
    ("temporal", q.temporal.map Temporal.wire),
    ("limit", q.limit.map .int),
    ("orderBy", q.orderBy.map OrderBy.wire)]

end SpatialQuery
