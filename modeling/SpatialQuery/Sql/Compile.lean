import SpatialQuery.Layer.Registry
import SpatialQuery.Sql.Written

/-!
# Compiling queries

A query becomes the text of a statement once every layer and field that it names is known.  Every layer
is a table with two geometry columns: distances are measured in the projected one, relations without
distances are decided in the geographic one, and what is put out is always the geographic one.  The
target of a spatial relation is one geometry, the union of the target rows.

The text is put together from parts, and whatever stands for a value hands the value over when its part
is made: its placeholder bears the number of the values that were handed over by then.  Each reason for
which a query cannot be compiled is found at the first part that has it.
-/

set_option autoImplicit false

namespace SpatialQuery.Sql

inductive CompileError where
  | unknownLayer (layer : Text) (available : List Text)
  | unknownField (field layer : Text)
  | noValues (field : Text)
  | unknownComparison (name : Text)
  | orderingAsCondition
  | noDistance
  | unknownRelation (name : Text)
  | severalNearest
  | nearestInAggregate
  | noNearestLimit
deriving DecidableEq

def CompileError.message : CompileError → Text
  | .unknownLayer layer available =>
    "Unknown layer: " ++ layer ++ ". Available layers: " ++ Text.intercalate ", " available
  | .unknownField field layer => "Unknown field " ++ field ++ " on layer " ++ layer
  | .noValues field => "in filter on " ++ field ++ " requires a non-empty list"
  | .unknownComparison name => "Unsupported attribute operation: " ++ name
  | .orderingAsCondition => "nearest is an ordering, not a predicate"
  | .noDistance => "within_distance requires distance parameter"
  | .unknownRelation name => "Unsupported spatial operation: " ++ name
  | .severalNearest => "Only one nearest filter is supported per query"
  | .nearestInAggregate => "nearest cannot be combined with aggregate"
  | .noNearestLimit => "nearest operation requires limit parameter"

abbrev Compiled (α : Type) := Except CompileError α

def layer (registry : Registry) (name : Text) : Compiled Layer :=
  match registry.get? name with
  | some layer => .ok layer
  | none => .error (.unknownLayer name registry.names)

/-- A step of compiling, with the values that have been handed over. -/
abbrev Compiling (α : Type) := StateT (List FilterValue) Compiled α

/-- Hands a value over, and gives the placeholder that stands for it. -/
def bound (value : FilterValue) : Compiling Text := do
  modify (· ++ [value])
  return placeholder (← get).length

def column (layer : Layer) (field : Text) : Compiled Text :=
  if layer.hasColumn field then .ok (quoteIdentifier field)
  else .error (.unknownField field layer.name)

/-! ## The words of a statement -/

inductive Frame where
  | geographic
  | projected
deriving DecidableEq

inductive Comparison where
  | equal | different | greater | atLeast | less | atMost | like
deriving DecidableEq

inductive Relation where
  | intersects | contains | within
deriving DecidableEq

def Frame.column : Frame → String
  | .geographic => Catalog.geographicColumn
  | .projected => Catalog.projectedColumn

def Frame.targetName : Frame → String
  | .geographic => "target_geom_4326"
  | .projected => "target_geom_utm13"

def Comparison.symbol : Comparison → String
  | .equal => "="
  | .different => "!="
  | .greater => ">"
  | .atLeast => ">="
  | .less => "<"
  | .atMost => "<="
  | .like => "LIKE"

def Relation.function : Relation → String
  | .intersects => "ST_Intersects"
  | .contains => "ST_Contains"
  | .within => "ST_Within"

def logicWord : Logic → String
  | .and => "AND"
  | .or => "OR"

def directionWord : Direction → String
  | .asc => "ASC"
  | .desc => "DESC"

def metricFunction : MetricOp → String
  | .count => "COUNT"
  | .sum => "SUM"
  | .avg => "AVG"
  | .median => "MEDIAN"
  | .min => "MIN"
  | .max => "MAX"

def comparison? : AttributeOp → Option Comparison
  | .eq => some .equal
  | .neq => some .different
  | .gt => some .greater
  | .gte => some .atLeast
  | .lt => some .less
  | .lte => some .atMost
  | .like => some .like
  | .oneOf | .other _ => none

def relation? : SpatialOp → Option Relation
  | .intersects => some .intersects
  | .contains => some .contains
  | .within => some .within
  | .withinDistance | .nearest | .other _ => none

def geometryText (tolerance : Number) : String :=
  let column := Catalog.geographicColumn
  let outline :=
    if (Number.int 0).lt tolerance then
      "ST_SimplifyPreserveTopology(" ++ column ++ ", " ++
        Decimal.plainLayout.text tolerance.toFloat ++ ")"
    else column
  "ST_AsGeoJSON(" ++ outline ++ ") AS geometry"

def metricName (m : Metric) : Text :=
  let what : Text := if m.field = "*" then "all" else m.field
  m.name.getD (m.op.name ++ "_" ++ what)

/-- Distances are measured in the projected geometry. -/
def frame (op : SpatialOp) : Frame := if op.isMetric then .projected else .geographic

/-! ## Conditions -/

def attributeCondition (layer : Layer) (f : AttributeFilter) : Compiling Text := do
  let column ← column layer f.field
  match f.op, f.value with
  | .oneOf, .many (first :: rest) =>
    let placeholders ← (first :: rest).mapM fun value => bound (.one value)
    return column ++ " IN (" ++ Text.intercalate ", " placeholders ++ ")"
  | .oneOf, _ => throw (.noValues f.field)
  | op, value =>
    match comparison? op with
    | some comparison => return column ++ (" " ++ comparison.symbol ++ " ") ++ (← bound value)
    | none => throw (.unknownComparison op.name)

def targetSubquery (registry : Registry) (s : SpatialFilter) : Compiling Text := do
  let target ← layer registry s.targetLayer
  let frame := frame s.op
  let subquery : Text :=
    ("SELECT ST_Union_Agg(" ++ frame.column ++ ") AS " ++ frame.targetName ++ " FROM ") ++
      quoteIdentifier target.name
  if s.targets.isEmpty then return subquery
  let conditions ← s.targets.mapM (attributeCondition target)
  return subquery ++ " WHERE " ++ Text.intercalate " AND " conditions

def spatialCondition (registry : Registry) (s : SpatialFilter) : Compiling Text := do
  if s.op = .nearest then throw .orderingAsCondition
  let source := (frame s.op).column
  let target ← targetSubquery registry s
  if s.op = .withinDistance then
    match s.distance with
    | some distance =>
      return ("ST_DWithin(" ++ source ++ ", (") ++ target ++ "), " ++
        (← bound (.one (.num distance))) ++ ")"
    | none => throw .noDistance
  else
    match relation? s.op with
    | some relation => return (relation.function ++ "(" ++ source ++ ", (") ++ target ++ "))"
    | none => throw (.unknownRelation s.op.name)

def combine (logic : Logic) : List Text → Option Text
  | [] => none
  | [only] => some only
  | conditions =>
    some ("(" ++ Text.intercalate (" " ++ logicWord logic ++ " ") conditions ++ ")")

def allOf : List Text → Option Text
  | [] => none
  | groups => some (Text.intercalate " AND " groups)

def whereClause (registry : Registry) (layer : Layer) (q : Query) (spatials : List SpatialFilter) :
    Compiling (Option Text) := do
  let attributes ← q.attributes.mapM (attributeCondition layer)
  let places ← spatials.mapM (spatialCondition registry)
  return allOf ((combine (q.attributeLogic.getD .and) attributes).toList ++
    (combine (q.spatialLogic.getD .and) places).toList)

/-! ## Outputs -/

def allAttributes : String :=
  "* EXCLUDE (" ++ Catalog.geographicColumn ++ ", " ++ Catalog.projectedColumn ++ ")"

def projection (layer : Layer) (q : Query) : Compiled (List Text) :=
  match q.selectFields.getD [] with
  | [] => .ok [allAttributes]
  | names => names.mapM (column layer)

def metricOutput (layer : Layer) (m : Metric) : Compiled Text := do
  let argument : Text ←
    if m.field = "*" then pure (if m.op = .count then "*" else "1") else column layer m.field
  return (metricFunction m.op ++ "(") ++ argument ++ ") AS " ++ quoteIdentifier (metricName m)

def aggregateProjection (layer : Layer) (a : Aggregate) : Compiled (List Text) := do
  let groups ← a.groupBy.mapM (column layer)
  let metrics ← a.metrics.mapM (metricOutput layer)
  return groups ++ metrics

def outputs (layer : Layer) (q : Query) (tolerance : Number) : Compiled (List Text) :=
  match q.aggregate with
  | some aggregate => aggregateProjection layer aggregate
  | none => do return (← projection layer q) ++ [.ofString (geometryText tolerance)]

/-! ## Lines -/

def selectLines (outputs : List Text) (layer : Layer) : List Text :=
  ["SELECT " ++ Text.intercalate ", " outputs, "FROM " ++ quoteIdentifier layer.name]

def whereLine (condition : Option Text) : List Text :=
  condition.toList.map fun condition => "WHERE " ++ condition

def groupLine (layer : Layer) (q : Query) : Compiled (List Text) :=
  match q.aggregate with
  | none => .ok []
  | some aggregate => do
    return ["GROUP BY " ++ Text.intercalate ", " (← aggregate.groupBy.mapM (column layer))]

def orderLine (layer : Layer) (q : Query) : Compiled (List Text) :=
  match q.orderBy with
  | none => .ok []
  | some o => do
    return ["ORDER BY " ++ (← column layer o.field) ++ (" " ++ directionWord o.direction)]

def limitLine (limit : Option Int) : List Text :=
  limit.toList.map fun limit => "LIMIT " ++ Text.ofChars (Number.intChars limit)

/-- The nearest features: ordered by distance, and as many as both limits allow. -/
def nearestLines (registry : Registry) (layer : Layer) (q : Query) (tolerance : Number)
    (nearest : SpatialFilter) : Compiling (List Text) := do
  if q.aggregate.isSome then throw .nearestInAggregate
  match nearest.limit with
  | none => throw .noNearestLimit
  | some k =>
    let target ← targetSubquery registry nearest
    let fields ← projection layer q
    let distance := ("ST_Distance(" ++ Catalog.projectedColumn ++ ", (") ++ target ++ ")) AS distance"
    let condition ← whereClause registry layer q (q.spatials.filter fun s => !s.isNearest)
    return selectLines (fields ++ [distance, geometryText tolerance]) layer ++
      whereLine condition ++ [.ofString "ORDER BY distance ASC"] ++
      limitLine (some (q.limit.elim k (min · k)))

/-- Features one by one, or one row for each group of features, in the order that is asked for. -/
def plainLines (registry : Registry) (layer : Layer) (q : Query) (tolerance : Number) :
    Compiling (List Text) := do
  let outputs ← outputs layer q tolerance
  let condition ← whereClause registry layer q q.spatials
  let grouped ← groupLine layer q
  let ordered ← orderLine layer q
  return selectLines outputs layer ++ whereLine condition ++ grouped ++ ordered ++ limitLine q.limit

def lines (registry : Registry) (q : Query) (tolerance : Number) : Compiling (List Text) := do
  let layer ← layer registry q.selectLayer
  match q.nearest with
  | [] => plainLines registry layer q tolerance
  | [nearest] => nearestLines registry layer q tolerance nearest
  | _ => throw .severalNearest

def compile (registry : Registry) (q : Query) (tolerance : Number) : Compiled Written := do
  let (lines, values) ← (lines registry q tolerance).run []
  return ⟨Text.intercalate "\n" lines, values⟩

end SpatialQuery.Sql
