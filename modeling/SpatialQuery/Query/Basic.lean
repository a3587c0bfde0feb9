import SpatialQuery.Number
import SpatialQuery.Text.Basic

/-!
# Structured queries

A query selects features of one layer.  It can filter them by their fields and by their place relative
to the features of other layers, aggregate them, order them and limit their number.  Every part but
the layer is optional, and an absent list is not the same as an empty one.
-/

set_option autoImplicit false

namespace SpatialQuery

inductive AttributeOp where
  | eq | neq | gt | gte | lt | lte | oneOf | like
  /-- A name outside the language.  No well-formed query has one; compilation refuses it. -/
  | other (name : Text)
deriving DecidableEq

inductive SpatialOp where
  | withinDistance | intersects | contains | within | nearest
  /-- A name outside the language.  No well-formed query has one; compilation refuses it. -/
  | other (name : Text)
deriving DecidableEq

inductive Logic where
  | and | or
deriving DecidableEq

inductive MetricOp where
  | count | sum | avg | median | min | max
deriving DecidableEq

inductive Direction where
  | asc | desc
deriving DecidableEq

inductive Scalar where
  | bool (b : Bool)
  | num (n : Number)
  | str (s : Text)
deriving DecidableEq

inductive FilterValue where
  | one (value : Scalar)
  | many (values : List Scalar)
deriving DecidableEq

structure AttributeFilter where
  field : Text
  op : AttributeOp
  value : FilterValue
deriving DecidableEq

/-- The features in a spatial relation to the features of another layer, which may be filtered. -/
structure SpatialFilter where
  op : SpatialOp
  targetLayer : Text
  targetFilter : Option (List AttributeFilter)
  /-- In meters. -/
  distance : Option Number
  limit : Option Int
deriving DecidableEq

structure Metric where
  /-- A field, or `*` for the rows themselves. -/
  field : Text
  op : MetricOp
  name : Option Text
deriving DecidableEq

structure Aggregate where
  groupBy : List Text
  metrics : List Metric
deriving DecidableEq

inductive TimeRef where
  | year (n : Int)
  | date (text : Text)
deriving DecidableEq

structure Temporal where
  baseline : TimeRef
  comparison : TimeRef
  metric : Text
deriving DecidableEq

structure OrderBy where
  field : Text
  direction : Direction
deriving DecidableEq

structure Query where
  selectLayer : Text
  selectFields : Option (List Text)
  attributeFilters : Option (List AttributeFilter)
  /-- How the attribute filters are joined; by default all of them hold. -/
  attributeLogic : Option Logic
  spatialFilters : Option (List SpatialFilter)
  spatialLogic : Option Logic
  aggregate : Option Aggregate
  temporal : Option Temporal
  limit : Option Int
  orderBy : Option OrderBy
deriving DecidableEq

namespace AttributeOp

def all : List AttributeOp := [.eq, .neq, .gt, .gte, .lt, .lte, .oneOf, .like]

def name : AttributeOp → Text
  | .eq => "eq"
  | .neq => "neq"
  | .gt => "gt"
  | .gte => "gte"
  | .lt => "lt"
  | .lte => "lte"
  | .oneOf => "in"
  | .like => "like"
  | .other name => name

/-- Compares by size, and so needs a numeric field. -/
def isNumeric : AttributeOp → Bool
  | .gt | .gte | .lt | .lte => true
  | _ => false

end AttributeOp

namespace SpatialOp

def all : List SpatialOp := [.withinDistance, .intersects, .contains, .within, .nearest]

def name : SpatialOp → Text
  | .withinDistance => "within_distance"
  | .intersects => "intersects"
  | .contains => "contains"
  | .within => "within"
  | .nearest => "nearest"
  | .other name => name

/-- Measures distances, and so needs the projected geometry. -/
def isMetric : SpatialOp → Bool
  | .withinDistance | .nearest => true
  | _ => false

end SpatialOp

namespace Logic

def all : List Logic := [.and, .or]

def name : Logic → Text
  | .and => "and"
  | .or => "or"

end Logic

namespace MetricOp

def all : List MetricOp := [.count, .sum, .avg, .median, .min, .max]

def name : MetricOp → Text
  | .count => "count"
  | .sum => "sum"
  | .avg => "avg"
  | .median => "median"
  | .min => "min"
  | .max => "max"

end MetricOp

namespace Direction

def all : List Direction := [.asc, .desc]

def name : Direction → Text
  | .asc => "asc"
  | .desc => "desc"

end Direction

/-- The value as a truth value: true, false, or a number equal to one or zero. -/
def Scalar.truth? : Scalar → Option Bool
  | .bool b => some b
  | .num n =>
    if n.sameValue (.int 1) then some true
    else if n.sameValue (.int 0) then some false
    else none
  | .str _ => none

def FilterValue.truth? : FilterValue → Option Bool
  | .one value => value.truth?
  | .many _ => none

def SpatialFilter.isNearest (f : SpatialFilter) : Bool := f.op == .nearest

def SpatialFilter.targets (f : SpatialFilter) : List AttributeFilter := f.targetFilter.getD []

namespace Query

def ofLayer (layer : Text) : Query :=
  ⟨layer, none, none, none, none, none, none, none, none, none⟩

def attributes (q : Query) : List AttributeFilter := q.attributeFilters.getD []

def spatials (q : Query) : List SpatialFilter := q.spatialFilters.getD []

def nearest (q : Query) : List SpatialFilter := q.spatials.filter SpatialFilter.isNearest

/-- Names in ascending order, each once. -/
def ascending (names : List Text) : List Text :=
  (names.mergeSort Text.precedes).eraseDups

def sourceLayers (q : Query) : List Text :=
  ascending (q.selectLayer :: q.spatials.map (·.targetLayer))

end Query

end SpatialQuery
