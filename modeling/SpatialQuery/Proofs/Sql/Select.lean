import SpatialQuery.Proofs.Sql.Fragment
import SpatialQuery.Sql.Compile

/-!
# Statements as data

A statement by its parts, and the fragments of each part in the order of the text.  Nothing here is
counted and nothing is collected: what is written, and which values go with it, depends on the order of
the text alone.
-/

set_option autoImplicit false

namespace SpatialQuery.Sql

inductive Test where
  | compare (column : Text) (comparison : Comparison) (value : FilterValue)
  | member (column : Text) (values : List Scalar)
deriving DecidableEq

/-- The union of the geometries of a table, over the rows that pass every test. -/
structure Union where
  frame : Frame
  table : Text
  tests : List Test
deriving DecidableEq

inductive Place where
  | near (target : Union) (distance : Number)
  | related (relation : Relation) (target : Union)
deriving DecidableEq

inductive Argument where
  | rows
  /-- A constant, once for each row. -/
  | one
  | column (name : Text)
deriving DecidableEq

inductive Output where
  | column (name : Text)
  /-- All columns but the two geometries. -/
  | attributes
  /-- The geometry as text, simplified when the tolerance is above zero. -/
  | geometry (tolerance : Number)
  | distance (target : Union)
  | metric (op : MetricOp) (argument : Argument) (name : Text)
deriving DecidableEq

inductive Order where
  | column (name : Text) (direction : Direction)
  /-- By the output column that holds the distance, the nearest first. -/
  | distance
deriving DecidableEq

structure Group (α : Type) where
  logic : Logic
  conditions : List α
deriving DecidableEq

structure Select where
  outputs : List Output
  table : Text
  tests : Group Test
  places : Group Place
  /-- The columns of the groups; absent when rows are not grouped. -/
  groupBy : Option (List Text)
  order : Option Order
  limit : Option Int
deriving DecidableEq

/-! ## The fragments of each part -/

def Test.fragments : Test → List Fragment
  | .compare column comparison value =>
    [.name column, .text (" " ++ comparison.symbol ++ " "), .value value]
  | .member column values =>
    .name column :: .text " IN (" ::
      joined ", " (values.map fun value => [.value (.one value)]) ++ [.text ")"]

def conjunction (tests : List Test) : List Fragment := joined " AND " (tests.map Test.fragments)

def Union.fragments (u : Union) : List Fragment :=
  .text ("SELECT ST_Union_Agg(" ++ u.frame.column ++ ") AS " ++ u.frame.targetName ++ " FROM ") ::
    .name u.table :: if u.tests.isEmpty then [] else .text " WHERE " :: conjunction u.tests

def Place.fragments : Place → List Fragment
  | .near target distance =>
    .text ("ST_DWithin(" ++ target.frame.column ++ ", (") :: target.fragments ++
      [.text "), ", .value (.one (.num distance)), .text ")"]
  | .related relation target =>
    .text (relation.function ++ "(" ++ target.frame.column ++ ", (") :: target.fragments ++
      [.text "))"]

def Argument.fragment : Argument → Fragment
  | .rows => .text "*"
  | .one => .text "1"
  | .column name => .name name

def Output.fragments : Output → List Fragment
  | .column name => [.name name]
  | .attributes => [.text allAttributes]
  | .geometry tolerance => [.text (geometryText tolerance)]
  | .distance target =>
    .text ("ST_Distance(" ++ Catalog.projectedColumn ++ ", (") :: target.fragments ++
      [.text ")) AS distance"]
  | .metric op argument name =>
    [.text (metricFunction op ++ "("), argument.fragment, .text ") AS ", .name name]

def Group.fragments {α : Type} (write : α → List Fragment) (g : Group α) : List Fragment :=
  match g.conditions with
  | [] => []
  | [only] => write only
  | conditions =>
    .text "(" :: joined (" " ++ logicWord g.logic ++ " ") (conditions.map write) ++ [.text ")"]

def whereFragments (tests : Group Test) (places : Group Place) : List Fragment :=
  joined " AND " ([tests.fragments Test.fragments, places.fragments Place.fragments].filter
    fun group => !group.isEmpty)

def Order.fragments : Order → List Fragment
  | .column name direction => [.name name, .text (" " ++ directionWord direction)]
  | .distance => [.text "distance ASC"]

def clause (word : String) (body : List Fragment) : List Fragment :=
  if body.isEmpty then [] else .text ("\n" ++ word ++ " ") :: body

def groupFragments (columns : List Text) : List Fragment :=
  .text "\nGROUP BY " :: joined ", " (columns.map fun name => [.name name])

def Select.fragments (s : Select) : List Fragment :=
  .text "SELECT " :: joined ", " (s.outputs.map Output.fragments) ++
  .text "\nFROM " :: .name s.table ::
  clause "WHERE" (whereFragments s.tests s.places) ++
  s.groupBy.elim [] groupFragments ++
  clause "ORDER BY" (s.order.elim [] Order.fragments) ++
  clause "LIMIT" (s.limit.elim [] fun limit => [.text (String.ofList (Number.intChars limit))])

def Select.written (s : Select) : Written := Sql.written s.fragments

end SpatialQuery.Sql
