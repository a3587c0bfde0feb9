import SpatialQuery.Checked
import SpatialQuery.Json.Basic
import SpatialQuery.Query.Basic
import SpatialQuery.Text.Digit

/-!
# The shape of queries

Which JSON values are queries, and everything that is wrong with one that is not.  Nothing is
converted: a string of digits is no number and a truth value is no integer.  Each rule reads one kind
of part.  The violations of independent parts add up in the order of the parts; a condition that ties
the fields of one part together is looked at only when each of the fields is well formed.
-/

set_option autoImplicit false

namespace SpatialQuery.Shape

open Checked (refuse)

abbrev Rule (α : Type) := Json → Checked α

/-- A string that may hold lone surrogates. -/
def string : Rule Text
  | .str t => .ok t
  | _ => refuse "Input should be a valid string"

def unencodableMessage : String :=
  "Input should be a valid string, unable to parse raw data as a unicode string"

def surrogateFault? (t : Text) : Option Text :=
  if t.toString?.isNone then some unencodableMessage else none

def name (j : Json) : Checked Text :=
  (string j).ensure fun t =>
    if t = "" then some "String should have at least 1 character" else surrogateFault? t

def integer : Rule Int
  | .num (.int n) => .ok n
  | _ => refuse "Input should be a valid integer"

def positive (j : Json) : Checked Int :=
  (integer j).ensure fun n => if 0 < n then none else some "Input should be greater than 0"

def year (j : Json) : Checked Int :=
  (integer j).ensure fun n =>
    if n < 1900 then some "Input should be greater than or equal to 1900"
    else if 2100 < n then some "Input should be less than or equal to 2100"
    else none

def list {α : Type} (item : Rule α) : Rule (List α)
  | .arr items => Checked.allFrom item 0 items
  | _ => refuse "Input should be a valid list"

def nonEmptyList {α : Type} (item : Rule α) : Rule (List α)
  | .arr [] => refuse "List should have at least 1 item after validation, not 0"
  | j => list item j

/-- The names in quotes, the last one after the word "or". -/
def alternatives : List Text → Text
  | [] => ""
  | [last] => "'" ++ last ++ "'"
  | [first, last] => "'" ++ first ++ "' or '" ++ last ++ "'"
  | first :: second :: rest => "'" ++ first ++ "', " ++ alternatives (second :: rest)

def choice {α : Type} (all : List α) (nameOf : α → Text) (j : Json) : Checked α :=
  let unknown := "Input should be " ++ alternatives (all.map nameOf)
  match j with
  | .str t =>
    match all.find? fun a => t == nameOf a with
    | some a => .ok a
    | none => refuse ((surrogateFault? t).getD unknown)
  | _ => refuse unknown

def record {α : Type} (kind : Text) (part : List (Text × Json) → Checked α) : Rule α
  | .obj members => part members
  | _ => refuse ("Input should be a valid dictionary or instance of " ++ kind)

/-- The value under a key, or under its second spelling when the key is absent, with the key that
holds it. -/
def member? (members : List (Text × Json)) (key spelling : Text) : Option (Text × Json) :=
  match Json.member? members key with
  | some j => some (key, j)
  | none => (Json.member? members spelling).map (spelling, ·)

def required {α : Type} (members : List (Text × Json)) (key spelling : Text)
    (rule : Rule α) : Checked α :=
  match member? members key spelling with
  | some (found, j) => (rule j).under found
  | none => Checked.under key (refuse "Field required")

/-- Null is as good as absent. -/
def optional {α : Type} (members : List (Text × Json)) (key spelling : Text)
    (rule : Rule α) : Checked (Option α) :=
  match member? members key spelling with
  | none => .ok none
  | some (_, .null) => .ok none
  | some (found, j) => ((rule j).under found).map some

/-! ## Values of filters -/

def scalar? : Json → Option Scalar
  | .bool b => some (.bool b)
  | .num n => some (.num n)
  | .str t => some (.str t)
  | _ => none

/-- What is wrong with a value that is no scalar, one violation for each kind of scalar. -/
def noScalar : List Violation := [
  ⟨["bool"], "Input should be a valid boolean"⟩, ⟨["int"], "Input should be a valid integer"⟩,
  ⟨["float"], "Input should be a valid number"⟩, ⟨["str"], "Input should be a valid string"⟩]

def scalar (j : Json) : Checked Scalar :=
  match scalar? j with
  | some s => .ok s
  | none => .error noScalar

def scalarList (j : Json) : Checked (List Scalar) := list scalar j

def filterValue (j : Json) : Checked FilterValue :=
  match scalar? j with
  | some s => .ok (.one s)
  | none =>
    match Checked.under "list[union[bool,int,float,str]]" (scalarList j) with
    | .ok values => .ok (.many values)
    | .error violations => .error (noScalar ++ violations)

/-! ## Filters -/

/-- A list of values goes with `in`, and nothing else does. -/
def valueFault? (f : AttributeFilter) : Option Text :=
  match f.op, f.value with
  | .oneOf, .one _ => some "operator 'in' requires an array value"
  | .oneOf, .many [] => some "operator 'in' requires a non-empty array"
  | .oneOf, .many _ => none
  | _, .one _ => none
  | op, .many _ => some ("operator '" ++ op.name ++ "' requires a scalar value")

def attributeFilter : Rule AttributeFilter :=
  record "AttributeFilter" fun members =>
    let parts : Checked AttributeFilter :=
      ((required members "field" "field" name).map AttributeFilter.mk)
        |>.ap (required members "op" "op" (choice AttributeOp.all AttributeOp.name))
        |>.ap (required members "value" "value" filterValue)
    parts.ensure valueFault?

def distance (j : Json) : Checked Number :=
  match j with
  | .num n =>
    if n.le (.int 0) then refuse "distance must be positive" else .ok n
  | _ => .error [⟨["int"], "Input should be a valid integer"⟩,
      ⟨["float"], "Input should be a valid number"⟩]

def parameterFault? (f : SpatialFilter) : Option Text :=
  match f.op with
  | .withinDistance =>
    if f.distance.isNone then some "within_distance requires a distance in meters" else none
  | .nearest => if f.limit.isNone then some "nearest requires a limit" else none
  | _ => none

def spatialFilter : Rule SpatialFilter :=
  record "SpatialFilter" fun members =>
    let parts : Checked SpatialFilter :=
      ((required members "op" "op" (choice SpatialOp.all SpatialOp.name)).map SpatialFilter.mk)
        |>.ap (required members "targetLayer" "target_layer" name)
        |>.ap (optional members "targetFilter" "target_filter" (list attributeFilter))
        |>.ap (optional members "distance" "distance" distance)
        |>.ap (optional members "limit" "limit" positive)
    parts.ensure parameterFault?

/-! ## Aggregates, times, order -/

def metric : Rule Metric :=
  record "AggregateMetric" fun members =>
    ((required members "field" "field" name).map Metric.mk)
      |>.ap (required members "op" "op" (choice MetricOp.all MetricOp.name))
      |>.ap (optional members "alias" "alias" name)

def aggregate : Rule Aggregate :=
  record "AggregateSpec" fun members =>
    ((required members "groupBy" "group_by" (nonEmptyList name)).map Aggregate.mk)
      |>.ap (required members "metrics" "metrics" (nonEmptyList metric))

/-- Four digits, two and two, separated by hyphens.  The digits may be of any script, and one line
break may follow. -/
def isDateText (text : Text) : Bool :=
  match text.shown with
  | y :: y1 :: y2 :: y3 :: '-' :: m :: m1 :: '-' :: d :: d1 :: rest =>
    [y, y1, y2, y3, m, m1, d, d1].all Text.isDigit && (rest == [] || rest == ['\n'])
  | _ => false

def dateText (j : Json) : Checked Text :=
  (string j).ensure fun text =>
    if isDateText text then none else some "date must be formatted YYYY-MM-DD"

def yearRef : Rule TimeRef :=
  record "YearRef" fun members => (required members "year" "year" year).map TimeRef.year

def dateRef : Rule TimeRef :=
  record "DateRef" fun members => (required members "date" "date" dateText).map TimeRef.date

def timeRef (j : Json) : Checked TimeRef :=
  match (yearRef j).under "YearRef", (dateRef j).under "DateRef" with
  | .ok ref, _ => .ok ref
  | .error _, .ok ref => .ok ref
  | .error asYear, .error asDate => .error (asYear ++ asDate)

def temporal : Rule Temporal :=
  record "TemporalQuery" fun members =>
    ((required members "baseline" "baseline" timeRef).map Temporal.mk)
      |>.ap (required members "comparison" "comparison" timeRef)
      |>.ap (required members "metric" "metric" name)

def orderBy : Rule OrderBy :=
  record "OrderBy" fun members =>
    ((required members "field" "field" name).map OrderBy.mk)
      |>.ap (required members "direction" "direction" (choice Direction.all Direction.name))

def query : Rule Query :=
  record "StructuredQuery" fun members =>
    ((required members "selectLayer" "select_layer" name).map Query.mk)
      |>.ap (optional members "selectFields" "select_fields" (list name))
      |>.ap (optional members "attributeFilters" "attribute_filters" (list attributeFilter))
      |>.ap (optional members "attributeLogic" "attribute_logic" (choice Logic.all Logic.name))
      |>.ap (optional members "spatialFilters" "spatial_filters" (list spatialFilter))
      |>.ap (optional members "spatialLogic" "spatial_logic" (choice Logic.all Logic.name))
      |>.ap (optional members "aggregate" "aggregate" aggregate)
      |>.ap (optional members "temporal" "temporal" temporal)
      |>.ap (optional members "limit" "limit" positive)
      |>.ap (optional members "orderBy" "order_by" orderBy)

end SpatialQuery.Shape

namespace SpatialQuery

namespace Query

def ofJson (raw : Json) : Except (List Issue) Query := Checked.toIssues (Shape.query raw)

inductive Wrapping where
  | wrapped
  | direct
deriving DecidableEq

def Wrapping.name : Wrapping → Text
  | .wrapped => "wrapped"
  | .direct => "direct"

/-- The query of a request: the object under `query`, if there is one, or else the whole request. -/
def payload (body : Json) : Json × Wrapping :=
  match body.get? "query" with
  | some (.obj members) => (.obj members, .wrapped)
  | _ => (body, .direct)

end Query

end SpatialQuery
