import SpatialQuery.Json.Printer
import SpatialQuery.Json.Reader
import SpatialQuery.Stack

/-!
# Writing cells

A value is searched for numbers that are not finite, which become null, and then written.  Writing goes from
left to right up to the first thing in its way: a number that no JSON text holds, or a value that is nested
too deep.  Fixed rows of values are only met by the writing, and so are cells that are first converted.
-/

set_option autoImplicit false

namespace SpatialQuery.Feature

inductive Fault where
  /-- The text of a list is nested too deep to be read. -/
  | unreadable (isArray : Bool)
  | tooDeep
  | notFinite
deriving DecidableEq

def Fault.message : Fault → String
  | .unreadable isArray => (Json.Excess.nesting isArray).message
  | .tooDeep => "maximum recursion depth exceeded"
  | .notFinite => "Out of range float values are not JSON compliant"

def finite (j : Json) : Except Fault Json := if j.isFinite then .ok j else .error .notFinite

variable [Stack]

mutual

/-- There is room to search a cell that stands so deep.  Fixed rows of values are not searched. -/
def searchable (depth : Nat) (cell : Cell) : Bool :=
  decide (depth ≤ Stack.searching cell) &&
    match cell with
    | .list items => allSearchable (depth + 1) items
    | .record fields => fieldsSearchable (depth + 1) fields
    | _ => true

def allSearchable (depth : Nat) : List Cell → Bool
  | [] => true
  | cell :: rest => searchable depth cell && allSearchable depth rest

def fieldsSearchable (depth : Nat) : List (Text × Cell) → Bool
  | [] => true
  | (_, cell) :: rest => searchable depth cell && fieldsSearchable depth rest

end

mutual

/-- The JSON value that a cell is written as which stands so deep. -/
def encode (depth : Nat) (cell : Cell) : Except Fault Json :=
  if Stack.writing cell < depth then .error .tooDeep
  else
    match cell with
    | .null => .ok .null
    | .bool b => .ok (.bool b)
    | .num n => finite (.num n)
    | .text t => .ok (.str t)
    | .decimal d => finite (Cell.decimalJson d)
    | .moment iso => .ok (.str iso)
    | .bytes bytes => .ok (.str (Cell.hexText bytes))
    | .span micros => .ok (.str (Cell.spanText micros))
    | .other t => .ok (.str t)
    | .list items => (encodeAll (depth + 1) items).map .arr
    | .tuple items => (encodeAll (depth + 1) items).map .arr
    | .record fields => (encodeFields (depth + 1) fields).map .obj

def encodeAll (depth : Nat) : List Cell → Except Fault (List Json)
  | [] => .ok []
  | cell :: rest => do return (← encode depth cell) :: (← encodeAll depth rest)

def encodeFields (depth : Nat) : List (Text × Cell) → Except Fault (List (Text × Json))
  | [] => .ok []
  | (key, cell) :: rest => do return (key, ← encode depth cell) :: (← encodeFields depth rest)

end

def write (cell : Cell) : Except Fault Text :=
  if searchable 0 cell then (encode 0 cell.cleaned).map fun j => Json.spaced.render j
  else .error .tooDeep

end SpatialQuery.Feature
