import SpatialQuery.Decimal.Written
import SpatialQuery.Json.Basic
import SpatialQuery.Text.Hex

/-!
# Cells

The values that a database hands out, and the values that a JSON text is read as.  Numbers that are not
finite are taken out of lists and records before they are written, but not out of fixed rows of values.
-/

set_option autoImplicit false

namespace SpatialQuery

/-- A decimal number of any size, or one of the values that are no numbers. -/
inductive DecimalValue where
  | finite (negative : Bool) (magnitude : Decimal.Scaled)
  | notFinite
deriving DecidableEq

inductive Cell where
  | null
  | bool (b : Bool)
  | num (n : Number)
  | text (t : Text)
  | decimal (d : DecimalValue)
  /-- A date or a time, by its ISO text. -/
  | moment (iso : Text)
  | bytes (bytes : List UInt8)
  | span (micros : Int)
  | other (text : Text)
  | list (items : List Cell)
  | tuple (items : List Cell)
  | record (fields : List (Text × Cell))

namespace Cell

instance : Inhabited Cell := ⟨.null⟩

def text? : Cell → Option Text
  | .text t => some t
  | _ => none

def padded (width n : Nat) : List Char :=
  let digits := Decimal.digitChars n
  List.replicate (width - digits.length) '0' ++ digits

/-- Days if there are any, hours, minutes, seconds, and microseconds if there are any.  A negative
span counts days back and hours forth. -/
def spanText (micros : Int) : String :=
  let day : Int := 86400000000
  let days := micros.fdiv day
  let rest := (micros - days * day).toNat
  let seconds := rest / 1000000
  let fraction := rest % 1000000
  let date :=
    if days = 0 then []
    else Number.intChars days ++ (if days.natAbs = 1 then " day, " else " days, ").toList
  let clock := Decimal.digitChars (seconds / 3600) ++ ':' :: padded 2 (seconds / 60 % 60) ++
    ':' :: padded 2 (seconds % 60)
  String.ofList (date ++ clock ++ if fraction = 0 then [] else '.' :: padded 6 fraction)

def hexText (bytes : List UInt8) : Text :=
  Text.ofChars (bytes.flatMap fun b => Text.hexDigits 2 b.toNat)

def decimalJson : DecimalValue → Json
  | .finite negative magnitude =>
    .real (if negative then -magnitude.nearest else magnitude.nearest)
  | .notFinite => .null

mutual

def ofJson : Json → Cell
  | .null => .null
  | .bool b => .bool b
  | .num n => .num n
  | .str t => .text t
  | .arr items => .list (allOfJson items)
  | .obj members => .record (fieldsOfJson members)

def allOfJson : List Json → List Cell
  | [] => []
  | j :: rest => ofJson j :: allOfJson rest

def fieldsOfJson : List (Text × Json) → List (Text × Cell)
  | [] => []
  | (key, j) :: rest => (key, ofJson j) :: fieldsOfJson rest

end

mutual

/-- Null for each number that is not finite, in lists and records at any depth.  Fixed rows of values stay
as they are. -/
def cleaned : Cell → Cell
  | .num n => if n.isFinite then .num n else .null
  | .list items => .list (allCleaned items)
  | .record fields => .record (fieldsCleaned fields)
  | cell => cell

def allCleaned : List Cell → List Cell
  | [] => []
  | cell :: rest => cleaned cell :: allCleaned rest

def fieldsCleaned : List (Text × Cell) → List (Text × Cell)
  | [] => []
  | (key, cell) :: rest => (key, cleaned cell) :: fieldsCleaned rest

end

end Cell

abbrev Row := List (Text × Cell)

end SpatialQuery
