import SpatialQuery.Decimal.Layout

/-!
# Numbers

A number is an exact integer or a double, and the two stay apart: `5` and `5.0` are different
numbers.  Arithmetic on two integers is exact; as soon as a double takes part the result is a double.
Comparison is exact in every case.
-/

set_option autoImplicit false

namespace SpatialQuery

theorem Number.eq_of_toBits_eq (a b : Float) (same : a.toBits = b.toBits) : a = b := by
  obtain ⟨⟨x, _⟩⟩ := a
  obtain ⟨⟨y, _⟩⟩ := b
  change x = y at same
  subst same
  rfl

instance Number.decidableEqFloat : DecidableEq Float := fun a b =>
  if same : a.toBits = b.toBits then .isTrue (Number.eq_of_toBits_eq a b same)
  else .isFalse fun equal => same (congrArg Float.toBits equal)

inductive Number where
  | int (n : Int)
  | real (x : Float)
deriving DecidableEq

namespace Number

instance : Inhabited Number := ⟨.int 0⟩

def toFloat : Number → Float
  | .int n => Float.ofInt n
  | .real x => x

def isFinite : Number → Bool
  | .int _ => true
  | .real x => x.isFinite

/-- How two numbers compare; no answer when one of them is not a number at all. -/
def compare? : Number → Number → Option Ordering
  | .int a, .int b => some (compare a b)
  | .real x, .real y =>
    if x < y then some .lt else if y < x then some .gt else if x == y then some .eq else none
  | .int n, .real x => againstInt n x
  | .real x, .int n => (againstInt n x).map Ordering.swap
where
  againstInt (n : Int) (x : Float) : Option Ordering :=
    if x.isNaN then none
    else if x.isInf then some (if Decimal.isNegative x then .gt else .lt)
    else some (Decimal.compareInt n x)

def lt (a b : Number) : Bool := compare? a b == some .lt

def le (a b : Number) : Bool := compare? a b == some .lt || compare? a b == some .eq

def sameValue (a b : Number) : Bool := compare? a b == some .eq

def sub : Number → Number → Number
  | .int a, .int b => .int (a - b)
  | a, b => .real (a.toFloat - b.toFloat)

def mul : Number → Number → Number
  | .int a, .int b => .int (a * b)
  | a, b => .real (a.toFloat * b.toFloat)

/-- Rounded to hundredths; an integer stays what it is. -/
def toHundredths : Number → Number
  | .int n => .int n
  | .real x => .real (Decimal.hundredths x)

def intChars (n : Int) : List Char :=
  if n < 0 then '-' :: Decimal.digitChars n.natAbs else Decimal.digitChars n.natAbs

def chars (layout : Decimal.Layout) : Number → List Char
  | .int n => intChars n
  | .real x => layout.chars x

def text (layout : Decimal.Layout) (n : Number) : String := String.ofList (n.chars layout)

end Number

end SpatialQuery
