/-!
# Doubles as exact binary fractions

A finite double is a sign and a natural significand times a power of two.  Everything that is written
about a double, and every comparison with an integer, is decided on that exact value.
-/

set_option autoImplicit false

namespace SpatialQuery.Decimal

def twoPow (n : Nat) : Nat := Nat.pow 2 n

def tenPow (n : Nat) : Nat := Nat.pow 10 n

/-- The absolute value of a finite double, `significand * 2 ^ exponent`. -/
structure Binary where
  significand : Nat
  exponent : Int
  /-- The neighbour below is half as far away as the neighbour above. -/
  narrowBelow : Bool
deriving DecidableEq

/-- Reads the bits of a finite double and drops its sign. -/
def Binary.ofBits (bits : UInt64) : Binary :=
  let biased := ((bits >>> 52) &&& 0x7FF).toNat
  let fraction := (bits &&& 0xFFFFFFFFFFFFF).toNat
  if biased = 0 then ⟨fraction, -1074, false⟩
  else ⟨twoPow 52 + fraction, (biased : Int) - 1075, fraction = 0 ∧ 1 < biased⟩

def Binary.ofFloat (x : Float) : Binary := Binary.ofBits x.toBits

/-- The sign bit, set for `-0.0` too. -/
def isNegative (x : Float) : Bool := x.toBits >>> 63 == 1

def compareScaled (a : Nat) (i : Int) (b : Nat) (j : Int) : Ordering :=
  compare (a * tenPow i.toNat * twoPow (-j).toNat) (b * twoPow j.toNat * tenPow (-i).toNat)

/-- The quotient nearest to `num / den`, a half going to the even neighbour. -/
def roundHalfEven (num den : Nat) : Nat :=
  let quotient := num / den
  match compare (2 * (num % den)) den with
  | .lt => quotient
  | .gt => quotient + 1
  | .eq => quotient + quotient % 2

/-- The number of units of `10 ^ -places` nearest to the exact value. -/
def Binary.roundedTo (x : Binary) (places : Nat) : Nat :=
  roundHalfEven (x.significand * tenPow places * twoPow x.exponent.toNat)
    (twoPow (-x.exponent).toNat)

def Binary.floor (x : Binary) : Nat :=
  x.significand * twoPow x.exponent.toNat / twoPow (-x.exponent).toNat

def compareInt (n : Int) (x : Float) : Ordering :=
  let b := Binary.ofFloat x
  let magnitude : Int := b.significand * twoPow b.exponent.toNat
  compare (n * twoPow (-b.exponent).toNat) (if isNegative x then -magnitude else magnitude)

/-- A finite double rounded to hundredths, decided on its exact value, a half going to the even
neighbour.  The sign is kept, also on zero. -/
def hundredths (x : Float) : Float :=
  if x.isFinite then
    let rounded := Float.ofScientific ((Binary.ofFloat x).roundedTo 2) true 2
    if isNegative x then -rounded else rounded
  else x

end SpatialQuery.Decimal
