import SpatialQuery.Decimal.Shortest

/-!
# The double nearest to a decimal

Decimals beyond the range of doubles are decided by the place value of their leading digit alone, so
that a huge exponent costs nothing.
-/

set_option autoImplicit false

namespace SpatialQuery.Decimal

def infinity : Float := Float.ofBits 0x7FF0000000000000

def notANumber : Float := Float.ofBits 0x7FF8000000000000

/-- The double nearest to a non-negative decimal, a tie going to the even significand. -/
def Scaled.nearest (d : Scaled) : Float :=
  let leading := d.exponent + (Nat.toDigits 10 d.digits).length
  if d.digits = 0 ∨ leading < -400 then 0
  else if 400 < leading then infinity
  else Float.ofScientific d.digits (d.exponent < 0) d.exponent.natAbs

def digitsValue (digits : List Char) : Nat :=
  digits.foldl (fun total digit => total * 10 + (digit.toNat - '0'.toNat)) 0

end SpatialQuery.Decimal
