import SpatialQuery.Decimal.Nearest

/-!
# Written decimals

Digits, a fraction after a point, and a power of ten after a mark.
-/

set_option autoImplicit false

namespace SpatialQuery.Decimal

def isAsciiDigit (c : Char) : Bool := '0' ≤ c && c ≤ '9'

/-- Whether a text starts with a minus sign, and the text after its sign. -/
def signPart : List Char → Bool × List Char
  | '-' :: rest => (true, rest)
  | '+' :: rest => (false, rest)
  | cs => (false, cs)

def signed (negative : Bool) (size : Nat) : Int := if negative then -(size : Int) else size

def exponentPart (cs : List Char) : Option Int × List Char :=
  match cs with
  | [] => (none, cs)
  | mark :: after =>
    if mark == 'e' || mark == 'E' then
      let (negative, digits) := signPart after
      let read := digits.takeWhile isAsciiDigit
      if read.isEmpty then (none, cs)
      else (some (signed negative (digitsValue read)), digits.dropWhile isAsciiDigit)
    else (none, cs)

def Scaled.ofDigits (whole fraction : List Char) (exponent : Int) : Scaled :=
  ⟨digitsValue (whole ++ fraction), exponent - fraction.length⟩

/-- The decimal that a text without a sign writes.  One of the digits before and after the point may
be left out. -/
def Scaled.ofChars? (cs : List Char) : Option Scaled :=
  let whole := cs.takeWhile isAsciiDigit
  let (fraction, rest) := match cs.dropWhile isAsciiDigit with
    | '.' :: rest => (rest.takeWhile isAsciiDigit, rest.dropWhile isAsciiDigit)
    | rest => ([], rest)
  let (exponent, left) := exponentPart rest
  if left.isEmpty && !(whole.isEmpty && fraction.isEmpty) then
    some (ofDigits whole fraction (exponent.getD 0))
  else none

end SpatialQuery.Decimal
