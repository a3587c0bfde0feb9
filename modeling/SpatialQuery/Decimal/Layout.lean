import SpatialQuery.Decimal.Shortest

/-!
# How a double is written

Positional from `0.0001` up to below `10 ^ 16`, always with a digit after the point; otherwise one
leading digit and a signed exponent of at least two digits.  Only the texts of the values that are no
numbers differ between the places where doubles are written.
-/

set_option autoImplicit false

namespace SpatialQuery.Decimal

/-- The texts of the values that have no digits. -/
structure Layout where
  notANumber : String
  infinity : String

def plainLayout : Layout := ⟨"nan", "inf"⟩

def jsonLayout : Layout := ⟨"NaN", "Infinity"⟩

def digitChars (n : Nat) : List Char := Nat.toDigits 10 n

/-- `digits`, of which the first has the place value `10 ^ leading`, in positional form. -/
def positional (digits : List Char) (leading : Int) : List Char :=
  if leading < 0 then
    '0' :: '.' :: List.replicate (-leading - 1).toNat '0' ++ digits
  else
    let whole := leading.toNat + 1
    if digits.length ≤ whole then
      digits ++ List.replicate (whole - digits.length) '0' ++ ['.', '0']
    else digits.take whole ++ '.' :: digits.drop whole

/-- The exponent with its sign and at least two digits. -/
def exponentChars (e : Int) : List Char :=
  let digits := digitChars e.natAbs
  (if e < 0 then '-' else '+') :: (if digits.length < 2 then '0' :: digits else digits)

def scientific (digits : List Char) (leading : Int) : List Char :=
  let mantissa := match digits with
    | first :: second :: rest => first :: '.' :: second :: rest
    | short => short
  mantissa ++ 'e' :: exponentChars leading

def layOut (d : Scaled) : List Char :=
  let digits := digitChars d.digits
  let leading := d.exponent + digits.length - 1
  if -4 ≤ leading ∧ leading < 16 then positional digits leading else scientific digits leading

def Layout.chars (layout : Layout) (x : Float) : List Char :=
  if x.isNaN then layout.notANumber.toList
  else
    let body :=
      if x.isInf then layout.infinity.toList
      else
        let b := Binary.ofFloat x
        if b.significand = 0 then ['0', '.', '0'] else layOut b.shortest
    if isNegative x then '-' :: body else body

def Layout.text (layout : Layout) (x : Float) : String := String.ofList (layout.chars x)

end SpatialQuery.Decimal
