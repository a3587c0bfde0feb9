import SpatialQuery.Decimal.Binary

/-!
# The fewest digits that read back

A decimal stands for a double when it lies in the interval of reals that round to it.  The search
tries ever finer decimal grids; the first grid with a point in the interval wins, and of two such
points the nearer one.
-/

set_option autoImplicit false

namespace SpatialQuery.Decimal

/-- The decimal `digits * 10 ^ exponent`. -/
structure Scaled where
  digits : Nat
  exponent : Int
deriving DecidableEq

/-- The decimal lies among the reals that round to the double: between the midpoints to its
neighbours, the ends included when the significand is even. -/
def Binary.covers (x : Binary) (d : Scaled) : Bool :=
  let low := if x.narrowBelow then 4 * x.significand - 1 else 4 * x.significand - 2
  let high := 4 * x.significand + 2
  let closed := x.significand % 2 == 0
  let fromLow := compareScaled d.digits d.exponent low (x.exponent - 2)
  let toHigh := compareScaled d.digits d.exponent high (x.exponent - 2)
  (fromLow == .gt || (closed && fromLow == .eq)) && (toHigh == .lt || (closed && toHigh == .eq))

/-- The least `k` with `x < 10 ^ k`, for a positive `x`. -/
def Binary.magnitude (x : Binary) : Int :=
  let estimate := ((x.significand.log2 + x.exponent) * 30103).fdiv 100000
  let below (k : Int) : Bool := compareScaled 1 k x.significand x.exponent == .gt
  ([estimate - 1, estimate, estimate + 1, estimate + 2].find? below).getD (estimate + 3)

/-- The grid points of step `10 ^ exponent` on either side of the double that stand for it, the
nearer one first chosen; between two equally near ones the even. -/
def Binary.onGrid (x : Binary) (exponent : Int) : Option Scaled :=
  let lower := x.significand * twoPow x.exponent.toNat * tenPow (-exponent).toNat /
    (twoPow (-x.exponent).toNat * tenPow exponent.toNat)
  let down : Scaled := ⟨lower, exponent⟩
  let up : Scaled := ⟨lower + 1, exponent⟩
  match x.covers down, x.covers up with
  | true, true =>
    match compareScaled (2 * lower + 1) exponent (2 * x.significand) x.exponent with
    | .gt => some down
    | .lt => some up
    | .eq => some (if lower % 2 = 0 then down else up)
  | true, false => some down
  | false, true => some up
  | false, false => none

/-- The exact value, in case no grid of seventeen digits would do. -/
def Binary.exactScaled (x : Binary) : Scaled :=
  if 0 ≤ x.exponent then ⟨x.significand * twoPow x.exponent.toNat, 0⟩
  else ⟨x.significand * Nat.pow 5 (-x.exponent).toNat, x.exponent⟩

def Scaled.stripped (d : Scaled) : Nat → Scaled
  | 0 => d
  | fuel + 1 =>
    if d.digits ≠ 0 ∧ d.digits % 10 = 0 then
      Scaled.stripped ⟨d.digits / 10, d.exponent + 1⟩ fuel
    else d

def Binary.shortest (x : Binary) : Scaled :=
  let top := x.magnitude
  let found := (List.range 17).findSome? fun (n : Nat) => x.onGrid (top - (n + 1 : Nat))
  (found.getD x.exactScaled).stripped 400

end SpatialQuery.Decimal
