import SpatialQuery.Number
import SpatialQuery.Proofs.Decimal.Value

/-!
# What numbers are worth

An integer is worth itself, a finite double is worth its exact binary fraction, and the other doubles are
worth nothing.  A number is the same as an integer just when it is worth that integer.  A number that is
not found to be zero or less need not be positive: a double that is no number at all compares with
nothing.
-/

set_option autoImplicit false

namespace SpatialQuery

namespace Decimal

def exactValue (x : Float) : ℚ :=
  if isNegative x then -(Binary.ofFloat x).value else (Binary.ofFloat x).value

/-- An integer is compared with a double by two integers, which are worth a multiple of both. -/
theorem compareInt_eq_compare (n : ℤ) (x : Float) : ∃ (a b : ℤ) (factor : ℚ),
    compareInt n x = compare a b ∧ 0 < factor ∧ (a : ℚ) = n * factor ∧
      (b : ℚ) = exactValue x * factor := by
  have powers := zpow_mul_pow_toNat (show (2 : ℚ) ≠ 0 by norm_num) (Binary.ofFloat x).exponent
  have magnitude : (Binary.ofFloat x).value * 2 ^ (-(Binary.ofFloat x).exponent).toNat =
      (Binary.ofFloat x).significand * 2 ^ (Binary.ofFloat x).exponent.toNat := by
    rw [Binary.value, mul_assoc, powers]
  -- Both sides are multiplied by the denominator of the double.
  refine ⟨_, _, 2 ^ (-(Binary.ofFloat x).exponent).toNat, rfl, by positivity, ?_, ?_⟩
  · simp only [twoPow, Nat.pow_eq]
    push_cast
    rfl
  · rw [exactValue]
    simp only [twoPow, Nat.pow_eq]
    split
    · push_cast
      rw [neg_mul, magnitude]
    · push_cast
      rw [magnitude]

theorem compareInt_eq_iff (n : ℤ) (x : Float) : compareInt n x = .eq ↔ exactValue x = n := by
  obtain ⟨a, b, factor, compared, positive, first, second⟩ := compareInt_eq_compare n x
  rw [compared, compare_eq_iff_eq, ← Int.cast_inj (α := ℚ), first, second,
    mul_left_inj' positive.ne', eq_comm]

theorem compareInt_lt_iff (n : ℤ) (x : Float) : compareInt n x = .lt ↔ (n : ℚ) < exactValue x := by
  obtain ⟨a, b, factor, compared, positive, first, second⟩ := compareInt_eq_compare n x
  rw [compared, compare_lt_iff_lt, ← Int.cast_lt (R := ℚ), first, second,
    mul_lt_mul_iff_left₀ positive]

end Decimal

namespace Number

/-- What a number is worth, if it is finite. -/
def worth? : Number → Option ℚ
  | .int n => some n
  | .real x => if x.isNaN ∨ x.isInf then none else some (Decimal.exactValue x)

theorem sameValue_int_iff {n : Number} {k : ℤ} :
    n.sameValue (.int k) = true ↔ n.worth? = some (k : ℚ) := by
  cases n with
  | int m => simp [sameValue, compare?, worth?]
  | real x =>
    simp only [sameValue, compare?, compare?.againstInt, worth?]
    by_cases notNumber : x.isNaN = true
    · simp only [if_pos notNumber, if_pos (Or.inl notNumber)]
      exact iff_of_false nofun nofun
    · by_cases infinite : x.isInf = true
      · simp only [if_neg notNumber, if_pos infinite, if_pos (Or.inr infinite)]
        cases Decimal.isNegative x <;> exact iff_of_false nofun nofun
      · simp only [if_neg notNumber, if_neg infinite, if_neg (not_or.mpr ⟨notNumber, infinite⟩),
          Option.map_some, Option.some.injEq, ← Decimal.compareInt_eq_iff]
        cases Decimal.compareInt k x <;> decide

/-- A double that is worth nothing and that compares with no number. -/
def isNoNumber : Number → Bool
  | .int _ => false
  | .real x => x.isNaN

/-- Worth more than zero, or the infinity that is above every worth. -/
def IsPositive : Number → Prop
  | .int n => 0 < n
  | .real x =>
    x.isNaN = false ∧ if x.isInf then Decimal.isNegative x = false else 0 < Decimal.exactValue x

theorem IsPositive.isNoNumber {n : Number} (positive : n.IsPositive) : n.isNoNumber = false := by
  cases n with
  | int m => rfl
  | real x => exact positive.1

/-- What does not compare as zero or less is positive, or it compares with no number. -/
theorem le_zero_eq_false_iff {n : Number} :
    n.le (.int 0) = false ↔ n.IsPositive ∨ n.isNoNumber = true := by
  cases n with
  | int m =>
    have order : compare m 0 = .gt ↔ 0 < m := compare_gt_iff_gt
    simp only [le, compare?, IsPositive, Number.isNoNumber, ← order, Bool.false_eq_true, or_false]
    cases compare m 0 <;> decide
  | real x =>
    have order := Decimal.compareInt_lt_iff 0 x
    rw [Int.cast_zero] at order
    simp only [le, compare?, compare?.againstInt, IsPositive, Number.isNoNumber, ← order]
    cases x.isNaN with
    | true => simp
    | false =>
      cases x.isInf with
      | true => cases Decimal.isNegative x <;> simp
      | false => cases Decimal.compareInt 0 x <;> simp

end Number

end SpatialQuery
