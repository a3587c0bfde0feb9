import Mathlib.Algebra.Order.Field.Power
import Mathlib.Tactic.Linarith
import Mathlib.Tactic.NormNum
import Mathlib.Tactic.Ring
import SpatialQuery.Decimal.Shortest

/-!
# What decimals and binary fractions are worth

Decimals are compared with binary fractions by natural numbers alone.  Said as rational numbers, the
comparison is the usual order, a decimal stands for a double when it lies in a certain interval, and the
shortest decimal of a double lies in the interval of that double.
-/

set_option autoImplicit false

namespace SpatialQuery.Decimal

def Scaled.value (d : Scaled) : ℚ := d.digits * 10 ^ d.exponent

def Binary.value (x : Binary) : ℚ := x.significand * 2 ^ x.exponent

/-! ## Comparison -/

theorem zpow_mul_pow_toNat {base : ℚ} (nonzero : base ≠ 0) (k : ℤ) :
    base ^ k * base ^ (-k).toNat = base ^ k.toNat := by
  rw [← zpow_natCast, ← zpow_natCast, ← zpow_add₀ nonzero]
  congr 1
  omega

section

variable (a : ℕ) (i : ℤ) (b : ℕ) (j : ℤ)

/-- What both sides of a comparison are multiplied by to become natural numbers. -/
def denominators : ℚ := 10 ^ (-i).toNat * 2 ^ (-j).toNat

theorem denominators_pos : 0 < denominators i j := by
  unfold denominators
  positivity

theorem decimal_side :
    ((a * tenPow i.toNat * twoPow (-j).toNat : ℕ) : ℚ) = a * 10 ^ i * denominators i j := by
  have powers := zpow_mul_pow_toNat (show (10 : ℚ) ≠ 0 by norm_num) i
  simp only [tenPow, twoPow, denominators, Nat.pow_eq]
  push_cast
  rw [← powers]
  ring

theorem binary_side :
    ((b * twoPow j.toNat * tenPow (-i).toNat : ℕ) : ℚ) = b * 2 ^ j * denominators i j := by
  have powers := zpow_mul_pow_toNat (show (2 : ℚ) ≠ 0 by norm_num) j
  simp only [tenPow, twoPow, denominators, Nat.pow_eq]
  push_cast
  rw [← powers]
  ring

variable {a i b j}

theorem compareScaled_lt_iff : compareScaled a i b j = .lt ↔ (a : ℚ) * 10 ^ i < b * 2 ^ j := by
  rw [compareScaled, Nat.compare_eq_lt, ← Nat.cast_lt (α := ℚ), decimal_side, binary_side,
    mul_lt_mul_iff_left₀ (denominators_pos i j)]

theorem compareScaled_gt_iff : compareScaled a i b j = .gt ↔ (b : ℚ) * 2 ^ j < a * 10 ^ i := by
  rw [compareScaled, Nat.compare_eq_gt, ← Nat.cast_lt (α := ℚ), decimal_side, binary_side,
    mul_lt_mul_iff_left₀ (denominators_pos i j)]

theorem compareScaled_eq_iff : compareScaled a i b j = .eq ↔ (a : ℚ) * 10 ^ i = b * 2 ^ j := by
  rw [compareScaled, Nat.compare_eq_eq, ← Nat.cast_inj (R := ℚ), decimal_side, binary_side,
    mul_left_inj' (denominators_pos i j).ne']

variable {closed : Bool}

theorem reaches_iff :
    (compareScaled a i b j == .gt || (closed && compareScaled a i b j == .eq)) = true ↔
      (b : ℚ) * 2 ^ j ≤ a * 10 ^ i ∧ (closed = false → (b : ℚ) * 2 ^ j < a * 10 ^ i) := by
  simp only [Bool.or_eq_true, Bool.and_eq_true, beq_iff_eq, compareScaled_gt_iff,
    compareScaled_eq_iff]
  cases closed with
  | true => simp [le_iff_lt_or_eq, eq_comm]
  | false => simpa using le_of_lt

theorem stays_iff :
    (compareScaled a i b j == .lt || (closed && compareScaled a i b j == .eq)) = true ↔
      (a : ℚ) * 10 ^ i ≤ b * 2 ^ j ∧ (closed = false → (a : ℚ) * 10 ^ i < b * 2 ^ j) := by
  simp only [Bool.or_eq_true, Bool.and_eq_true, beq_iff_eq, compareScaled_lt_iff,
    compareScaled_eq_iff]
  cases closed with
  | true => simp [le_iff_lt_or_eq]
  | false => simpa using le_of_lt

end

/-! ## The interval of a double -/

namespace Binary

variable (x : Binary)

def quarter : ℚ := 2 ^ (x.exponent - 2)

theorem quarter_pos : 0 < x.quarter := by
  unfold quarter
  positivity

def low : ℕ := if x.narrowBelow then 4 * x.significand - 1 else 4 * x.significand - 2

def high : ℕ := 4 * x.significand + 2

/-- The rational rounds to the double: it lies between the midpoints to the neighbours, and at one of
them only if the significand is even. -/
structure Spans (v : ℚ) : Prop where
  above : x.low * x.quarter ≤ v
  below : v ≤ x.high * x.quarter
  inside : x.significand % 2 = 1 → x.low * x.quarter < v ∧ v < x.high * x.quarter

variable {x}

theorem covers_iff {d : Scaled} : x.covers d = true ↔ x.Spans d.value := by
  have odd : (x.significand % 2 == 0) = false ↔ x.significand % 2 = 1 := by
    rw [beq_eq_false_iff_ne]
    omega
  have sides : x.covers d = true ↔
      (x.low * x.quarter ≤ d.value ∧ (x.significand % 2 = 1 → x.low * x.quarter < d.value)) ∧
        (d.value ≤ x.high * x.quarter ∧ (x.significand % 2 = 1 → d.value < x.high * x.quarter)) := by
    rw [← odd]
    exact (Bool.and_eq_true_iff ..).trans (and_congr reaches_iff stays_iff)
  rw [sides]
  constructor
  · rintro ⟨⟨above, insideLow⟩, below, insideHigh⟩
    exact ⟨above, below, fun isOdd => ⟨insideLow isOdd, insideHigh isOdd⟩⟩
  · rintro ⟨above, below, inside⟩
    exact ⟨⟨above, fun isOdd => (inside isOdd).1⟩, below, fun isOdd => (inside isOdd).2⟩

/-! ## The shortest decimal -/

theorem value_eq_quarters (x : Binary) : x.value = 4 * x.significand * x.quarter := by
  have scale : (2 : ℚ) ^ x.exponent = 4 * x.quarter := by
    rw [quarter, zpow_sub₀ (by norm_num)]
    norm_num
    ring
  rw [value, scale]
  ring

theorem low_lt (positive : 0 < x.significand) : x.low < 4 * x.significand := by
  unfold low
  split <;> omega

theorem spans_value (positive : 0 < x.significand) : x.Spans x.value := by
  have low : (x.low : ℚ) < 4 * x.significand := by exact_mod_cast low_lt positive
  have high : (4 * x.significand : ℚ) < x.high := by
    unfold Binary.high
    push_cast
    linarith
  rw [value_eq_quarters]
  have above := mul_lt_mul_of_pos_right low x.quarter_pos
  have below := mul_lt_mul_of_pos_right high x.quarter_pos
  exact ⟨above.le, below.le, fun _ => ⟨above, below⟩⟩

theorem value_exactScaled (x : Binary) : x.exactScaled.value = x.value := by
  unfold exactScaled
  split
  · rename_i nonnegative
    have powers : (2 : ℚ) ^ x.exponent.toNat = 2 ^ x.exponent := by
      rw [← zpow_natCast, Int.toNat_of_nonneg nonnegative]
    simp only [Scaled.value, value, twoPow, Nat.pow_eq, zpow_zero, mul_one]
    push_cast
    rw [powers]
  · rename_i negative
    have powers : (5 : ℚ) ^ (-x.exponent).toNat = 5 ^ (-x.exponent) := by
      rw [← zpow_natCast, Int.toNat_of_nonneg (by omega)]
    have tens : (10 : ℚ) ^ x.exponent = 5 ^ x.exponent * 2 ^ x.exponent := by
      rw [← mul_zpow]
      norm_num
    have fives : (5 : ℚ) ^ (-x.exponent) * 5 ^ x.exponent = 1 := by
      rw [← zpow_add₀ (by norm_num), neg_add_cancel, zpow_zero]
    simp only [Scaled.value, value, Nat.pow_eq]
    push_cast
    rw [powers, tens, mul_assoc, ← mul_assoc (5 ^ (-x.exponent) : ℚ), fives, one_mul]

theorem value_stripped (d : Scaled) (fuel : ℕ) : (d.stripped fuel).value = d.value := by
  induction fuel generalizing d with
  | zero => rfl
  | succ fuel ih =>
    unfold Scaled.stripped
    split
    · rename_i trailing
      obtain ⟨tens, exact⟩ : ∃ tens, d.digits = 10 * tens := ⟨d.digits / 10, by omega⟩
      rw [ih, Scaled.value, Scaled.value, exact, Nat.mul_div_cancel_left _ (by omega),
        zpow_add_one₀ (by norm_num)]
      push_cast
      ring
    · rfl

theorem covers_of_onGrid {exponent : Int} {d : Scaled} (found : x.onGrid exponent = some d) :
    x.covers d = true := by
  unfold onGrid at found
  dsimp only at found
  split at found
  · rename_i down up
    split at found
    · cases found
      exact down
    · cases found
      exact up
    · cases found
      split
      · exact down
      · exact up
  · rename_i down _
    cases found
    exact down
  · rename_i _ up
    cases found
    exact up
  · cases found

/-- What is written for a double rounds to that double. -/
theorem spans_shortest (positive : 0 < x.significand) : x.Spans x.shortest.value := by
  unfold shortest
  rw [value_stripped]
  cases found : (List.range 17).findSome? fun (n : ℕ) => x.onGrid (x.magnitude - (n + 1 : ℕ)) with
  | none =>
    rw [Option.getD_none, value_exactScaled]
    exact spans_value positive
  | some d =>
    obtain ⟨n, _, onGrid⟩ := List.exists_of_findSome?_eq_some found
    exact covers_iff.mp (covers_of_onGrid onGrid)

end Binary

end SpatialQuery.Decimal
