import SpatialQuery.Proofs.Decimal.Bits
import SpatialQuery.Proofs.Decimal.Value

/-!
# Intervals of doubles do not overlap

No rational rounds to two doubles.  So the shortest decimals of different positive doubles are worth
different rationals.
-/

set_option autoImplicit false

namespace SpatialQuery.Decimal.Binary

variable {x y : Binary} {v : ℚ}

theorem low_ge (y : Binary) : 4 * y.significand - 2 ≤ y.low := by
  unfold low
  split <;> omega

/-- Of two doubles that a rational rounds to, the lower end of one is not above the upper end of the
other, and is below it if one of the ends belongs to no interval. -/
theorem low_le_high (spansX : x.Spans v) (spansY : y.Spans v) :
    y.low * y.quarter ≤ x.high * x.quarter ∧
      (x.significand % 2 = 1 ∨ y.significand % 2 = 1 →
        y.low * y.quarter < x.high * x.quarter) := by
  refine ⟨spansY.above.trans spansX.below, ?_⟩
  rintro (odd | odd)
  · exact lt_of_le_of_lt spansY.above (spansX.inside odd).2
  · exact lt_of_lt_of_le (spansY.inside odd).1 spansX.below

theorem not_significand_lt (same : x.exponent = y.exponent)
    (spansX : x.Spans v) (spansY : y.Spans v) : ¬ x.significand < y.significand := by
  intro less
  obtain ⟨reach, strict⟩ := low_le_high spansX spansY
  have low := y.low_ge
  have quarters : y.quarter = x.quarter := by
    unfold quarter
    rw [same]
  rw [quarters, mul_le_mul_iff_left₀ x.quarter_pos, Nat.cast_le] at reach
  unfold high at reach
  -- The intervals share an end, so the significands are neighbours and one of them is odd.
  have odd : x.significand % 2 = 1 ∨ y.significand % 2 = 1 := by omega
  have below := strict odd
  rw [quarters, mul_lt_mul_iff_left₀ x.quarter_pos, Nat.cast_lt] at below
  unfold high at below
  omega

theorem not_exponent_lt (canonicalX : x.Canonical) (canonicalY : y.Canonical)
    (spansX : x.Spans v) (spansY : y.Spans v) : ¬ x.exponent < y.exponent := by
  intro less
  have normal : -1074 < y.exponent := lt_of_le_of_lt canonicalX.least less
  have full := canonicalY.full normal
  have low : 2 ^ 54 - 1 ≤ y.low := by
    unfold Binary.low
    split
    · omega
    · rename_i wide
      have other : y.significand ≠ 2 ^ 52 := fun least =>
        wide (canonicalY.narrow.mpr ⟨least, normal⟩)
      omega
  -- A quarter of the greater double is at least two quarters of the smaller one.
  have quarters : 2 * x.quarter ≤ y.quarter := by
    have step : (2 : ℚ) * x.quarter = 2 ^ (x.exponent - 2 + 1) := by
      rw [zpow_add_one₀ (by norm_num), mul_comm]
      rfl
    rw [step]
    exact zpow_le_zpow_right₀ (by norm_num) (by omega)
  have reached : ((2 * (2 ^ 54 - 1) : ℕ) : ℚ) * x.quarter ≤ y.low * y.quarter := by
    have ends : ((2 ^ 54 - 1 : ℕ) : ℚ) ≤ y.low := by exact_mod_cast low
    calc ((2 * (2 ^ 54 - 1) : ℕ) : ℚ) * x.quarter
        = ((2 ^ 54 - 1 : ℕ) : ℚ) * (2 * x.quarter) := by push_cast; ring
      _ ≤ y.low * y.quarter := by
          have positive := x.quarter_pos
          exact mul_le_mul ends quarters (by positivity) (by positivity)
  obtain ⟨reach, strict⟩ := low_le_high spansX spansY
  have weak := reached.trans reach
  rw [mul_le_mul_iff_left₀ x.quarter_pos, Nat.cast_le] at weak
  have bounded := canonicalX.bounded
  unfold high at weak
  -- Only the greatest significand reaches that far, and it is odd.
  have below := lt_of_le_of_lt reached (strict (Or.inl (by omega)))
  rw [mul_lt_mul_iff_left₀ x.quarter_pos, Nat.cast_lt] at below
  unfold high at below
  omega

/-- A rational rounds to one double at most. -/
theorem eq_of_spans (canonicalX : x.Canonical) (canonicalY : y.Canonical) (spansX : x.Spans v)
    (spansY : y.Spans v) : x = y := by
  have exponents : x.exponent = y.exponent := by
    have notLess := not_exponent_lt canonicalX canonicalY spansX spansY
    have notMore := not_exponent_lt canonicalY canonicalX spansY spansX
    omega
  have significands : x.significand = y.significand := by
    have notLess := not_significand_lt exponents spansX spansY
    have notMore := not_significand_lt exponents.symm spansY spansX
    omega
  have narrow : x.narrowBelow = y.narrowBelow := by
    rw [Bool.eq_iff_iff, canonicalX.narrow, canonicalY.narrow, significands, exponents]
  obtain ⟨significandX, exponentX, narrowX⟩ := x
  obtain ⟨significandY, exponentY, narrowY⟩ := y
  subst significands exponents narrow
  rfl

theorem eq_of_shortest (canonicalX : x.Canonical) (canonicalY : y.Canonical)
    (positiveX : 0 < x.significand) (positiveY : 0 < y.significand)
    (same : x.shortest.value = y.shortest.value) : x = y := by
  have spansY := spans_shortest positiveY
  rw [← same] at spansY
  exact eq_of_spans canonicalX canonicalY (spans_shortest positiveX) spansY

theorem shortest_pos (positive : 0 < x.significand) : 0 < x.shortest.value := by
  have spans := spans_shortest positive
  refine lt_of_lt_of_le ?_ spans.above
  have low : 0 < x.low := by
    unfold Binary.low
    split <;> omega
  have quarter := x.quarter_pos
  positivity

end SpatialQuery.Decimal.Binary
