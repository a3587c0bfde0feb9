import SpatialQuery.Proofs.Decimal.Distinct
import SpatialQuery.Proofs.Decimal.Rounding

/-!
# The nearest double is the one that the decimal rounds to

A decimal of few digits is the product or the quotient of two exact doubles; any other is multiplied out
before it is rounded.  Either way the result is rounded once, so a decimal from the interval of a double
is read as that double.
-/

set_option autoImplicit false

namespace SpatialQuery.Decimal

open Float.Model (Format UnpackedFloat)
open Float.Model.UnpackedFloat (Sign Accuracy accuracyOfFraction roundWithAccuracy divCore)

/-! ## One rounding -/

def quotientPlace (m₁ : ℕ) (e₁ : ℤ) (m₂ : ℕ) (e₂ : ℤ) : ℤ :=
  min (e₁ - e₂) (max (((m₁.log2 : ℤ) + 1 + e₁) - ((m₂.log2 : ℤ) + 1 + e₂) - 53) (-1074))

theorem divCore_eq (m₁ : ℕ) (e₁ : ℤ) (m₂ : ℕ) (e₂ : ℤ) :
    divCore Format.binary64 m₁ e₁ m₂ e₂ =
      (m₁ <<< (e₁ - e₂ - quotientPlace m₁ e₁ m₂ e₂).toNat / m₂, quotientPlace m₁ e₁ m₂ e₂,
        accuracyOfFraction (m₁ <<< (e₁ - e₂ - quotientPlace m₁ e₁ m₂ e₂).toNat % m₂) m₂) := rfl

theorem quotientPlace_le {m₁ m₂ : ℕ} (some₁ : 0 < m₁) (some₂ : 0 < m₂) (e₁ e₂ : ℤ) :
    quotientPlace m₁ e₁ m₂ e₂ ≤
      lastPlace (m₁ <<< (e₁ - e₂ - quotientPlace m₁ e₁ m₂ e₂).toNat / m₂)
        (quotientPlace m₁ e₁ m₂ e₂) := by
  generalize isShift : (e₁ - e₂ - quotientPlace m₁ e₁ m₂ e₂).toNat = shift
  by_cases low : quotientPlace m₁ e₁ m₂ e₂ ≤ -1074
  · exact low.trans (le_max_right _ _)
  · have places : 53 + m₂.log2 ≤ m₁.log2 + shift := by
      unfold quotientPlace at low isShift
      omega
    have numerator : 2 ^ (53 + m₂.log2) ≤ m₁ <<< shift := by
      rw [Nat.shiftLeft_eq]
      refine (Nat.pow_le_pow_right (by decide) places).trans ?_
      rw [Nat.pow_add]
      exact Nat.mul_le_mul_right _ (Nat.log2_self_le (by omega))
    have denominator : 2 ^ 52 * m₂ ≤ 2 ^ (53 + m₂.log2) := by
      have below : m₂ < 2 ^ (m₂.log2 + 1) := Nat.lt_log2_self
      have split : 2 ^ (53 + m₂.log2) = 2 ^ 52 * 2 ^ (m₂.log2 + 1) := by
        rw [← Nat.pow_add]
        congr 1
        omega
      rw [split]
      exact Nat.mul_le_mul_left _ below.le
    have long : 2 ^ 52 ≤ m₁ <<< shift / m₂ :=
      (Nat.le_div_iff_mul_le some₂).mpr (denominator.trans numerator)
    have digits : 52 ≤ (m₁ <<< shift / m₂).log2 := (Nat.le_log2 (by omega)).mpr long
    unfold lastPlace
    omega

section

variable {x : Binary} {m₁ m₂ : ℕ} (e₁ e₂ : ℤ) (canonical : x.Canonical)
  (positive : 0 < x.significand) (sign : Sign)

include canonical

theorem round_product (long : 2 ^ 52 ≤ m₁) (some : 0 < m₂)
    (spans : x.Spans ((m₁ * 2 ^ e₁) * (m₂ * 2 ^ e₂))) :
    roundWithAccuracy Format.binary64 sign (m₁ * m₂) (e₁ + e₂) .exact =
      .finite sign x.significand x.exponent positive := by
  have digits : 52 ≤ (m₁ * m₂).log2 :=
    (Nat.le_log2 (by positivity)).mpr (long.trans (Nat.le_mul_of_pos_right _ some))
  have fine : e₁ + e₂ ≤ lastPlace (m₁ * m₂) (e₁ + e₂) := by
    unfold lastPlace
    omega
  refine roundWithAccuracy_eq (r := 0) canonical positive sign fine rfl ?_
  have whole : (((m₁ * m₂ : ℕ) : ℚ) + 0) * 2 ^ (e₁ + e₂) = (m₁ * 2 ^ e₁) * (m₂ * 2 ^ e₂) := by
    rw [zpow_add₀ (by norm_num)]
    push_cast
    ring
  rw [whole]
  exact spans

theorem round_quotient (some₁ : 0 < m₁) (some₂ : 0 < m₂)
    (spans : x.Spans ((m₁ * 2 ^ e₁) / (m₂ * 2 ^ e₂))) :
    roundWithAccuracy Format.binary64 sign (divCore Format.binary64 m₁ e₁ m₂ e₂).1
        (divCore Format.binary64 m₁ e₁ m₂ e₂).2.1 (divCore Format.binary64 m₁ e₁ m₂ e₂).2.2 =
      .finite sign x.significand x.exponent positive := by
  have fine := quotientPlace_le some₁ some₂ e₁ e₂
  have below : quotientPlace m₁ e₁ m₂ e₂ ≤ e₁ - e₂ := min_le_left _ _
  have divisor : (m₂ : ℚ) ≠ 0 := by exact_mod_cast some₂.ne'
  rw [divCore_eq]
  dsimp only
  generalize isShift : (e₁ - e₂ - quotientPlace m₁ e₁ m₂ e₂).toNat = shift at *
  generalize quotientPlace m₁ e₁ m₂ e₂ = place at *
  refine roundWithAccuracy_eq canonical positive sign fine
    (leaves_of_fraction (Nat.mod_lt _ some₂)) ?_
  have quotient : ((m₁ <<< shift / m₂ : ℕ) : ℚ) + ((m₁ <<< shift % m₂ : ℕ) : ℚ) / m₂ =
      m₁ * 2 ^ shift / m₂ := by
    have division : (m₂ : ℚ) * ((m₁ <<< shift / m₂ : ℕ) : ℚ) + ((m₁ <<< shift % m₂ : ℕ) : ℚ) =
        m₁ * 2 ^ shift := by
      rw [Nat.shiftLeft_eq]
      exact_mod_cast Nat.div_add_mod _ m₂
    rw [← division, add_div, mul_div_cancel_left₀ _ divisor]
  have whole : (m₁ * 2 ^ shift / m₂ : ℚ) * 2 ^ place = (m₁ * 2 ^ e₁) / (m₂ * 2 ^ e₂) := by
    have power : (2 : ℚ) ^ shift * 2 ^ place = 2 ^ e₁ / 2 ^ e₂ := by
      rw [← zpow_natCast, ← zpow_add₀ (by norm_num), ← zpow_sub₀ (by norm_num)]
      congr 1
      omega
    rw [mul_div_mul_comm, ← power]
    ring
  rw [quotient, whole]
  exact spans

end

/-! ## Doubles multiplied and divided -/

structure IsPositive (x : Float) : Prop where
  finite : biasedExponent x ≠ 2047
  sign : isNegative x = false
  some : 0 < (Binary.ofFloat x).significand

theorem isPositive_put {significand : ℕ} {exponent : ℤ} (some : 0 < significand)
    (fits : (Binary.ofParts significand exponent).Canonical) (small : exponent ≤ 971) :
    IsPositive (put (.finite .positive significand exponent some)) ∧
      Binary.ofFloat (put (.finite .positive significand exponent some)) =
        .ofParts significand exponent := by
  obtain ⟨size, sign⟩ := @ofFloat_put .positive _ _ some fits small
  refine ⟨⟨?_, ?_, ?_⟩, size⟩
  · rw [finite_iff, size]
    exact small
  · rw [Bool.eq_false_iff]
    exact fun negative => nomatch sign.mp negative
  · rw [size]
    exact some

theorem isPositive_size {x : Float} (finite : biasedExponent x ≠ 2047)
    (some : 0 < (Binary.ofFloat x).significand) :
    IsPositive (put (.finite .positive (Binary.ofFloat x).significand (Binary.ofFloat x).exponent some)) ∧
      Binary.ofFloat (put (.finite .positive (Binary.ofFloat x).significand
        (Binary.ofFloat x).exponent some)) = Binary.ofFloat x := by
  have canonical := ofFloat_canonical x
  obtain ⟨isPositive, size⟩ := isPositive_put some canonical.ofParts ((finite_iff x).mp finite)
  exact ⟨isPositive, size.trans canonical.eq_ofParts.symm⟩

namespace IsPositive

variable {x a b : Float} (isPositive : IsPositive x) (positiveA : IsPositive a)
  (positiveB : IsPositive b)

include isPositive

theorem eq_put : put (.finite .positive (Binary.ofFloat x).significand (Binary.ofFloat x).exponent
    isPositive.some) = x := by
  obtain ⟨other, size⟩ := isPositive_size isPositive.finite isPositive.some
  exact eq_of_ofFloat (other.sign.trans isPositive.sign.symm) size

theorem unpack : x.toModel.unpack = .finite .positive (Binary.ofFloat x).significand
    (Binary.ofFloat x).exponent isPositive.some := by
  have sign : signOf x = .positive := by rw [signOf, isPositive.sign, if_neg (by decide)]
  rw [unpack_eq isPositive.finite, dif_neg isPositive.some.ne', sign]

include positiveA positiveB

theorem mul_eq (long : 2 ^ 52 ≤ (Binary.ofFloat a).significand)
    (spans : (Binary.ofFloat x).Spans ((Binary.ofFloat a).value * (Binary.ofFloat b).value)) :
    a * b = x := by
  have product : a * b = put (UnpackedFloat.mul Format.binary64 a.toModel.unpack b.toModel.unpack) :=
    rfl
  rw [product, positiveA.unpack, positiveB.unpack]
  refine Eq.trans (congrArg put ?_) isPositive.eq_put
  exact round_product _ _ (ofFloat_canonical x) isPositive.some .positive long positiveB.some spans

theorem div_eq
    (spans : (Binary.ofFloat x).Spans ((Binary.ofFloat a).value / (Binary.ofFloat b).value)) :
    a / b = x := by
  have quotient : a / b = put (UnpackedFloat.div Format.binary64 a.toModel.unpack b.toModel.unpack) :=
    rfl
  rw [quotient, positiveA.unpack, positiveB.unpack]
  refine Eq.trans (congrArg put ?_) isPositive.eq_put
  exact round_quotient _ _ (ofFloat_canonical x) isPositive.some .positive positiveA.some positiveB.some
    spans

end IsPositive

/-! ## Exact doubles -/

section

variable {n shift : ℕ} (some : 0 < n) (isShift : n.log2 + shift = 52)

include isShift

theorem shifted_lt : n <<< shift < 2 ^ 53 := by
  have split : 2 ^ 53 = 2 ^ (n.log2 + 1) * 2 ^ shift := by
    rw [← Nat.pow_add]
    congr 1
    omega
  rw [Nat.shiftLeft_eq, split]
  exact Nat.mul_lt_mul_of_pos_right Nat.lt_log2_self (Nat.two_pow_pos _)

include some

theorem le_shifted : 2 ^ 52 ≤ n <<< shift := by
  rw [Nat.shiftLeft_eq, ← isShift, Nat.pow_add]
  exact Nat.mul_le_mul_right _ (Nat.log2_self_le (by omega))

theorem shifted_pos : 0 < n <<< shift := lt_of_lt_of_le (by decide) (le_shifted some isShift)

theorem canonical_shifted : (Binary.ofParts (n <<< shift) (-shift)).Canonical :=
  Binary.canonical_ofParts (shifted_lt isShift) (by omega) fun _ => le_shifted some isShift

/-- A small integer is not rounded. -/
theorem ofUInt64_shifted : UnpackedFloat.ofUInt64 Format.binary64 n.toUInt64 =
    .finite .positive (n <<< shift) (-shift) (shifted_pos some isShift) := by
  have whole : n.toUInt64.toNat = n := by
    have small : n < 2 ^ 53 := (Nat.log2_lt (by omega)).mp (by omega)
    change n % 2 ^ 64 = n
    omega
  have above : compare (n : ℤ) 0 = .gt := by
    rw [compare_gt_iff_gt]
    omega
  have place : (0 - lastPlace n 0).toNat = shift := by
    unfold lastPlace
    omega
  have digits : (n <<< shift).log2 = 52 :=
    (Nat.log2_eq_iff (shifted_pos some isShift).ne').mpr
      ⟨le_shifted some isShift, shifted_lt isShift⟩
  have fine : (-shift : ℤ) ≤ lastPlace (n <<< shift) (-shift) := by
    unfold lastPlace
    omega
  have spans := Binary.spans_value (x := .ofParts (n <<< shift) (-shift)) (shifted_pos some isShift)
  change UnpackedFloat.normalize Format.binary64 (n.toUInt64.toNat : ℤ) 0 .positive = _
  rw [whole]
  unfold UnpackedFloat.normalize
  rw [above]
  change roundWithAccuracy Format.binary64 .positive (n <<< (0 - lastPlace n 0).toNat)
    (0 - (0 - lastPlace n 0).toNat) .exact = _
  rw [place, zero_sub]
  refine roundWithAccuracy_eq (r := 0) (canonical_shifted some isShift) (shifted_pos some isShift)
    .positive fine rfl ?_
  rw [add_zero]
  exact spans

end

/-- The double that a small integer is, with all the digits that a double has. -/
theorem toFloat_exact {n : ℕ} (some : 0 < n) (small : n < 2 ^ 53) :
    IsPositive n.toUInt64.toFloat ∧ (Binary.ofFloat n.toUInt64.toFloat).value = n ∧
      2 ^ 52 ≤ (Binary.ofFloat n.toUInt64.toFloat).significand := by
  have digits : n.log2 < 53 := (Nat.log2_lt (by omega)).mpr small
  obtain ⟨shift, isShift⟩ : ∃ shift, n.log2 + shift = 52 := ⟨52 - n.log2, by omega⟩
  have isPut : n.toUInt64.toFloat =
      put (.finite .positive (n <<< shift) (-shift) (shifted_pos some isShift)) :=
    congrArg put (ofUInt64_shifted some isShift)
  obtain ⟨isPositive, size⟩ := isPositive_put (shifted_pos some isShift)
    (canonical_shifted some isShift) (by omega)
  rw [isPut, size]
  refine ⟨isPositive, ?_, le_shifted some isShift⟩
  change ((n <<< shift : ℕ) : ℚ) * 2 ^ (-shift : ℤ) = n
  rw [Nat.shiftLeft_eq, zpow_neg, zpow_natCast]
  push_cast
  exact mul_inv_cancel_right₀ (by positivity) _

theorem powersOfTen_exact : ∀ e : Fin 23,
    biasedExponent Float.exactlyRepresentablePowersOfTen[e] ≠ 2047 ∧
      isNegative Float.exactlyRepresentablePowersOfTen[e] = false ∧
      (Binary.ofFloat Float.exactlyRepresentablePowersOfTen[e]).significand *
          twoPow (Binary.ofFloat Float.exactlyRepresentablePowersOfTen[e]).exponent.toNat =
        10 ^ e.val *
          twoPow (-(Binary.ofFloat Float.exactlyRepresentablePowersOfTen[e]).exponent).toNat := by
  decide +kernel

theorem powerOfTen_exact {e : ℕ} (small : e < Float.exactlyRepresentablePowersOfTen.size) :
    IsPositive Float.exactlyRepresentablePowersOfTen[e] ∧
      (Binary.ofFloat Float.exactlyRepresentablePowersOfTen[e]).value = 10 ^ e := by
  obtain ⟨finite, sign, scaled⟩ := powersOfTen_exact ⟨e, small⟩
  simp only [Fin.getElem_fin] at finite sign scaled
  generalize Float.exactlyRepresentablePowersOfTen[e] = power at *
  have tens : 0 < 10 ^ e * twoPow (-(Binary.ofFloat power).exponent).toNat :=
    Nat.mul_pos (Nat.pow_pos (by decide)) (Nat.two_pow_pos _)
  refine ⟨⟨finite, sign, Nat.pos_of_mul_pos_right (by rw [scaled]; exact tens)⟩, ?_⟩
  have powers := zpow_mul_pow_toNat (show (2 : ℚ) ≠ 0 by norm_num) (Binary.ofFloat power).exponent
  have lift : ((Binary.ofFloat power).significand : ℚ) * 2 ^ (Binary.ofFloat power).exponent.toNat =
      10 ^ e * 2 ^ (-(Binary.ofFloat power).exponent).toNat := by
    simp only [twoPow, Nat.pow_eq] at scaled
    exact_mod_cast scaled
  rw [← powers, ← mul_assoc] at lift
  exact mul_right_cancel₀ (by positivity) lift

/-! ## Decimals -/

section

variable {m e : ℕ} (some : 0 < m)

include some

/-- A decimal with many digits is multiplied out before it is rounded. -/
theorem unpacked_times {x : Binary} (canonical : x.Canonical) (positive : 0 < x.significand)
    (bounded : e ≤ 2048) (spans : x.Spans (m * 10 ^ e)) :
    UnpackedFloat.ofScientific Format.binary64 m e =
      .finite .positive x.significand x.exponent positive := by
  have notHuge : ¬ (e : ℤ) > 2 ^ Format.binary64.exponentBits := by
    change ¬ (2 ^ 11 : ℤ) < e
    omega
  have notTiny : ¬ (e : ℤ) < -(2 ^ Format.binary64.exponentBits + (m.log2 : ℤ)) := by
    change ¬ (e : ℤ) < -(2 ^ 11 + (m.log2 : ℤ))
    omega
  unfold UnpackedFloat.ofScientific
  rw [dif_neg some.ne', if_neg notHuge, if_neg notTiny, if_pos (Int.natCast_nonneg e)]
  refine round_product (-53) 0 canonical positive .positive ?_
    (Nat.pow_pos (by decide)) ?_
  · change 2 ^ 52 ≤ m <<< 53
    rw [Nat.shiftLeft_eq]
    omega
  · have worth : ((m <<< 53 : ℕ) : ℚ) * 2 ^ (-53 : ℤ) * (((10 ^ e : ℕ) : ℚ) * 2 ^ (0 : ℤ)) =
        m * 10 ^ e := by
      rw [Nat.shiftLeft_eq, zpow_zero, mul_one, zpow_neg]
      push_cast
      rw [mul_inv_cancel_right₀ (by norm_num)]
    refine Eq.mp (congrArg x.Spans worth.symm) spans

theorem unpacked_over {x : Binary} (canonical : x.Canonical) (positive : 0 < x.significand)
    (down : 0 < e) (bounded : e ≤ 2048 + m.log2) (spans : x.Spans (m / 10 ^ e)) :
    UnpackedFloat.ofScientific Format.binary64 m (-e) =
      .finite .positive x.significand x.exponent positive := by
  have notHuge : ¬ (-e : ℤ) > 2 ^ Format.binary64.exponentBits := by
    change ¬ (2 ^ 11 : ℤ) < -e
    omega
  have notTiny : ¬ (-e : ℤ) < -(2 ^ Format.binary64.exponentBits + (m.log2 : ℤ)) := by
    change ¬ (-e : ℤ) < -(2 ^ 11 + (m.log2 : ℤ))
    omega
  unfold UnpackedFloat.ofScientific
  rw [dif_neg some.ne', if_neg notHuge, if_neg notTiny, if_neg (by omega)]
  refine round_quotient 0 0 canonical positive .positive some
    (Nat.pow_pos (by decide)) ?_
  have exponent : (- -(e : ℤ)).toNat = e := by omega
  rw [exponent, zpow_zero, mul_one, mul_one, Nat.cast_pow]
  exact spans

variable {x : Float} (isPositive : IsPositive x)

include isPositive

theorem ofScientific_times (bounded : e ≤ 2048) (spans : (Binary.ofFloat x).Spans (m * 10 ^ e)) :
    Float.ofScientific m false e = x := by
  unfold Float.ofScientific
  split
  · rename_i short
    obtain ⟨positiveM, worthM, long⟩ := toFloat_exact some short.1
    obtain ⟨positiveE, worthE⟩ := powerOfTen_exact (Nat.lt_succ_of_le short.2)
    have product := isPositive.mul_eq positiveM positiveE long (by rw [worthM, worthE]; exact spans)
    exact product
  · refine Eq.trans (congrArg put ?_) isPositive.eq_put
    exact unpacked_times some (ofFloat_canonical x) isPositive.some bounded spans

theorem ofScientific_over (down : 0 < e) (bounded : e ≤ 2048 + m.log2)
    (spans : (Binary.ofFloat x).Spans (m / 10 ^ e)) : Float.ofScientific m true e = x := by
  unfold Float.ofScientific
  split
  · rename_i short
    obtain ⟨positiveM, worthM, -⟩ := toFloat_exact some short.1
    obtain ⟨positiveE, worthE⟩ := powerOfTen_exact (Nat.lt_succ_of_le short.2)
    have quotient := isPositive.div_eq positiveM positiveE (by rw [worthM, worthE]; exact spans)
    exact quotient
  · refine Eq.trans (congrArg put ?_) isPositive.eq_put
    have exponent : Int.negOfNat e = -(e : ℤ) := Int.negOfNat_eq
    rw [if_pos rfl, exponent]
    exact unpacked_over some (ofFloat_canonical x) isPositive.some down bounded spans

end

/-! ## Size -/

section

variable {n : ℕ} (some : 0 < n)

theorem lt_pow_digits (n : ℕ) : n < 10 ^ (Nat.toDigits 10 n).length :=
  (Nat.length_toDigits_le_iff (by decide) Nat.length_toDigits_pos).mp le_rfl

include some

theorem pow_le_digits : 10 ^ ((Nat.toDigits 10 n).length - 1) ≤ n := by
  by_cases one : (Nat.toDigits 10 n).length = 1
  · rw [one]
    exact some
  · have long : 0 < (Nat.toDigits 10 n).length := Nat.length_toDigits_pos
    have least := mt (Nat.length_toDigits_le_iff (b := 10) (n := n)
      (k := (Nat.toDigits 10 n).length - 1) (by decide) (by omega)).mpr (by omega)
    omega

theorem digits_le_log2 : (Nat.toDigits 10 n).length ≤ n.log2 + 1 := by
  have least : 2 ^ ((Nat.toDigits 10 n).length - 1) ≤ n :=
    (Nat.pow_le_pow_left (by decide) _).trans (pow_le_digits some)
  have bits := (Nat.le_log2 some.ne').mpr least
  omega

end

def Scaled.leading (d : Scaled) : ℤ := d.exponent + (Nat.toDigits 10 d.digits).length

namespace Scaled

variable {d : Scaled}

theorem value_lt (d : Scaled) : d.value < 10 ^ d.leading := by
  have digits : (d.digits : ℚ) < 10 ^ (Nat.toDigits 10 d.digits).length := by
    exact_mod_cast lt_pow_digits d.digits
  have power : (0 : ℚ) < 10 ^ d.exponent := by positivity
  rw [value, leading, zpow_add₀ (by norm_num), zpow_natCast, mul_comm ((10 : ℚ) ^ d.exponent)]
  exact mul_lt_mul_of_pos_right digits power

theorem le_value (some : 0 < d.digits) : (10 : ℚ) ^ (d.leading - 1) ≤ d.value := by
  have long : 0 < (Nat.toDigits 10 d.digits).length := Nat.length_toDigits_pos
  have digits : (10 : ℚ) ^ ((Nat.toDigits 10 d.digits).length - 1) ≤ d.digits := by
    exact_mod_cast pow_le_digits some
  have power : (0 : ℚ) < 10 ^ d.exponent := by positivity
  have split : d.leading - 1 = ((Nat.toDigits 10 d.digits).length - 1 : ℕ) + d.exponent := by
    unfold leading
    omega
  rw [value, split, zpow_add₀ (by norm_num), zpow_natCast]
  exact mul_le_mul_of_nonneg_right digits power.le

end Scaled

theorem two_pow_le_ten_pow (n : ℕ) : (2 : ℚ) ^ (3 * n) ≤ 10 ^ n := by
  rw [pow_mul]
  exact pow_le_pow_left₀ (by norm_num) (by norm_num) n

section

variable {x : Binary} {d : Scaled} (canonical : x.Canonical) (spans : x.Spans d.value)

include canonical spans

theorem le_leading (positive : 0 < x.significand) : -400 ≤ d.leading := by
  by_contra low
  have least := lt_of_spans canonical positive spans
  have most := d.value_lt
  have tens : (10 : ℚ) ^ d.leading ≤ 10 ^ (-(401 : ℕ) : ℤ) :=
    zpow_le_zpow_right₀ (by norm_num) (by omega)
  have bits : (10 : ℚ) ^ (-(401 : ℕ) : ℤ) ≤ 2 ^ (-(1203 : ℕ) : ℤ) := by
    rw [zpow_neg, zpow_neg, zpow_natCast, zpow_natCast]
    exact inv_anti₀ (by positivity) (two_pow_le_ten_pow 401)
  have far : (2 : ℚ) ^ (-(1203 : ℕ) : ℤ) ≤ 2 ^ (-1074 - 1 : ℤ) :=
    zpow_le_zpow_right₀ (by norm_num) (by decide)
  have half : (2 : ℚ) ^ (-1074 - 1 : ℤ) = 1 / 2 * 2 ^ (-1074 : ℤ) := by
    rw [zpow_sub_one₀ (by norm_num)]
    ring
  exact lt_asymm least (most.trans_le (tens.trans (bits.trans (far.trans half.le))))

theorem leading_le (some : 0 < d.digits) (finite : x.exponent ≤ 971) : d.leading ≤ 400 := by
  by_contra high
  have least := Scaled.le_value some
  have most := spans.below
  have tens : (10 : ℚ) ^ ((400 : ℕ) : ℤ) ≤ 10 ^ (d.leading - 1) :=
    zpow_le_zpow_right₀ (by norm_num) (by omega)
  have bits : (2 : ℚ) ^ ((1200 : ℕ) : ℤ) ≤ 10 ^ ((400 : ℕ) : ℤ) := by
    rw [zpow_natCast, zpow_natCast]
    exact two_pow_le_ten_pow 400
  have quarter : x.quarter ≤ 2 ^ (969 : ℤ) := zpow_le_zpow_right₀ (by norm_num) (by omega)
  have upper : (x.high : ℚ) ≤ 2 ^ (56 : ℤ) := by
    have bounded : x.high ≤ 2 ^ 56 := by
      have short := canonical.bounded
      unfold Binary.high
      omega
    exact_mod_cast bounded
  have reach := mul_le_mul upper quarter x.quarter_pos.le (by positivity)
  rw [← zpow_add₀ (by norm_num)] at reach
  have far : (2 : ℚ) ^ (56 + 969 : ℤ) < 2 ^ ((1200 : ℕ) : ℤ) :=
    zpow_lt_zpow_right₀ (by norm_num) (by decide)
  linarith

end

/-- A decimal from the interval of a double is read as that double. -/
theorem Scaled.nearest_eq {d : Scaled} {x : Float} (isPositive : IsPositive x)
    (spans : (Binary.ofFloat x).Spans d.value) : d.nearest = x := by
  have canonical := ofFloat_canonical x
  have some : 0 < d.digits := by
    refine Nat.pos_of_ne_zero fun zero => ?_
    have least := lt_of_spans canonical isPositive.some spans
    rw [Scaled.value, zero, Nat.cast_zero, zero_mul] at least
    have power : (0 : ℚ) < 2 ^ (-1074 : ℤ) := by positivity
    linarith
  have low := le_leading canonical spans isPositive.some
  have high := leading_le canonical spans some ((finite_iff x).mp isPositive.finite)
  have digits := digits_le_log2 some
  unfold Scaled.leading at low high
  unfold Scaled.nearest
  dsimp only
  rw [if_neg (by omega), if_neg (by omega)]
  by_cases negative : d.exponent < 0
  · rw [decide_eq_true negative]
    refine ofScientific_over some isPositive (by omega) (by omega) ?_
    have size : d.exponent = -(d.exponent.natAbs : ℤ) := by omega
    rw [Scaled.value, size, zpow_neg, zpow_natCast, ← div_eq_mul_inv] at spans
    exact spans
  · rw [decide_eq_false negative]
    refine ofScientific_times some isPositive (by omega) ?_
    have size : d.exponent = (d.exponent.natAbs : ℤ) := by omega
    rw [Scaled.value, size, zpow_natCast] at spans
    exact spans

/-! ## What is written for a double -/

theorem Scaled.nearest_zero {d : Scaled} (zero : d.value = 0) : d.nearest = 0 := by
  have digits : d.digits = 0 := by
    have power : (10 : ℚ) ^ d.exponent ≠ 0 := by positivity
    have none := (mul_eq_zero.mp zero).resolve_right power
    exact_mod_cast none
  unfold Scaled.nearest
  rw [digits, if_pos (Or.inl rfl)]

theorem eq_of_size {x size : Float} (finite : biasedExponent x ≠ 2047)
    (unsigned : isNegative size = false) (same : Binary.ofFloat size = Binary.ofFloat x) :
    (if isNegative x then -size else size) = x := by
  have finiteSize : biasedExponent size ≠ 2047 := by
    rw [finite_iff, same]
    exact (finite_iff x).mp finite
  split
  · rename_i negative
    obtain ⟨turned, sign⟩ := ofFloat_neg finiteSize
    refine eq_of_ofFloat ?_ (turned.trans same)
    rw [sign, unsigned, negative]
    rfl
  · rename_i positive
    exact eq_of_ofFloat (unsigned.trans (Bool.not_eq_true _ ▸ positive).symm) same

theorem nearest_of_written {x : Float} {d : Scaled} (finite : biasedExponent x ≠ 2047)
    (zero : (Binary.ofFloat x).significand = 0 → d.value = 0)
    (worth : 0 < (Binary.ofFloat x).significand → d.value = (Binary.ofFloat x).shortest.value) :
    (if isNegative x then -d.nearest else d.nearest) = x := by
  rcases Nat.eq_zero_or_pos (Binary.ofFloat x).significand with null | some
  · rw [Scaled.nearest_zero (zero null)]
    exact eq_of_size finite rfl
      ((ofFloat_canonical 0).eq_of_zero (ofFloat_canonical x) rfl null)
  · obtain ⟨isPositive, same⟩ := isPositive_size finite some
    have spans := Binary.spans_shortest some
    rw [← worth some, ← same] at spans
    rw [Scaled.nearest_eq isPositive spans]
    exact eq_of_size finite isPositive.sign same

end SpatialQuery.Decimal
