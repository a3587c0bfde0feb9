import SpatialQuery.Proofs.Decimal.Packed
import SpatialQuery.Proofs.Decimal.Shortest

/-!
# Rounding to the nearest double

Arithmetic knows a result as a significand, a power of two and which side of a half the remainder lies
on.  Cutting digits off keeps that knowledge, so the double that comes out is the one that the exact
result rounds to.
-/

set_option autoImplicit false

namespace SpatialQuery.Decimal

open Float.Model (Format UnpackedFloat totalExponent)
open Float.Model.UnpackedFloat (Sign Accuracy ExtendedMantissa accuracyOfFraction roundWithAccuracy
  shiftToExponent shiftToTargetExponent)

/-! ## Remainders -/

/-- The remainder is on that side of a half. -/
def Leaves : Accuracy → ℚ → Prop
  | .exact, r => r = 0
  | .inexact .lt, r => 0 < r ∧ r < 1 / 2
  | .inexact .eq, r => r = 1 / 2
  | .inexact .gt, r => 1 / 2 < r ∧ r < 1

theorem leaves_of_fraction {num den : ℕ} (proper : num < den) :
    Leaves (accuracyOfFraction num den) ((num : ℚ) / den) := by
  have positive : (0 : ℚ) < den := by
    have some : 0 < den := by omega
    exact_mod_cast some
  unfold accuracyOfFraction
  split
  · rename_i zero
    subst zero
    simp [Leaves]
  · rename_i nonzero
    have above : (0 : ℚ) < num := by
      have some : 0 < num := by omega
      exact_mod_cast some
    have below : (num : ℚ) < den := by exact_mod_cast proper
    cases side : compare (2 * num) den with
    | lt =>
      have half : (2 * num : ℚ) < den := by exact_mod_cast Nat.compare_eq_lt.mp side
      exact ⟨div_pos above positive, by rw [div_lt_div_iff₀ positive (by norm_num)]; linarith⟩
    | eq =>
      have half : (2 * num : ℚ) = den := by exact_mod_cast Nat.compare_eq_eq.mp side
      change (num : ℚ) / den = 1 / 2
      rw [div_eq_div_iff positive.ne' (by norm_num)]
      linarith
    | gt =>
      have half : (den : ℚ) < 2 * num := by exact_mod_cast Nat.compare_eq_gt.mp side
      exact ⟨by rw [div_lt_div_iff₀ (by norm_num) positive]; linarith,
        (div_lt_one₀ positive).mpr below⟩

namespace Leaves

variable {accuracy : Accuracy} {r : ℚ}

theorem bounds (leaves : Leaves accuracy r) : 0 ≤ r ∧ r < 1 := by
  rcases accuracy with _ | (_ | _ | _) <;> simp only [Leaves] at leaves <;>
    constructor <;> linarith

/-- Rounding moves by half a place at most, and by less to an odd significand. -/
theorem rounded (leaves : Leaves accuracy r) (m : ℕ) :
    (accuracy.roundToNearestEven m : ℚ) - 1 / 2 ≤ m + r ∧
      (m + r : ℚ) ≤ accuracy.roundToNearestEven m + 1 / 2 ∧
      (accuracy.roundToNearestEven m % 2 = 1 →
        (accuracy.roundToNearestEven m : ℚ) - 1 / 2 < m + r ∧
          (m + r : ℚ) < accuracy.roundToNearestEven m + 1 / 2) := by
  rcases accuracy with _ | (_ | _ | _) <;> simp only [Leaves] at leaves <;>
    simp only [Accuracy.roundToNearestEven]
  · exact ⟨by linarith, by linarith, fun _ => ⟨by linarith, by linarith⟩⟩
  · exact ⟨by linarith, by linarith, fun _ => ⟨by linarith, by linarith⟩⟩
  · rcases Nat.mod_two_eq_zero_or_one m with even | odd
    · rw [even]
      exact ⟨by push_cast; linarith, by push_cast; linarith, fun odd => by omega⟩
    · rw [odd]
      exact ⟨by push_cast; linarith, by push_cast; linarith, fun odd => by omega⟩
  · push_cast
    exact ⟨by linarith, by linarith, fun _ => ⟨by linarith, by linarith⟩⟩

end Leaves

/-- A significand with what is known about its remainder stands for that rational. -/
def Stands (em : ExtendedMantissa) (u : ℚ) : Prop := Leaves em.accuracy (u - em.mantissa)

theorem stands_of_leaves {accuracy : Accuracy} {r : ℚ} (m : ℕ) (leaves : Leaves accuracy r) :
    Stands (.ofMantissaAndAccuracy m accuracy) (m + r) := by
  have kept : (ExtendedMantissa.ofMantissaAndAccuracy m accuracy).accuracy = accuracy ∧
      (ExtendedMantissa.ofMantissaAndAccuracy m accuracy).mantissa = m := by
    rcases accuracy with _ | (_ | _ | _) <;> exact ⟨rfl, rfl⟩
  rw [Stands, kept.1, kept.2, add_sub_cancel_left]
  exact leaves

namespace Stands

variable {em : ExtendedMantissa} {u : ℚ}

theorem bounds (stands : Stands em u) : (em.mantissa : ℚ) ≤ u ∧ u < em.mantissa + 1 := by
  obtain ⟨above, below⟩ := Leaves.bounds stands
  exact ⟨by linarith, by linarith⟩

theorem rounded (stands : Stands em u) :
    (em.roundedMantissa : ℚ) - 1 / 2 ≤ u ∧ u ≤ em.roundedMantissa + 1 / 2 ∧
      (em.roundedMantissa % 2 = 1 →
        (em.roundedMantissa : ℚ) - 1 / 2 < u ∧ u < em.roundedMantissa + 1 / 2) := by
  have near := Leaves.rounded stands em.mantissa
  rw [add_sub_cancel] at near
  exact near

theorem shiftRightOne (stands : Stands em u) : Stands em.shiftRightOne (u / 2) := by
  obtain ⟨m, round, sticky⟩ := em
  have whole : (m : ℚ) = 2 * ((m / 2 : ℕ) : ℚ) + ((m % 2 : ℕ) : ℚ) := by
    exact_mod_cast (Nat.div_add_mod m 2).symm
  -- The digit that goes becomes the new side of a half, and the old remainder decides a tie.
  rcases Nat.mod_two_eq_zero_or_one m with even | odd
  · rw [even] at whole
    cases round <;> cases sticky <;>
      simp [Stands, Leaves, ExtendedMantissa.accuracy, ExtendedMantissa.shiftRightOne, even]
        at stands whole ⊢ <;>
      (try constructor) <;> linarith
  · rw [odd] at whole
    cases round <;> cases sticky <;>
      simp [Stands, Leaves, ExtendedMantissa.accuracy, ExtendedMantissa.shiftRightOne, odd]
        at stands whole ⊢ <;>
      (try constructor) <;> linarith

theorem shiftRight (stands : Stands em u) (n : ℕ) : Stands (em >>> n) (u / 2 ^ n) := by
  change Stands (n.repeat ExtendedMantissa.shiftRightOne em) _
  induction n with
  | zero => simpa [Nat.repeat] using stands
  | succ n ih =>
    rw [pow_succ, div_mul_eq_div_div]
    exact ih.shiftRightOne

end Stands

theorem mantissa_shiftRight (em : ExtendedMantissa) (n : ℕ) :
    (em >>> n).mantissa = em.mantissa / 2 ^ n := by
  change (n.repeat ExtendedMantissa.shiftRightOne em).mantissa = _
  induction n with
  | zero => simp [Nat.repeat]
  | succ n ih =>
    rw [Nat.pow_succ, ← Nat.div_div_eq_div_mul, ← ih]
    rfl

theorem roundToNearestEven_cases (accuracy : Accuracy) (m : ℕ) :
    accuracy.roundToNearestEven m = m ∨ accuracy.roundToNearestEven m = m + 1 := by
  rcases accuracy with _ | (_ | _ | _)
  · exact Or.inl rfl
  · exact Or.inl rfl
  · change m + m % 2 = m ∨ m + m % 2 = m + 1
    omega
  · exact Or.inr rfl

/-! ## Cutting down to the digits of a double -/

def lastPlace (m : ℕ) (e : ℤ) : ℤ := max ((m.log2 : ℤ) + 1 + e - 53) (-1074)

def cut (m : ℕ) (e : ℤ) (accuracy : Accuracy) : ExtendedMantissa :=
  ExtendedMantissa.ofMantissaAndAccuracy m accuracy >>> (lastPlace m e - e).toNat

theorem shiftToTargetExponent_eq (m : ℕ) (e : ℤ) (accuracy : Accuracy) :
    shiftToTargetExponent Format.binary64 m e accuracy =
      (cut m e accuracy, e + (lastPlace m e - e).toNat) := rfl

section

variable {m : ℕ} {e : ℤ} {accuracy : Accuracy}

theorem mantissa_cut : (cut m e accuracy).mantissa = m / 2 ^ (lastPlace m e - e).toNat := by
  rw [cut, mantissa_shiftRight]
  congr 1
  rcases accuracy with _ | (_ | _ | _) <;> rfl

theorem cut_lt : (cut m e accuracy).mantissa < 2 ^ 53 := by
  have below : m < 2 ^ (m.log2 + 1) := Nat.lt_log2_self
  have places : m.log2 + 1 ≤ 53 + (lastPlace m e - e).toNat := by
    unfold lastPlace
    omega
  rw [mantissa_cut, Nat.div_lt_iff_lt_mul (Nat.two_pow_pos _), ← Nat.pow_add]
  exact lt_of_lt_of_le below (Nat.pow_le_pow_right (by decide) places)

variable (fine : e ≤ lastPlace m e)

include fine

theorem stands_cut {r : ℚ} (leaves : Leaves accuracy r) :
    Stands (cut m e accuracy) ((m + r) * 2 ^ e / 2 ^ lastPlace m e) := by
  have stands := (stands_of_leaves m leaves).shiftRight (lastPlace m e - e).toNat
  have power : (2 : ℚ) ^ e / 2 ^ lastPlace m e = 1 / 2 ^ (lastPlace m e - e).toNat := by
    rw [← zpow_natCast, Int.toNat_of_nonneg (by omega), ← zpow_sub₀ (by norm_num), one_div,
      ← zpow_neg, neg_sub]
  rw [mul_div_assoc, power, mul_one_div]
  exact stands

theorem le_cut (normal : -1074 < lastPlace m e) : 2 ^ 52 ≤ (cut m e accuracy).mantissa := by
  have digits : 52 + (lastPlace m e - e).toNat = m.log2 := by
    unfold lastPlace at normal fine ⊢
    omega
  have positive : m ≠ 0 := by
    rintro rfl
    rw [Nat.log2_zero] at digits
    omega
  rw [mantissa_cut, Nat.le_div_iff_mul_le (Nat.two_pow_pos _), ← Nat.pow_add, digits]
  exact Nat.log2_self_le positive

end

/-! ## What comes out -/

theorem roundWithAccuracy_of_lt {m : ℕ} {e : ℤ} {accuracy : Accuracy} {rounded : ℕ} (sign : Sign)
    (fine : e ≤ lastPlace m e) (isRounded : (cut m e accuracy).roundedMantissa = rounded)
    (some : 0 < rounded) (bounded : rounded < 2 ^ 53) :
    roundWithAccuracy Format.binary64 sign m e accuracy =
      .finite sign rounded (lastPlace m e) some := by
  have place : e + ((lastPlace m e - e).toNat : ℤ) = lastPlace m e := by omega
  have short : rounded.log2 < 53 := (Nat.log2_lt (by omega)).mpr bounded
  have still : (lastPlace rounded (lastPlace m e) - lastPlace m e).toNat = 0 := by
    unfold lastPlace
    omega
  have kept : (cut rounded (lastPlace m e) .exact).mantissa = rounded := by
    rw [mantissa_cut, still, Nat.pow_zero, Nat.div_one]
  unfold roundWithAccuracy
  rw [shiftToTargetExponent_eq]
  dsimp only
  rw [isRounded, place, shiftToTargetExponent_eq]
  dsimp only
  rw [dif_neg (by omega), UnpackedFloat.finite.injEq, kept, still]
  exact ⟨rfl, rfl, add_zero _⟩

theorem roundWithAccuracy_of_eq {m : ℕ} {e : ℤ} {accuracy : Accuracy} (sign : Sign)
    (fine : e ≤ lastPlace m e) (isRounded : (cut m e accuracy).roundedMantissa = 2 ^ 53) :
    roundWithAccuracy Format.binary64 sign m e accuracy =
      .finite sign (2 ^ 52) (lastPlace m e + 1) (by decide) := by
  have place : e + ((lastPlace m e - e).toNat : ℤ) = lastPlace m e := by omega
  have long : (2 ^ 53 : ℕ).log2 = 53 := Nat.log2_two_pow
  have lowest : -1074 ≤ lastPlace m e := le_max_right _ _
  have moved : (lastPlace (2 ^ 53) (lastPlace m e) - lastPlace m e).toNat = 1 := by
    have next : lastPlace (2 ^ 53) (lastPlace m e) = max (53 + 1 + lastPlace m e - 53) (-1074) := by
      rw [lastPlace, long]
      rfl
    rw [next]
    omega
  have halved : (cut (2 ^ 53) (lastPlace m e) .exact).mantissa = 2 ^ 52 := by
    rw [mantissa_cut, moved]
    rfl
  unfold roundWithAccuracy
  rw [shiftToTargetExponent_eq]
  dsimp only
  rw [isRounded, place, shiftToTargetExponent_eq]
  dsimp only
  rw [dif_neg (by rw [halved]; decide), UnpackedFloat.finite.injEq, halved, moved]
  exact ⟨rfl, rfl, rfl⟩

section

variable {significand : ℕ} {exponent : ℤ} {u : ℚ}

theorem quarter_ofParts : (Binary.ofParts significand exponent).quarter = 2 ^ exponent / 4 := by
  change (2 : ℚ) ^ (exponent - 2) = _
  rw [zpow_sub₀ (by norm_num)]
  norm_num

theorem high_ofParts : ((Binary.ofParts significand exponent).high : ℚ) * (2 ^ exponent / 4) =
    (significand + 1 / 2) * 2 ^ exponent := by
  change ((4 * significand + 2 : ℕ) : ℚ) * _ = _
  push_cast
  ring

/-- Below a power of two the doubles lie closer, so the interval ends earlier. -/
theorem low_ofParts (positive : 0 < significand) (above : (significand : ℚ) - 1 / 2 ≤ u)
    (inside : significand % 2 = 1 → (significand : ℚ) - 1 / 2 < u)
    (narrow : significand = 2 ^ 52 → -1074 < exponent → (significand : ℚ) - 1 / 4 ≤ u) :
    ((Binary.ofParts significand exponent).low : ℚ) * (2 ^ exponent / 4) ≤ u * 2 ^ exponent ∧
      (significand % 2 = 1 → ((Binary.ofParts significand exponent).low : ℚ) * (2 ^ exponent / 4) <
        u * 2 ^ exponent) := by
  have power : (0 : ℚ) < 2 ^ exponent := by positivity
  unfold Binary.low Binary.ofParts
  dsimp only
  split
  · rename_i isNarrow
    obtain ⟨least, normal⟩ := of_decide_eq_true isNarrow
    have reach := mul_le_mul_of_nonneg_right (narrow least normal) power.le
    refine ⟨?_, fun odd => by omega⟩
    rw [Nat.cast_sub (by omega)]
    push_cast
    linarith
  · rw [Nat.cast_sub (by omega)]
    push_cast
    refine ⟨?_, fun odd => ?_⟩
    · have reach := mul_le_mul_of_nonneg_right above power.le
      linarith
    · have reach := mul_lt_mul_of_pos_right (inside odd) power
      linarith

theorem spans_ofParts (positive : 0 < significand)
    (above : (significand : ℚ) - 1 / 2 ≤ u) (below : u ≤ significand + 1 / 2)
    (inside : significand % 2 = 1 → (significand : ℚ) - 1 / 2 < u ∧ u < significand + 1 / 2)
    (narrow : significand = 2 ^ 52 → -1074 < exponent → (significand : ℚ) - 1 / 4 ≤ u) :
    (Binary.ofParts significand exponent).Spans (u * 2 ^ exponent) := by
  have power : (0 : ℚ) < 2 ^ exponent := by positivity
  obtain ⟨low, lowOdd⟩ := low_ofParts positive above (fun odd => (inside odd).1) narrow
  refine ⟨?_, ?_, fun odd => ⟨?_, ?_⟩⟩
  · rw [quarter_ofParts]
    exact low
  · rw [quarter_ofParts, high_ofParts]
    exact mul_le_mul_of_nonneg_right below power.le
  · rw [quarter_ofParts]
    exact lowOdd odd
  · rw [quarter_ofParts, high_ofParts]
    exact mul_lt_mul_of_pos_right (inside odd).2 power

end

theorem lt_of_spans {x : Binary} {v : ℚ} (canonical : x.Canonical) (positive : 0 < x.significand)
    (spans : x.Spans v) : (1 / 2 : ℚ) * 2 ^ (-1074 : ℤ) < v := by
  have least : (2 : ℚ) ^ (-1074 - 2 : ℤ) ≤ x.quarter :=
    zpow_le_zpow_right₀ (by norm_num) (by have := canonical.least; omega)
  have half : (1 / 2 : ℚ) * 2 ^ (-1074 : ℤ) = 2 * 2 ^ (-1074 - 2 : ℤ) := by
    rw [zpow_sub₀ (by norm_num)]
    ring
  have quarter := x.quarter_pos
  rw [half]
  by_cases one : x.significand = 1
  · have low : x.low = 2 := by
      have wide : ¬ x.narrowBelow = true := fun isNarrow => by
        have narrow := (canonical.narrow.mp isNarrow).1
        omega
      rw [Binary.low, if_neg wide, one]
    have strict := (spans.inside (by omega)).1
    rw [low] at strict
    push_cast at strict
    linarith
  · have low : (3 : ℚ) ≤ x.low := by
      have some : 3 ≤ x.low := by
        unfold Binary.low
        split <;> omega
      exact_mod_cast some
    have reach := mul_le_mul_of_nonneg_right low quarter.le
    have reached := spans.above
    have power : (0 : ℚ) < 2 ^ (-1074 - 2 : ℤ) := by positivity
    linarith

theorem spans_of_carried {u : ℚ} {place : ℤ} (above : (2 : ℚ) ^ 53 - 1 / 2 ≤ u) (below : u < 2 ^ 53) :
    (Binary.ofParts (2 ^ 52) (place + 1)).Spans (u * 2 ^ place) := by
  have near : (Binary.ofParts (2 ^ 52) (place + 1)).Spans (u / 2 * 2 ^ (place + 1)) := by
    refine spans_ofParts (by decide) ?_ ?_ (fun odd => absurd odd (by decide)) fun _ _ => ?_ <;>
      push_cast <;> linarith
  have same : u / 2 * 2 ^ (place + 1) = u * 2 ^ place := by
    rw [zpow_add_one₀ (by norm_num)]
    ring
  rwa [same] at near

theorem roundWithAccuracy_eq {x : Binary} {m : ℕ} {e : ℤ} {accuracy : Accuracy} {r : ℚ}
    (canonical : x.Canonical) (positive : 0 < x.significand) (sign : Sign)
    (fine : e ≤ lastPlace m e) (leaves : Leaves accuracy r) (spans : x.Spans ((m + r) * 2 ^ e)) :
    roundWithAccuracy Format.binary64 sign m e accuracy =
      .finite sign x.significand x.exponent positive := by
  have stands := stands_cut fine leaves
  have lowest : -1074 ≤ lastPlace m e := le_max_right _ _
  have power : (0 : ℚ) < 2 ^ lastPlace m e := by positivity
  have whole : ((m + r) * 2 ^ e / 2 ^ lastPlace m e : ℚ) * 2 ^ lastPlace m e = (m + r) * 2 ^ e :=
    div_mul_cancel₀ _ power.ne'
  obtain ⟨above, below, inside⟩ := stands.rounded
  obtain ⟨least, most⟩ := stands.bounds
  have bound : (cut m e accuracy).mantissa < 2 ^ 53 := cut_lt
  have full : -1074 < lastPlace m e → 2 ^ 52 ≤ (cut m e accuracy).mantissa := le_cut fine
  have step : (cut m e accuracy).roundedMantissa = (cut m e accuracy).mantissa ∨
      (cut m e accuracy).roundedMantissa = (cut m e accuracy).mantissa + 1 :=
    roundToNearestEven_cases _ _
  generalize isRounded : (cut m e accuracy).roundedMantissa = rounded at above below inside step
  generalize (m + r : ℚ) * 2 ^ e / 2 ^ lastPlace m e = u at *
  rw [← whole] at spans
  rcases Nat.eq_zero_or_pos rounded with zero | some
  · -- Nothing but less than half of the least double rounds to zero.
    have bottom : lastPlace m e = -1074 := by omega
    have more := lt_of_spans canonical positive spans
    rw [bottom] at more power
    have less := mul_le_mul_of_nonneg_right below power.le
    rw [zero, Nat.cast_zero, zero_add] at less
    exact absurd more (not_lt.mpr less)
  · by_cases carried : rounded = 2 ^ 53
    · subst carried
      have last : (cut m e accuracy).mantissa + 1 = 2 ^ 53 := by omega
      have most : u < 2 ^ 53 := by
        have cast : ((cut m e accuracy).mantissa : ℚ) + 1 = 2 ^ 53 := by exact_mod_cast last
        linarith
      push_cast at above
      have fits : (Binary.ofParts (2 ^ 52) (lastPlace m e + 1)).Canonical :=
        Binary.canonical_ofParts (by decide) (by omega) fun _ => le_rfl
      have equal := Binary.eq_of_spans canonical fits spans (spans_of_carried above most)
      subst equal
      exact roundWithAccuracy_of_eq sign fine isRounded
    · have near : (Binary.ofParts rounded (lastPlace m e)).Spans (u * 2 ^ lastPlace m e) := by
        refine spans_ofParts some above below inside fun narrow normal => ?_
        have kept : (cut m e accuracy).mantissa = rounded := by omega
        rw [kept] at least
        linarith
      have fits : (Binary.ofParts rounded (lastPlace m e)).Canonical := by
        refine Binary.canonical_ofParts (by omega) lowest fun normal => ?_
        have reach := full normal
        omega
      have equal := Binary.eq_of_spans canonical fits spans near
      subst equal
      exact roundWithAccuracy_of_lt sign fine isRounded some (by omega)

end SpatialQuery.Decimal
