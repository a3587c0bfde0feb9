import Mathlib.Algebra.Group.Nat.Defs
import SpatialQuery.Number

/-!
# The bits of a double

A double is its sign, its biased exponent and its fraction.  The greatest exponent is that of the
infinities and of the one value that is not a number; below it, sign, significand and exponent of the
exact value make up the double.
-/

set_option autoImplicit false

namespace SpatialQuery.Decimal

def biasedExponent (x : Float) : Nat := x.toBits.toNat / 2 ^ 52 % 2 ^ 11

def fraction (x : Float) : Nat := x.toBits.toNat % 2 ^ 52

theorem isNegative_iff (x : Float) : isNegative x = true ↔ 2 ^ 63 ≤ x.toBits.toNat := by
  have bound := x.toBits.toNat_lt
  have shifted : (x.toBits >>> 63).toNat = x.toBits.toNat / 2 ^ 63 := by
    simp [UInt64.toNat_shiftRight, Nat.shiftRight_eq_div_pow]
  rw [isNegative, beq_iff_eq, ← UInt64.toNat_inj, shifted]
  have one : (1 : UInt64).toNat = 1 := rfl
  rw [one]
  omega

/-- Sign, biased exponent and fraction make up the double. -/
theorem eq_of_parts {x y : Float} (sign : isNegative x = isNegative y)
    (exponent : biasedExponent x = biasedExponent y) (rest : fraction x = fraction y) : x = y := by
  have boundX := x.toBits.toNat_lt
  have boundY := y.toBits.toNat_lt
  have signs : 2 ^ 63 ≤ x.toBits.toNat ↔ 2 ^ 63 ≤ y.toBits.toNat := by
    rw [← isNegative_iff, ← isNegative_iff, sign]
  unfold biasedExponent at exponent
  unfold fraction at rest
  refine Number.eq_of_toBits_eq x y (UInt64.toNat_inj.mp ?_)
  omega

theorem ofFloat_eq (x : Float) : Binary.ofFloat x =
    if biasedExponent x = 0 then ⟨fraction x, -1074, false⟩
    else ⟨2 ^ 52 + fraction x, biasedExponent x - 1075, fraction x = 0 ∧ 1 < biasedExponent x⟩ := by
  have exponent : ((x.toBits >>> 52) &&& 0x7FF).toNat = biasedExponent x := by
    have mask : (0x7FF : UInt64).toNat = 2 ^ 11 - 1 := rfl
    rw [UInt64.toNat_and, mask, Nat.and_two_pow_sub_one_eq_mod, UInt64.toNat_shiftRight,
      Nat.shiftRight_eq_div_pow]
    rfl
  have rest : (x.toBits &&& 0xFFFFFFFFFFFFF).toNat = fraction x := by
    have mask : (0xFFFFFFFFFFFFF : UInt64).toNat = 2 ^ 52 - 1 := rfl
    rw [UInt64.toNat_and, mask, Nat.and_two_pow_sub_one_eq_mod]
    rfl
  simp only [Binary.ofFloat, Binary.ofBits, exponent, rest, twoPow, Nat.pow_eq]

/-- The significand and the exponent that a double can have. -/
structure Binary.Canonical (x : Binary) : Prop where
  bounded : x.significand < 2 ^ 53
  least : -1074 ≤ x.exponent
  full : -1074 < x.exponent → 2 ^ 52 ≤ x.significand
  narrow : x.narrowBelow = true ↔ x.significand = 2 ^ 52 ∧ -1074 < x.exponent

theorem ofFloat_canonical (x : Float) : (Binary.ofFloat x).Canonical := by
  have bound : fraction x < 2 ^ 52 := Nat.mod_lt _ (by decide)
  rw [ofFloat_eq]
  split
  · refine ⟨?_, ?_, ?_, ?_⟩ <;> dsimp only
    · omega
    · decide
    · intro contrary
      omega
    · simp
  · refine ⟨?_, ?_, ?_, ?_⟩ <;> dsimp only
    · omega
    · omega
    · omega
    · rw [decide_eq_true_iff]
      omega

theorem eq_of_ofFloat {x y : Float} (sign : isNegative x = isNegative y)
    (same : Binary.ofFloat x = Binary.ofFloat y) : x = y := by
  have boundX : fraction x < 2 ^ 52 := Nat.mod_lt _ (by decide)
  have boundY : fraction y < 2 ^ 52 := Nat.mod_lt _ (by decide)
  rw [ofFloat_eq, ofFloat_eq] at same
  split at same <;> split at same <;>
    simp only [Binary.mk.injEq] at same <;> obtain ⟨significand, exponent, -⟩ := same
  · exact eq_of_parts sign (by omega) significand
  · omega
  · omega
  · exact eq_of_parts sign (by omega) (by omega)

/-! ## Infinities and the value that is not a number -/

open Float.Model (Format UnpackedFloat)

theorem unpackExponent_toNat (x : Float) :
    (@UnpackedFloat.unpackExponent Format.binary64 x.toBits.toBitVec).toNat = biasedExponent x := by
  change (x.toBits.toNat >>> 52) % 2 ^ 11 = _
  rw [Nat.shiftRight_eq_div_pow]
  rfl

theorem unpackMantissa_toNat (x : Float) :
    (@UnpackedFloat.unpackMantissa Format.binary64 x.toBits.toBitVec).toNat = fraction x := by
  change (x.toBits.toNat >>> 0) % 2 ^ 52 = _
  rfl

theorem exponent_all_ones (x : Float) :
    @UnpackedFloat.unpackExponent Format.binary64 x.toBits.toBitVec = (-1#11) ↔
      biasedExponent x = 2047 := by
  rw [← BitVec.toNat_inj, unpackExponent_toNat]
  rfl

theorem mantissa_zero (x : Float) :
    @UnpackedFloat.unpackMantissa Format.binary64 x.toBits.toBitVec = 0#52 ↔ fraction x = 0 := by
  rw [← BitVec.toNat_inj, unpackMantissa_toNat]
  rfl

/-- With the greatest exponent a double is infinite or not a number, as its fraction says. -/
theorem unpack_of_greatest {x : Float} (greatest : biasedExponent x = 2047) :
    (fraction x = 0 ∧ ∃ sign, x.toModel.unpack = .infinity sign) ∨
      fraction x ≠ 0 ∧ x.toModel.unpack = .notANumber := by
  rw [ne_eq, ← mantissa_zero]
  have ones := (exponent_all_ones x).mpr greatest
  by_cases zero : @UnpackedFloat.unpackMantissa Format.binary64 x.toBits.toBitVec = 0#52
  · exact .inl ⟨zero, _, (if_pos ones).trans (if_pos zero)⟩
  · exact .inr ⟨zero, (if_pos ones).trans (if_neg zero)⟩

theorem unpack_of_less {x : Float} (less : biasedExponent x ≠ 2047) :
    (∃ sign, x.toModel.unpack = .zero sign) ∨
      ∃ sign significand exponent positive,
        x.toModel.unpack = .finite sign significand exponent positive := by
  have notOnes := mt (exponent_all_ones x).mp less
  by_cases none : @UnpackedFloat.unpackExponent Format.binary64 x.toBits.toBitVec = 0#11
  · by_cases zero : @UnpackedFloat.unpackMantissa Format.binary64 x.toBits.toBitVec = 0#52
    · exact .inl ⟨_, (if_neg notOnes).trans ((if_pos none).trans (dif_pos zero))⟩
    · exact .inr ⟨_, _, _, _, (if_neg notOnes).trans ((if_pos none).trans (dif_neg zero))⟩
  · exact .inr ⟨_, _, _, _, (if_neg notOnes).trans (if_neg none)⟩

theorem isNaN_iff (x : Float) : x.isNaN = true ↔ biasedExponent x = 2047 ∧ fraction x ≠ 0 := by
  change x.toModel.unpack.isNaN = true ↔ _
  by_cases greatest : biasedExponent x = 2047
  · obtain ⟨zero, sign, parts⟩ | ⟨rest, parts⟩ := unpack_of_greatest greatest
    · rw [parts]
      exact iff_of_false Bool.false_ne_true fun both => both.2 zero
    · rw [parts]
      exact iff_of_true rfl ⟨greatest, rest⟩
  · obtain ⟨sign, parts⟩ | ⟨sign, significand, exponent, positive, parts⟩ := unpack_of_less greatest
    all_goals
      rw [parts]
      exact iff_of_false Bool.false_ne_true fun both => greatest both.1

theorem isInf_iff (x : Float) : x.isInf = true ↔ biasedExponent x = 2047 ∧ fraction x = 0 := by
  change x.toModel.unpack.isInf = true ↔ _
  by_cases greatest : biasedExponent x = 2047
  · obtain ⟨zero, sign, parts⟩ | ⟨rest, parts⟩ := unpack_of_greatest greatest
    · rw [parts]
      exact iff_of_true rfl ⟨greatest, zero⟩
    · rw [parts]
      exact iff_of_false Bool.false_ne_true fun both => rest both.2
  · obtain ⟨sign, parts⟩ | ⟨sign, significand, exponent, positive, parts⟩ := unpack_of_less greatest
    all_goals
      rw [parts]
      exact iff_of_false Bool.false_ne_true fun both => greatest both.1

theorem eq_of_isNaN {x y : Float} (notX : x.isNaN = true) (notY : y.isNaN = true) : x = y := by
  have canonical : ∀ z : Float, z.isNaN = true →
      z.toBits.toBitVec = UnpackedFloat.packedNaN Format.binary64 := by
    intro z notZ
    obtain ⟨exponent, rest⟩ := (isNaN_iff z).mp notZ
    exact z.toModel.valid.eq_packedNaN ((exponent_all_ones z).mpr exponent)
      fun zero => rest ((mantissa_zero z).mp zero)
  refine Number.eq_of_toBits_eq x y (UInt64.toBitVec_inj.mp ?_)
  rw [canonical x notX, canonical y notY]

theorem eq_of_isInf {x y : Float} (infX : x.isInf = true) (infY : y.isInf = true)
    (sign : isNegative x = isNegative y) : x = y := by
  obtain ⟨exponentX, restX⟩ := (isInf_iff x).mp infX
  obtain ⟨exponentY, restY⟩ := (isInf_iff y).mp infY
  exact eq_of_parts sign (exponentX.trans exponentY.symm) (restX.trans restY.symm)

end SpatialQuery.Decimal
