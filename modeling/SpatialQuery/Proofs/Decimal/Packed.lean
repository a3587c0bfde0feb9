import SpatialQuery.Proofs.Decimal.Bits

/-!
# Doubles put together and taken apart

Arithmetic takes doubles apart, computes on sign, significand and exponent, and puts the result together
again.  What is put together from the parts of a finite double is that double.
-/

set_option autoImplicit false

namespace SpatialQuery.Decimal

open Float.Model (Format UnpackedFloat)
open Float.Model.UnpackedFloat (Sign packComponents)

/-! ## The three parts of the bits -/

theorem toNat_packComponents (sign : Sign) (exponent : BitVec 11) (mantissa : BitVec 52) :
    (packComponents Format.binary64 sign exponent mantissa).toNat =
      sign.toBitVec.toNat * 2 ^ 63 + exponent.toNat * 2 ^ 52 + mantissa.toNat := by
  have low := mantissa.isLt
  have middle := exponent.isLt
  have whole : (sign.toBitVec ++ exponent ++ mantissa).toNat =
      ((sign.toBitVec.toNat <<< 11 ||| exponent.toNat) <<< 52) ||| mantissa.toNat := by
    rw [BitVec.toNat_append, BitVec.toNat_append]
  refine whole.trans ?_
  rw [← Nat.shiftLeft_add_eq_or_of_lt middle, ← Nat.shiftLeft_add_eq_or_of_lt low,
    Nat.shiftLeft_eq, Nat.shiftLeft_eq]
  omega

section

variable {x : Float} {sign : Sign} {exponent : BitVec 11} {mantissa : BitVec 52}
  (bits : x.toBits.toBitVec = packComponents Format.binary64 sign exponent mantissa)

include bits

theorem toNat_of_bits : x.toBits.toNat =
    sign.toBitVec.toNat * 2 ^ 63 + exponent.toNat * 2 ^ 52 + mantissa.toNat := by
  rw [← toNat_packComponents, ← bits]
  rfl

theorem biasedExponent_of_bits : biasedExponent x = exponent.toNat := by
  have low := mantissa.isLt
  have middle := exponent.isLt
  rw [biasedExponent, toNat_of_bits bits]
  omega

theorem fraction_of_bits : fraction x = mantissa.toNat := by
  have low := mantissa.isLt
  rw [fraction, toNat_of_bits bits]
  omega

theorem isNegative_of_bits : isNegative x = true ↔ sign = .negative := by
  have low := mantissa.isLt
  have middle := exponent.isLt
  rw [isNegative_iff, toNat_of_bits bits]
  cases sign with
  | positive =>
    simp only [Sign.toBitVec, BitVec.toNat_ofNat, reduceCtorEq, iff_false]
    omega
  | negative =>
    simp only [Sign.toBitVec, BitVec.toNat_ofNat, iff_true]
    omega

end

/-! ## Putting together -/

def put (u : UnpackedFloat) : Float := Float.ofModel (Float.Model.pack u)

theorem toBits_put (u : UnpackedFloat) :
    (put u).toBits.toBitVec = UnpackedFloat.pack Format.binary64 u := rfl

def Binary.ofParts (significand : Nat) (exponent : Int) : Binary :=
  ⟨significand, exponent, significand = 2 ^ 52 ∧ -1074 < exponent⟩

theorem Binary.canonical_ofParts {significand : Nat} {exponent : Int} (bounded : significand < 2 ^ 53)
    (least : -1074 ≤ exponent) (full : -1074 < exponent → 2 ^ 52 ≤ significand) :
    (Binary.ofParts significand exponent).Canonical :=
  ⟨bounded, least, full, decide_eq_true_iff⟩

theorem Binary.Canonical.eq_ofParts {x : Binary} (canonical : x.Canonical) :
    x = .ofParts x.significand x.exponent := by
  obtain ⟨significand, exponent, narrow⟩ := x
  have exact := canonical.narrow
  rw [Binary.ofParts, Binary.mk.injEq, Bool.eq_iff_iff, decide_eq_true_iff]
  exact ⟨rfl, rfl, exact⟩

theorem Binary.Canonical.ofParts {x : Binary} (canonical : x.Canonical) :
    (Binary.ofParts x.significand x.exponent).Canonical := by
  rwa [← canonical.eq_ofParts]

section

variable {sign : Sign} {significand : Nat} {exponent : Int} (positive : 0 < significand)

include positive

theorem pack_normal (full : 2 ^ 52 ≤ significand) (bounded : significand < 2 ^ 53)
    (small : exponent ≤ 971) :
    UnpackedFloat.pack Format.binary64 (.finite sign significand exponent positive) =
      packComponents Format.binary64 sign (BitVec.ofNat 11 (exponent + 1075).toNat)
        (BitVec.ofNat 52 significand) := by
  have digits : significand.log2 = 52 := (Nat.log2_eq_iff (by omega)).mpr ⟨full, bounded⟩
  have biased : (exponent + (Format.binary64.exponentBias : Int) +
      (Format.binary64.mantissaBitsWithoutImplicit : Int)).toNat = (exponent + 1075).toNat := by
    change (exponent + 1023 + 52).toNat = _
    omega
  have fits : ¬ 2 ^ Format.binary64.exponentBits ≤ (exponent + 1075).toNat + 1 := by
    change ¬ 2 ^ 11 ≤ _
    omega
  have allDigits : significand.log2 + 1 = Format.binary64.mantissaBits := by
    rw [digits]
    rfl
  unfold UnpackedFloat.pack
  dsimp only
  rw [biased, if_neg fits, if_pos allDigits]

theorem pack_subnormal (below : significand < 2 ^ 52) :
    UnpackedFloat.pack Format.binary64 (.finite sign significand (-1074) positive) =
      packComponents Format.binary64 sign 0#11 (BitVec.ofNat 52 significand) := by
  have digits : significand.log2 < 52 := (Nat.log2_lt (by omega)).mpr below
  have fewer : ¬ significand.log2 + 1 = Format.binary64.mantissaBits := by
    change ¬ significand.log2 + 1 = 53
    omega
  unfold UnpackedFloat.pack
  dsimp only
  rw [if_neg (by decide), if_neg fewer]

theorem ofFloat_put (canonical : (Binary.ofParts significand exponent).Canonical)
    (small : exponent ≤ 971) :
    Binary.ofFloat (put (.finite sign significand exponent positive)) =
        .ofParts significand exponent ∧
      (isNegative (put (.finite sign significand exponent positive)) = true ↔ sign = .negative) := by
  have bounded : significand < 2 ^ 53 := canonical.bounded
  have least : -1074 ≤ exponent := canonical.least
  by_cases full : 2 ^ 52 ≤ significand
  · have bits := (toBits_put (.finite sign significand exponent positive)).trans
      (pack_normal positive full bounded small)
    refine ⟨?_, isNegative_of_bits bits⟩
    have field : biasedExponent (put (.finite sign significand exponent positive)) =
        (exponent + 1075).toNat := by
      rw [biasedExponent_of_bits bits, BitVec.toNat_ofNat]
      omega
    have rest : fraction (put (.finite sign significand exponent positive)) =
        significand - 2 ^ 52 := by
      rw [fraction_of_bits bits, BitVec.toNat_ofNat]
      omega
    rw [ofFloat_eq, field, rest, if_neg (by omega), Binary.ofParts, Binary.mk.injEq,
      Bool.eq_iff_iff, decide_eq_true_iff, decide_eq_true_iff]
    refine ⟨by omega, by omega, ?_⟩
    omega
  · have higher : -1074 < exponent → 2 ^ 52 ≤ significand := canonical.full
    have lowest : exponent = -1074 := by omega
    subst lowest
    have bits := (toBits_put (.finite sign significand (-1074) positive)).trans
      (pack_subnormal positive (by omega))
    refine ⟨?_, isNegative_of_bits bits⟩
    have field : biasedExponent (put (.finite sign significand (-1074) positive)) = 0 :=
      biasedExponent_of_bits bits
    have rest : fraction (put (.finite sign significand (-1074) positive)) = significand := by
      rw [fraction_of_bits bits, BitVec.toNat_ofNat]
      omega
    rw [ofFloat_eq, field, rest, if_pos rfl, Binary.ofParts, Binary.mk.injEq]
    exact ⟨rfl, rfl, (decide_eq_false (by omega)).symm⟩

end

/-! ## Taking apart -/

def signOf (x : Float) : Sign := if isNegative x then .negative else .positive

theorem unpackSign_eq (x : Float) :
    Sign.ofBitVec (@UnpackedFloat.unpackSign Format.binary64 x.toBits.toBitVec) = signOf x := by
  have bound := x.toBits.toNat_lt
  have high := isNegative_iff x
  have bit : (@UnpackedFloat.unpackSign Format.binary64 x.toBits.toBitVec).toNat =
      x.toBits.toNat / 2 ^ 63 := by
    change (x.toBits.toNat >>> 63) % 2 ^ 1 = _
    rw [Nat.shiftRight_eq_div_pow]
    omega
  have zero : @UnpackedFloat.unpackSign Format.binary64 x.toBits.toBitVec = 0#1 ↔
      isNegative x = false := by
    rw [← BitVec.toNat_inj, bit, ← Bool.not_eq_true, high]
    change x.toBits.toNat / 2 ^ 63 = 0 ↔ _
    omega
  unfold signOf Sign.ofBitVec
  cases sign : isNegative x with
  | true => rw [if_neg (by rw [zero, sign]; decide), if_pos rfl]
  | false => rw [if_pos (zero.mpr sign), if_neg (by decide)]

/-- A finite double comes apart into its sign and the parts of its exact value. -/
theorem unpack_eq {x : Float} (finite : biasedExponent x ≠ 2047) :
    x.toModel.unpack =
      if zero : (Binary.ofFloat x).significand = 0 then .zero (signOf x)
      else .finite (signOf x) (Binary.ofFloat x).significand (Binary.ofFloat x).exponent
        (Nat.pos_of_ne_zero zero) := by
  have notOnes := mt (exponent_all_ones x).mp finite
  have noExponent : @UnpackedFloat.unpackExponent Format.binary64 x.toBits.toBitVec = 0#11 ↔
      biasedExponent x = 0 := by
    rw [← BitVec.toNat_inj, unpackExponent_toNat]
    rfl
  have whole : (1#1 ++ @UnpackedFloat.unpackMantissa Format.binary64 x.toBits.toBitVec).toNat =
      2 ^ 52 + fraction x := by
    have bound : fraction x < 2 ^ 52 := Nat.mod_lt _ (by decide)
    have joined := BitVec.toNat_append (1#1)
      (@UnpackedFloat.unpackMantissa Format.binary64 x.toBits.toBitVec)
    rw [unpackMantissa_toNat] at joined
    refine joined.trans ?_
    change 1 <<< 52 ||| fraction x = _
    rw [← Nat.shiftLeft_add_eq_or_of_lt bound, Nat.shiftLeft_eq, Nat.one_mul]
  change UnpackedFloat.unpack Format.binary64 x.toBits.toBitVec = _
  unfold UnpackedFloat.unpack
  dsimp only
  rw [if_neg notOnes]
  by_cases exponent : biasedExponent x = 0
  · rw [if_pos (noExponent.mpr exponent)]
    have parts : Binary.ofFloat x = ⟨fraction x, -1074, false⟩ := by
      rw [ofFloat_eq, if_pos exponent]
    by_cases rest : fraction x = 0
    · rw [dif_pos ((mantissa_zero x).mpr rest), dif_pos (by rw [parts]; exact rest), unpackSign_eq]
    · rw [dif_neg (mt (mantissa_zero x).mp rest), dif_neg (by rw [parts]; exact rest)]
      rw [UnpackedFloat.finite.injEq, parts, unpackMantissa_toNat, unpackExponent_toNat, exponent]
      exact ⟨unpackSign_eq x, rfl, rfl⟩
  · rw [if_neg (mt noExponent.mp exponent)]
    have parts : Binary.ofFloat x = ⟨2 ^ 52 + fraction x, biasedExponent x - 1075,
        fraction x = 0 ∧ 1 < biasedExponent x⟩ := by
      rw [ofFloat_eq, if_neg exponent]
    rw [dif_neg (by rw [parts]; dsimp only; omega)]
    rw [UnpackedFloat.finite.injEq, parts, unpackExponent_toNat, whole]
    exact ⟨unpackSign_eq x, rfl, rfl⟩

/-! ## Negation -/

theorem finite_iff (x : Float) : biasedExponent x ≠ 2047 ↔ (Binary.ofFloat x).exponent ≤ 971 := by
  have bound : biasedExponent x < 2 ^ 11 := Nat.mod_lt _ (by decide)
  rw [ofFloat_eq]
  split <;> dsimp only <;> omega

theorem isFinite_iff (x : Float) : x.isFinite = true ↔ biasedExponent x ≠ 2047 := by
  change x.toModel.unpack.isFinite = true ↔ _
  by_cases greatest : biasedExponent x = 2047
  · obtain ⟨zero, sign, parts⟩ | ⟨rest, parts⟩ := unpack_of_greatest greatest
    all_goals
      rw [parts]
      exact iff_of_false Bool.false_ne_true fun less => less greatest
  · obtain ⟨sign, parts⟩ | ⟨sign, significand, exponent, positive, parts⟩ := unpack_of_less greatest
    all_goals
      rw [parts]
      exact iff_of_true rfl greatest

theorem neg_eq_put (x : Float) : -x = put x.toModel.unpack.neg := rfl

theorem ofFloat_put_zero (sign : Sign) :
    Binary.ofFloat (put (.zero sign)) = .ofParts 0 (-1074) ∧
      (isNegative (put (.zero sign)) = true ↔ sign = .negative) := by
  have bits : (put (.zero sign)).toBits.toBitVec = packComponents Format.binary64 sign 0#11 0#52 :=
    rfl
  refine ⟨?_, isNegative_of_bits bits⟩
  have field : biasedExponent (put (.zero sign)) = 0 := biasedExponent_of_bits bits
  have rest : fraction (put (.zero sign)) = 0 := fraction_of_bits bits
  rw [ofFloat_eq, if_pos field, rest]
  rfl

theorem isNegative_eq (x : Float) {y : Float} (sign : isNegative y = true ↔ -signOf x = .negative) :
    isNegative y = !isNegative x := by
  rw [Bool.eq_iff_iff, sign]
  unfold signOf
  cases isNegative x with
  | true => exact iff_of_false nofun nofun
  | false => exact iff_of_true rfl rfl

theorem ofFloat_neg {x : Float} (finite : biasedExponent x ≠ 2047) :
    Binary.ofFloat (-x) = Binary.ofFloat x ∧ isNegative (-x) = !isNegative x := by
  have canonical := ofFloat_canonical x
  rw [neg_eq_put, unpack_eq finite]
  by_cases zero : (Binary.ofFloat x).significand = 0
  · rw [dif_pos zero]
    obtain ⟨size, sign⟩ := ofFloat_put_zero (-signOf x)
    refine ⟨size.trans ?_, isNegative_eq x sign⟩
    have lowest : (Binary.ofFloat x).exponent = -1074 := by
      have least := canonical.least
      have full := canonical.full
      omega
    rw [canonical.eq_ofParts, zero, lowest]
  · rw [dif_neg zero]
    obtain ⟨size, sign⟩ := @ofFloat_put (-signOf x) _ _ (Nat.pos_of_ne_zero zero) canonical.ofParts
      ((finite_iff x).mp finite)
    exact ⟨size.trans canonical.eq_ofParts.symm, isNegative_eq x sign⟩

end SpatialQuery.Decimal
