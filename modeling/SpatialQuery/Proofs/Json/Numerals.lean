import SpatialQuery.Proofs.Decimal.Nearest
import SpatialQuery.Proofs.Json.Grammar
import SpatialQuery.Json.Printer

/-!
# Written numbers are numerals

Every finite number is written as the grammar wants it, and the numeral stands for that number: integers
exactly, doubles because their digits are read back as the nearest double.
-/

set_option autoImplicit false

namespace SpatialQuery

open Decimal (isAsciiDigit digitChars Scaled)

theorem Decimal.digitChars_ne_zero {n : ℕ} (some : 0 < n) (rest : List Char) :
    digitChars n ≠ '0' :: rest := by
  have small : ∀ d < 10, 0 < d → d.digitChar ≠ '0' := by decide
  induction n using Nat.strongRecOn generalizing rest with
  | ind n ih =>
    intro zero
    rw [digitChars] at zero
    by_cases one : n < 10
    · rw [Nat.toDigits_of_lt_base one] at zero
      exact small n one some (List.cons.inj zero).1
    · rw [Nat.toDigits_of_base_le (by decide) (by omega)] at zero
      obtain ⟨c, cs, first⟩ := List.exists_cons_of_ne_nil (Decimal.digitChars_ne_nil (n / 10))
      rw [digitChars] at first
      rw [first] at zero
      have same := (List.cons.inj zero).1
      rw [same] at first
      exact ih (n / 10) (by omega) (by omega) cs first

namespace Json

theorem Power.exponentPart {p : Power} (proper : p.IsProper) :
    Decimal.exponentPart p.chars = (some p.value, []) := by
  obtain ⟨letter, sign, digits⟩ := p
  obtain ⟨isLetter, isSign, areDigits, someDigit⟩ := proper
  dsimp only at isLetter isSign areDigits someDigit
  have marked : (letter == 'e' || letter == 'E') = true := by
    rcases isLetter with rfl | rfl <;> rfl
  have signed : Decimal.signPart (sign ++ digits) = (sign == ['-'], digits) := by
    rcases isSign with rfl | rfl | rfl
    · obtain ⟨c, cs, rfl⟩ := List.exists_cons_of_ne_nil someDigit
      have digit := areDigits c (by simp)
      have notMinus : c ≠ '-' := by
        rintro rfl
        exact absurd digit (by decide)
      have notPlus : c ≠ '+' := by
        rintro rfl
        exact absurd digit (by decide)
      simp [Decimal.signPart, notMinus, notPlus]
    · rfl
    · rfl
  have nonempty : digits.isEmpty = false := by simpa using someDigit
  simp only [Decimal.exponentPart, Power.chars, Power.value, List.cons_append, marked, if_true, signed,
    Decimal.takeWhile_all areDigits, Decimal.dropWhile_all areDigits, nonempty, Bool.false_eq_true,
    if_false]

theorem Power.chars_cons {p : Power} (proper : p.IsProper) :
    ∃ c rest, p.chars = c :: rest ∧ isAsciiDigit c = false ∧ c ≠ '.' := by
  rcases proper.letter with letter | letter
  · exact ⟨'e', p.sign ++ p.digits, by rw [Power.chars, letter]; rfl, rfl, by decide⟩
  · exact ⟨'E', p.sign ++ p.digits, by rw [Power.chars, letter]; rfl, rfl, by decide⟩

namespace Numeral

def unsigned (n : Numeral) : List Char := n.whole ++ (n.fractionChars ++ n.powerChars)

theorem chars_eq (n : Numeral) : n.chars = if n.negative then '-' :: n.unsigned else n.unsigned := by
  unfold chars unsigned
  split <;> rfl

theorem ofChars?_unsigned {n : Numeral} (proper : n.IsProper) :
    Scaled.ofChars? n.unsigned = some n.size := by
  obtain ⟨negative, whole, fraction, power⟩ := n
  obtain ⟨digits, someDigit, -, fractionDigits, powers⟩ := proper
  dsimp only at digits someDigit fractionDigits powers
  cases fraction with
  | none =>
    cases power with
    | none =>
      simp [unsigned, fractionChars, powerChars, size, Scaled.ofChars?, Decimal.takeWhile_all digits,
        Decimal.dropWhile_all digits, Decimal.exponentPart, someDigit]
    | some p =>
      have exponent := Power.exponentPart (powers p rfl)
      obtain ⟨c, rest, written, stops, notPoint⟩ := Power.chars_cons (powers p rfl)
      rw [written] at exponent
      simp [unsigned, fractionChars, powerChars, size, Scaled.ofChars?, written, exponent,
        Decimal.takeWhile_stop digits c stops, Decimal.dropWhile_stop digits c stops, notPoint,
        someDigit]
  | some places =>
    obtain ⟨areDigits, somePlace⟩ := fractionDigits places rfl
    cases power with
    | none =>
      simp [unsigned, fractionChars, powerChars, size, Scaled.ofChars?,
        Decimal.takeWhile_stop digits '.' rfl, Decimal.dropWhile_stop digits '.' rfl,
        Decimal.takeWhile_all areDigits, Decimal.dropWhile_all areDigits, Decimal.exponentPart,
        someDigit]
    | some p =>
      have exponent := Power.exponentPart (powers p rfl)
      obtain ⟨c, rest, written, stops, -⟩ := Power.chars_cons (powers p rfl)
      rw [written] at exponent
      simp [unsigned, fractionChars, powerChars, size, Scaled.ofChars?, written, exponent,
        Decimal.takeWhile_stop digits '.' rfl, Decimal.dropWhile_stop digits '.' rfl,
        Decimal.takeWhile_stop areDigits c stops, Decimal.dropWhile_stop areDigits c stops, someDigit]

/-! ## Decimals -/

/-- The characters are those of an unsigned numeral that is no integer. -/
def IsDecimal (cs : List Char) : Prop :=
  ∃ n : Numeral, n.IsProper ∧ n.negative = false ∧ n.unsigned = cs ∧
    (n.fraction.isSome = true ∨ n.power.isSome = true)

theorem zero_areDigits : ∀ c ∈ ['0'], isAsciiDigit c = true := List.all_eq_true.mp rfl

theorem isDecimal_point (whole places : List Char) (digits : ∀ c ∈ whole, isAsciiDigit c = true)
    (someDigit : whole ≠ []) (noLeadingZero : ∀ rest, whole = '0' :: rest → rest = [])
    (areDigits : ∀ c ∈ places, isAsciiDigit c = true) (somePlace : places ≠ []) :
    IsDecimal (whole ++ '.' :: places) := by
  refine ⟨⟨false, whole, some places, none⟩, ⟨digits, someDigit, noLeadingZero, ?_, nofun⟩, rfl, ?_,
    Or.inl rfl⟩
  · rintro _ ⟨⟩
    exact ⟨areDigits, somePlace⟩
  · simp [unsigned, fractionChars, powerChars]

def writtenPower (e : Int) : Power := ⟨'e', [if e < 0 then '-' else '+'], Decimal.exponentDigits e⟩

theorem isProper_writtenPower (e : Int) : (writtenPower e).IsProper := by
  refine ⟨Or.inl rfl, ?_, ?_, ?_⟩
  · unfold writtenPower
    split
    · exact Or.inr (Or.inr rfl)
    · exact Or.inr (Or.inl rfl)
  · change ∀ c ∈ Decimal.exponentDigits e, _
    unfold Decimal.exponentDigits
    split
    · exact List.forall_mem_cons.mpr ⟨rfl, Decimal.asciiDigit_of_mem_digitChars⟩
    · exact Decimal.asciiDigit_of_mem_digitChars
  · change Decimal.exponentDigits e ≠ []
    unfold Decimal.exponentDigits
    split
    · simp
    · exact Decimal.digitChars_ne_nil _

theorem isDecimal_scientific {digits : List Char} (areDigits : ∀ c ∈ digits, isAsciiDigit c = true)
    (someDigit : digits ≠ []) (leading : Int) : IsDecimal (Decimal.scientific digits leading) := by
  obtain ⟨first, others, rfl⟩ := List.exists_cons_of_ne_nil someDigit
  obtain ⟨isDigit, areOthers⟩ := List.forall_mem_cons.mp areDigits
  have whole : ∀ c ∈ [first], isAsciiDigit c = true := by simpa using isDigit
  have noLeadingZero : ∀ rest, [first] = '0' :: rest → rest = [] :=
    fun rest same => (List.cons.inj same).2.symm
  have powers : ∀ p ∈ some (writtenPower leading), p.IsProper := by
    rintro _ ⟨⟩
    exact isProper_writtenPower leading
  cases others with
  | nil =>
    refine ⟨⟨false, [first], none, some (writtenPower leading)⟩,
      ⟨whole, by simp, noLeadingZero, nofun, powers⟩, rfl, rfl, Or.inr rfl⟩
  | cons second rest =>
    refine ⟨⟨false, [first], some (second :: rest), some (writtenPower leading)⟩,
      ⟨whole, by simp, noLeadingZero, ?_, powers⟩, rfl, rfl, Or.inr rfl⟩
    rintro _ ⟨⟩
    exact ⟨areOthers, by simp⟩

section

variable {digits : List Char} (areDigits : ∀ c ∈ digits, isAsciiDigit c = true)
  (someDigit : digits ≠ []) (noZero : ∀ rest, digits ≠ '0' :: rest)

include areDigits someDigit noZero

theorem isDecimal_positional (leading : Int) : IsDecimal (Decimal.positional digits leading) := by
  unfold Decimal.positional
  split
  · exact isDecimal_point ['0'] _ zero_areDigits (by simp) (by simp)
      (List.forall_mem_append.mpr ⟨Decimal.asciiDigit_of_mem_zeros, areDigits⟩) (by simp [someDigit])
  · obtain ⟨first, others, rfl⟩ := List.exists_cons_of_ne_nil someDigit
    have notZero : first ≠ '0' := fun same => noZero others (by rw [same])
    dsimp only
    split
    · refine isDecimal_point
        (first :: others ++ List.replicate (leading.toNat + 1 - (first :: others).length) '0') ['0']
        (List.forall_mem_append.mpr ⟨areDigits, Decimal.asciiDigit_of_mem_zeros⟩) (by simp) ?_
        zero_areDigits (by simp)
      intro rest same
      exact absurd (List.cons.inj same).1 notZero
    · rename_i long
      refine isDecimal_point _ _ (fun c member => areDigits c (List.mem_of_mem_take member)) (by simp) ?_
        (fun c member => areDigits c (List.mem_of_mem_drop member)) ?_
      · intro rest same
        exact absurd (List.cons.inj same).1 notZero
      · intro none
        have short := List.drop_eq_nil_iff.mp none
        omega

end

theorem isDecimal_layOut {d : Scaled} (some : 0 < d.digits) : IsDecimal (Decimal.layOut d) := by
  unfold Decimal.layOut
  dsimp only
  split
  · exact isDecimal_positional Decimal.asciiDigit_of_mem_digitChars (Decimal.digitChars_ne_nil _)
      (Decimal.digitChars_ne_zero some) _
  · exact isDecimal_scientific Decimal.asciiDigit_of_mem_digitChars (Decimal.digitChars_ne_nil _) _

/-! ## Both kinds of numbers -/

theorem exists_of_int (n : Int) :
    ∃ numeral : Numeral, numeral.IsProper ∧ numeral.chars = Number.intChars n ∧
      numeral.value = .int n := by
  refine ⟨⟨n < 0, digitChars n.natAbs, none, none⟩,
    ⟨Decimal.asciiDigit_of_mem_digitChars, Decimal.digitChars_ne_nil _, ?_, nofun, nofun⟩, ?_, ?_⟩
  · intro rest same
    rcases Nat.eq_zero_or_pos n.natAbs with zero | some
    · rw [zero] at same
      exact (List.cons.inj same).2.symm
    · exact absurd same (Decimal.digitChars_ne_zero some rest)
  · rw [chars_eq, Number.intChars]
    simp [unsigned, fractionChars, powerChars]
  · simp only [value, Decimal.digitsValue_digitChars, Decimal.signed, decide_eq_true_eq]
    rw [if_pos ⟨rfl, rfl⟩, Number.int.injEq]
    split <;> omega

variable {x : Float}

theorem not_special (finite : x.isFinite = true) : x.isNaN = false ∧ x.isInf = false := by
  have exponent := (Decimal.isFinite_iff x).mp finite
  rw [Bool.eq_false_iff, Bool.eq_false_iff]
  exact ⟨fun isNaN => exponent ((Decimal.isNaN_iff x).mp isNaN).1,
    fun isInf => exponent ((Decimal.isInf_iff x).mp isInf).1⟩

theorem isDecimal_body (finite : x.isFinite = true) : IsDecimal (Decimal.jsonLayout.body x) := by
  unfold Decimal.Layout.body
  rw [(not_special finite).2, if_neg (by decide)]
  split
  · exact isDecimal_point ['0'] ['0'] zero_areDigits (by simp) (by simp) zero_areDigits (by simp)
  · rename_i some
    refine isDecimal_layOut (Nat.pos_of_ne_zero fun zero => ?_)
    have positive := Decimal.Binary.shortest_pos (Nat.pos_of_ne_zero some)
    rw [Scaled.value, zero, Nat.cast_zero, zero_mul] at positive
    exact lt_irrefl _ positive

theorem exists_of_real (finite : x.isFinite = true) :
    ∃ numeral : Numeral, numeral.IsProper ∧ numeral.chars = Decimal.jsonLayout.chars x ∧
      numeral.value = .real x := by
  obtain ⟨n, proper, unsigned, written, notInteger⟩ := isDecimal_body finite
  obtain ⟨notNaN, notInf⟩ := not_special finite
  obtain ⟨r, read, zero, worth⟩ := Decimal.jsonLayout.body_read notInf
  rw [← written, ofChars?_unsigned proper, Option.some.injEq] at read
  refine ⟨{ n with negative := Decimal.isNegative x }, { proper with }, ?_, ?_⟩
  · rw [Decimal.Layout.chars_eq, notNaN, if_neg (by decide), ← written, chars_eq]
    rfl
  · have real : ¬ (n.fraction.isNone ∧ n.power.isNone) := by
      rintro ⟨noFraction, noPower⟩
      rw [Option.isNone_iff_eq_none] at noFraction noPower
      rw [noFraction, noPower] at notInteger
      simp at notInteger
    have nearest := Decimal.nearest_of_written ((Decimal.isFinite_iff x).mp finite) zero worth
    rw [← read] at nearest
    rw [value, if_neg real]
    exact congrArg Number.real nearest

theorem exists_of_finite {n : Number} (finite : n.isFinite = true) :
    ∃ numeral : Numeral, numeral.IsProper ∧ numeral.chars = numberChars n ∧ numeral.value = n := by
  cases n with
  | int n => exact exists_of_int n
  | real x => exact exists_of_real finite

end Numeral

end Json

end SpatialQuery
