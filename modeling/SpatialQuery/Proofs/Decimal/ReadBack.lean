import SpatialQuery.Decimal.Layout
import SpatialQuery.Decimal.Written
import SpatialQuery.Proofs.Decimal.Numeral
import SpatialQuery.Proofs.Decimal.Value

/-!
# Decimals that are written read back

Where the point stands and whether a power of ten follows depends on the size of a decimal; what is read
is worth the same in every case.
-/

set_option autoImplicit false

namespace SpatialQuery.Decimal

/-! ## Rows of digits -/

theorem asciiDigit_of_mem_digitChars {n : ℕ} : ∀ c ∈ digitChars n, isAsciiDigit c = true :=
  fun _ member => isDigit_of_mem_digitChars member

theorem asciiDigit_of_mem_zeros {n : ℕ} : ∀ c ∈ List.replicate n '0', isAsciiDigit c = true := by
  intro c member
  obtain ⟨_, rfl⟩ := List.mem_replicate.mp member
  rfl

theorem digitsValue_eq (cs : List Char) : digitsValue cs = Nat.ofDigitChars 10 cs 0 := by
  unfold digitsValue Nat.ofDigitChars
  congr 1
  funext total digit
  rw [Nat.mul_comm]

theorem digitsValue_append (as bs : List Char) :
    digitsValue (as ++ bs) = digitsValue as * 10 ^ bs.length + digitsValue bs := by
  rw [digitsValue_eq, digitsValue_eq, digitsValue_eq, Nat.ofDigitChars_append,
    Nat.ofDigitChars_eq_ofDigitChars_zero, Nat.mul_comm]

@[simp] theorem digitsValue_digitChars (n : ℕ) : digitsValue (digitChars n) = n := by
  rw [digitsValue_eq, digitChars, Nat.ofDigitChars_ten_toDigits]

@[simp] theorem digitsValue_zeros (n : ℕ) : digitsValue (List.replicate n '0') = 0 := by
  rw [digitsValue_eq, Nat.ofDigitChars_replicate_zero, Nat.mul_zero]

/-! ## What the reader takes -/

section

variable {p : Char → Bool} {digits rest : List Char} (all : ∀ c ∈ digits, p c = true) (stop : Char)
  (stops : p stop = false)

include all stops

theorem takeWhile_stop : (digits ++ stop :: rest).takeWhile p = digits := by
  rw [List.takeWhile_append_of_pos all, List.takeWhile_cons_of_neg (by simp [stops]), List.append_nil]

theorem dropWhile_stop : (digits ++ stop :: rest).dropWhile p = stop :: rest := by
  rw [List.dropWhile_append_of_pos all, List.dropWhile_cons_of_neg (by simp [stops])]

end

theorem takeWhile_all {p : Char → Bool} {digits : List Char} (all : ∀ c ∈ digits, p c = true) :
    digits.takeWhile p = digits := by
  have taken : (digits ++ []).takeWhile p = digits ++ [].takeWhile p :=
    List.takeWhile_append_of_pos all
  simpa using taken

theorem dropWhile_all {p : Char → Bool} {digits : List Char} (all : ∀ c ∈ digits, p c = true) :
    digits.dropWhile p = [] := by
  have dropped : (digits ++ []).dropWhile p = [].dropWhile p := List.dropWhile_append_of_pos all
  simpa using dropped

def exponentDigits (e : Int) : List Char :=
  if (digitChars e.natAbs).length < 2 then '0' :: digitChars e.natAbs else digitChars e.natAbs

theorem digitsValue_exponentDigits (e : Int) : digitsValue (exponentDigits e) = e.natAbs := by
  unfold exponentDigits
  split
  · have prefixed := digitsValue_append ['0'] (digitChars e.natAbs)
    rw [digitsValue_digitChars] at prefixed
    simpa [digitsValue] using prefixed
  · exact digitsValue_digitChars _

theorem exponentPart_written (e : Int) : exponentPart ('e' :: exponentChars e) = (some e, []) := by
  have digits : ∀ c ∈ exponentDigits e, isAsciiDigit c = true := by
    unfold exponentDigits
    split
    · exact List.forall_mem_cons.mpr ⟨rfl, asciiDigit_of_mem_digitChars⟩
    · exact asciiDigit_of_mem_digitChars
  have someDigit : (exponentDigits e).isEmpty = false := by
    unfold exponentDigits
    split
    · rfl
    · simpa using digitChars_ne_nil _
  have sign : signPart (exponentChars e) = (decide (e < 0), exponentDigits e) := by
    by_cases negative : e < 0 <;>
      simp only [exponentChars, exponentDigits, negative, if_true, if_false, signPart] <;> rfl
  have read : signed (decide (e < 0)) (digitsValue (exponentDigits e)) = e := by
    rw [digitsValue_exponentDigits, signed]
    split
    · rename_i negative
      have below := of_decide_eq_true negative
      omega
    · rename_i nonnegative
      have above : ¬ e < 0 := fun negative => nonnegative (decide_eq_true negative)
      omega
  simp only [exponentPart, sign, takeWhile_all digits, dropWhile_all digits, someDigit, read]
  rfl

section

variable {whole fraction : List Char} (digitsWhole : ∀ c ∈ whole, isAsciiDigit c = true)
  (someDigit : whole ≠ [])

include digitsWhole someDigit

theorem ofChars?_positional (digitsFraction : ∀ c ∈ fraction, isAsciiDigit c = true) :
    Scaled.ofChars? (whole ++ '.' :: fraction) = some (.ofDigits whole fraction 0) := by
  simp [Scaled.ofChars?, takeWhile_stop digitsWhole '.' rfl,
    dropWhile_stop digitsWhole '.' rfl, takeWhile_all digitsFraction,
    dropWhile_all digitsFraction, exponentPart, someDigit]

theorem ofChars?_power (e : Int) :
    Scaled.ofChars? (whole ++ 'e' :: exponentChars e) = some (.ofDigits whole [] e) := by
  simp [Scaled.ofChars?, takeWhile_stop digitsWhole 'e' rfl,
    dropWhile_stop digitsWhole 'e' rfl, exponentPart_written, someDigit]

theorem ofChars?_scientific (digitsFraction : ∀ c ∈ fraction, isAsciiDigit c = true) (e : Int) :
    Scaled.ofChars? (whole ++ '.' :: (fraction ++ 'e' :: exponentChars e)) =
      some (.ofDigits whole fraction e) := by
  simp [Scaled.ofChars?, takeWhile_stop digitsWhole '.' rfl,
    dropWhile_stop digitsWhole '.' rfl, takeWhile_stop digitsFraction 'e' rfl,
    dropWhile_stop digitsFraction 'e' rfl, exponentPart_written, someDigit]

end

theorem value_ofDigits (whole fraction : List Char) (e : Int) :
    (Scaled.ofDigits whole fraction e).value =
      digitsValue (whole ++ fraction) * 10 ^ (e - fraction.length) := rfl

/-! ## Both layouts -/

variable {digits : List Char} (areDigits : ∀ c ∈ digits, isAsciiDigit c = true)
  (someDigit : digits ≠ [])

include areDigits someDigit

/-- The place value of the last digit is that of the first less the places between. -/
theorem positional_read (leading : Int) :
    ∃ r, Scaled.ofChars? (positional digits leading) = some r ∧
      r.value = digitsValue digits * 10 ^ (leading + 1 - digits.length) := by
  unfold positional
  split
  · rename_i below
    have read : Scaled.ofChars? (['0'] ++ '.' :: (List.replicate (-leading - 1).toNat '0' ++ digits)) =
        some (.ofDigits ['0'] (List.replicate (-leading - 1).toNat '0' ++ digits) 0) :=
      ofChars?_positional (by simp [isAsciiDigit]) (by simp)
        (List.forall_mem_append.mpr ⟨asciiDigit_of_mem_zeros, areDigits⟩)
    refine ⟨_, read, ?_⟩
    rw [value_ofDigits, digitsValue_append, digitsValue_append, digitsValue_zeros, List.length_append,
      List.length_replicate]
    have zero : digitsValue ['0'] = 0 := rfl
    have places : (0 : Int) - ((-leading - 1).toNat + digits.length : ℕ) =
        leading + 1 - digits.length := by omega
    rw [zero, places, Nat.zero_mul, Nat.zero_mul, Nat.zero_add, Nat.zero_add]
  · rename_i notBelow
    dsimp only
    split
    · rename_i short
      -- Zeros fill the places up to the point, and one stands behind it.
      have read : Scaled.ofChars?
          (digits ++ List.replicate (leading.toNat + 1 - digits.length) '0' ++ '.' :: ['0']) =
            some (.ofDigits (digits ++ List.replicate (leading.toNat + 1 - digits.length) '0') ['0'] 0) :=
        ofChars?_positional (List.forall_mem_append.mpr ⟨areDigits, asciiDigit_of_mem_zeros⟩)
          (by simp [someDigit]) (by simp [isAsciiDigit])
      refine ⟨_, read, ?_⟩
      rw [value_ofDigits, digitsValue_append, digitsValue_append, digitsValue_zeros,
        List.length_replicate]
      have zero : digitsValue ['0'] = 0 := rfl
      have places : leading + 1 - digits.length = (leading.toNat + 1 - digits.length : ℕ) := by omega
      have last : (0 : Int) - (['0'].length : ℕ) = -1 := rfl
      rw [zero, places, last, zpow_natCast, zpow_neg_one]
      simp only [List.length_singleton, Nat.add_zero, pow_one]
      push_cast
      rw [mul_assoc, mul_inv_cancel₀ (by norm_num), mul_one]
    · rename_i long
      have read : Scaled.ofChars?
          (digits.take (leading.toNat + 1) ++ '.' :: digits.drop (leading.toNat + 1)) =
            some (.ofDigits (digits.take (leading.toNat + 1)) (digits.drop (leading.toNat + 1)) 0) :=
        ofChars?_positional (fun c member => areDigits c (List.mem_of_mem_take member))
          (by simp [someDigit]) fun c member => areDigits c (List.mem_of_mem_drop member)
      refine ⟨_, read, ?_⟩
      have places : (0 : Int) - (digits.length - (leading.toNat + 1) : ℕ) =
          leading + 1 - digits.length := by omega
      rw [value_ofDigits, List.take_append_drop, List.length_drop, places]

theorem scientific_read (leading : Int) :
    ∃ r, Scaled.ofChars? (scientific digits leading) = some r ∧
      r.value = digitsValue digits * 10 ^ (leading + 1 - digits.length) := by
  match digits, areDigits, someDigit with
  | [], _, someDigit => exact absurd rfl someDigit
  | [only], areDigits, someDigit =>
    refine ⟨_, ofChars?_power areDigits someDigit leading, ?_⟩
    rw [value_ofDigits, List.append_nil]
    have places : leading - ([] : List Char).length = leading + 1 - [only].length := by
      simp only [List.length_nil, List.length_singleton]
      omega
    rw [places]
  | first :: second :: rest, areDigits, _ =>
    obtain ⟨isDigit, others⟩ := List.forall_mem_cons.mp areDigits
    have read : Scaled.ofChars? ([first] ++ '.' :: (second :: rest ++ 'e' :: exponentChars leading)) =
        some (.ofDigits [first] (second :: rest) leading) :=
      ofChars?_scientific (by simpa using isDigit) (by simp) others leading
    refine ⟨_, read, ?_⟩
    rw [value_ofDigits]
    have places : leading - (second :: rest).length =
        leading + 1 - (first :: second :: rest).length := by
      simp only [List.length_cons]
      omega
    rw [places]
    rfl

omit areDigits someDigit

theorem layOut_read (d : Scaled) :
    ∃ r, Scaled.ofChars? (layOut d) = some r ∧ r.value = d.value := by
  have worth : (digitsValue (digitChars d.digits) : ℚ) *
      10 ^ (d.exponent + (digitChars d.digits).length - 1 + 1 - (digitChars d.digits).length) =
        d.value := by
    have place : d.exponent + (digitChars d.digits).length - 1 + 1 - (digitChars d.digits).length =
        d.exponent := by omega
    rw [digitsValue_digitChars, place]
    rfl
  rw [← worth]
  unfold layOut
  dsimp only
  split
  · exact positional_read asciiDigit_of_mem_digitChars (digitChars_ne_nil _) _
  · exact scientific_read asciiDigit_of_mem_digitChars (digitChars_ne_nil _) _

end SpatialQuery.Decimal
