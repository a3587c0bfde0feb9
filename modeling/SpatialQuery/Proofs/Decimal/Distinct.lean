import SpatialQuery.Proofs.Decimal.ReadBack
import SpatialQuery.Proofs.Decimal.Shortest

/-!
# Different numbers are written differently

Two doubles with one text are one double: the sign is written, the shortest digits are worth a rational
that rounds to no other double, and the texts of the values without digits are read as no decimal.
Integers have neither a point nor a letter, so no double is written as an integer is.
-/

set_option autoImplicit false

namespace SpatialQuery.Decimal

theorem Binary.Canonical.eq_of_zero {x y : Binary} (canonicalX : x.Canonical)
    (canonicalY : y.Canonical) (zeroX : x.significand = 0) (zeroY : y.significand = 0) : x = y := by
  have least : ∀ {z : Binary}, z.Canonical → z.significand = 0 → z = ⟨0, -1074, false⟩ := by
    rintro ⟨significand, exponent, narrow⟩ canonical rfl
    have lowest := canonical.least
    have full := canonical.full
    have exact := canonical.narrow
    dsimp only at lowest full exact
    have exponentLeast : exponent = -1074 := by omega
    have wide : narrow = false := by
      cases narrow with
      | false => rfl
      | true => exact absurd (exact.mp rfl).1 (by decide)
    rw [exponentLeast, wide]
  rw [least canonicalX zeroX, least canonicalY zeroY]

theorem ofChars?_minus (rest : List Char) : Scaled.ofChars? ('-' :: rest) = none := by
  simp [Scaled.ofChars?, isAsciiDigit, exponentPart]

/-- The texts of the values without digits tell these from each other and from every numeral. -/
structure Layout.IsTelling (layout : Layout) : Prop where
  notANumber : Scaled.ofChars? layout.notANumber.toList = none
  infinity : Scaled.ofChars? layout.infinity.toList = none
  apart : layout.notANumber.toList ≠ layout.infinity.toList
  unsigned : ∀ rest, layout.notANumber.toList ≠ '-' :: rest ∧ layout.infinity.toList ≠ '-' :: rest
  lettered : (∃ c ∈ layout.notANumber.toList, c.isDigit = false ∧ c ≠ '-') ∧
    ∃ c ∈ layout.infinity.toList, c.isDigit = false ∧ c ≠ '-'

theorem plainLayout_isTelling : plainLayout.IsTelling where
  notANumber := by decide
  infinity := by decide
  apart := by decide
  unsigned := fun rest => ⟨by simp [plainLayout], by simp [plainLayout]⟩
  lettered := ⟨⟨'n', by decide⟩, 'i', by decide⟩

theorem jsonLayout_isTelling : jsonLayout.IsTelling where
  notANumber := by decide
  infinity := by decide
  apart := by decide
  unsigned := fun rest => ⟨by simp [jsonLayout], by simp [jsonLayout]⟩
  lettered := ⟨⟨'N', by decide⟩, 'I', by decide⟩

namespace Layout

variable (layout : Layout)

def body (x : Float) : List Char :=
  if x.isInf then layout.infinity.toList
  else if (Binary.ofFloat x).significand = 0 then ['0', '.', '0']
  else layOut (Binary.ofFloat x).shortest

theorem chars_eq (x : Float) : layout.chars x =
    if x.isNaN then layout.notANumber.toList
    else if isNegative x then '-' :: layout.body x else layout.body x := rfl

/-- What stands for a finite double is worth a rational that rounds to it. -/
theorem body_read {x : Float} (finite : x.isInf = false) :
    ∃ r, Scaled.ofChars? (layout.body x) = some r ∧
      ((Binary.ofFloat x).significand = 0 → r.value = 0) ∧
      (0 < (Binary.ofFloat x).significand → r.value = (Binary.ofFloat x).shortest.value) := by
  unfold body
  rw [finite]
  simp only [Bool.false_eq_true, if_false]
  split
  · rename_i zero
    exact ⟨⟨0, -1⟩, rfl, fun _ => by simp [Scaled.value], fun positive => by omega⟩
  · rename_i nonzero
    obtain ⟨r, read, worth⟩ := layOut_read (Binary.ofFloat x).shortest
    exact ⟨r, read, fun zero => absurd zero nonzero, fun _ => worth⟩

variable {layout}

theorem ofFloat_eq_of_body {x y : Float} (finiteX : x.isInf = false) (finiteY : y.isInf = false)
    (same : layout.body x = layout.body y) : Binary.ofFloat x = Binary.ofFloat y := by
  have canonicalX := ofFloat_canonical x
  have canonicalY := ofFloat_canonical y
  obtain ⟨r, readX, zeroX, positiveX⟩ := layout.body_read finiteX
  obtain ⟨_, readY, zeroY, positiveY⟩ := layout.body_read finiteY
  rw [same, readY] at readX
  cases readX
  rcases Nat.eq_zero_or_pos (Binary.ofFloat x).significand with nullX | someX <;>
    rcases Nat.eq_zero_or_pos (Binary.ofFloat y).significand with nullY | someY
  · exact canonicalX.eq_of_zero canonicalY nullX nullY
  · have positive := Binary.shortest_pos someY
    rw [← positiveY someY, zeroX nullX] at positive
    exact absurd positive (lt_irrefl _)
  · have positive := Binary.shortest_pos someX
    rw [← positiveX someX, zeroY nullY] at positive
    exact absurd positive (lt_irrefl _)
  · exact Binary.eq_of_shortest canonicalX canonicalY someX someY
      ((positiveX someX).symm.trans (positiveY someY))

section

variable (telling : layout.IsTelling)

include telling

theorem eq_of_body {x y : Float} (sign : isNegative x = isNegative y)
    (same : layout.body x = layout.body y) : x = y := by
  have infinite : ∀ {z : Float}, z.isInf = true → Scaled.ofChars? (layout.body z) = none := by
    intro z isInf
    rw [body, if_pos isInf]
    exact telling.infinity
  cases infX : x.isInf <;> cases infY : y.isInf
  · exact eq_of_ofFloat sign (ofFloat_eq_of_body infX infY same)
  · obtain ⟨r, read, _⟩ := layout.body_read infX
    rw [same, infinite infY] at read
    cases read
  · obtain ⟨r, read, _⟩ := layout.body_read infY
    rw [← same, infinite infX] at read
    cases read
  · exact eq_of_isInf infX infY sign

theorem body_unsigned (x : Float) (rest : List Char) : layout.body x ≠ '-' :: rest := by
  intro signed
  cases inf : x.isInf with
  | true =>
    rw [body, if_pos inf] at signed
    exact (telling.unsigned rest).2 signed
  | false =>
    obtain ⟨r, read, _⟩ := layout.body_read inf
    rw [signed, ofChars?_minus] at read
    cases read

theorem body_isNumber (x : Float) : layout.body x ≠ layout.notANumber.toList := by
  intro same
  cases inf : x.isInf with
  | true =>
    rw [body, if_pos inf] at same
    exact telling.apart same.symm
  | false =>
    obtain ⟨r, read, _⟩ := layout.body_read inf
    rw [same, telling.notANumber] at read
    cases read

theorem chars_injective {x y : Float} (same : layout.chars x = layout.chars y) : x = y := by
  rw [chars_eq, chars_eq] at same
  have unnamed : ∀ {z : Float}, layout.notANumber.toList =
      (if isNegative z then '-' :: layout.body z else layout.body z) → False := by
    intro z named
    split at named
    · exact (telling.unsigned _).1 named
    · exact body_isNumber telling z named.symm
  cases notX : x.isNaN <;> cases notY : y.isNaN <;>
    simp only [notX, notY, Bool.false_eq_true, if_true, if_false] at same
  · cases negativeX : isNegative x <;> cases negativeY : isNegative y <;>
      simp only [negativeX, negativeY, Bool.false_eq_true, if_true, if_false] at same
    · exact eq_of_body telling (negativeX.trans negativeY.symm) same
    · exact absurd same (body_unsigned telling x _)
    · exact absurd same.symm (body_unsigned telling y _)
    · exact eq_of_body telling (negativeX.trans negativeY.symm) (List.cons.inj same).2
  · exact (unnamed same.symm).elim
  · exact (unnamed same).elim
  · exact eq_of_isNaN notX notY

omit telling

theorem exists_mark_positional (digits : List Char) (leading : Int) : '.' ∈ positional digits leading := by
  unfold positional
  split
  · simp
  · dsimp only
    split <;> simp

theorem exists_mark_layOut (d : Scaled) : ∃ c ∈ layOut d, c.isDigit = false ∧ c ≠ '-' := by
  unfold layOut
  dsimp only
  split
  · exact ⟨'.', exists_mark_positional _ _, by decide⟩
  · exact ⟨'e', by simp [scientific], by decide⟩

include telling

theorem exists_mark (x : Float) : ∃ c ∈ layout.chars x, c.isDigit = false ∧ c ≠ '-' := by
  have marked : ∃ c ∈ layout.body x, c.isDigit = false ∧ c ≠ '-' := by
    unfold body
    split
    · exact telling.lettered.2
    · split
      · exact ⟨'.', by decide⟩
      · exact exists_mark_layOut _
  rw [chars_eq]
  split
  · exact telling.lettered.1
  · obtain ⟨c, member, mark⟩ := marked
    split
    · exact ⟨c, List.mem_cons_of_mem _ member, mark⟩
    · exact ⟨c, member, mark⟩

end

end Layout

theorem digitChars_injective {m n : ℕ} (same : digitChars m = digitChars n) : m = n := by
  rw [← digitsValue_digitChars m, same, digitsValue_digitChars]

theorem digitChars_unsigned (n : ℕ) (rest : List Char) : digitChars n ≠ '-' :: rest := by
  intro signed
  have digit : '-'.isDigit = true := isDigit_of_mem_digitChars (n := n) (by simp [signed])
  exact absurd digit (by decide)

end SpatialQuery.Decimal

namespace SpatialQuery.Number

theorem intChars_injective {m n : ℤ} (same : intChars m = intChars n) : m = n := by
  unfold intChars at same
  split at same <;> split at same
  · have size := Decimal.digitChars_injective (List.cons.inj same).2
    omega
  · exact absurd same.symm (Decimal.digitChars_unsigned _ _)
  · exact absurd same (Decimal.digitChars_unsigned _ _)
  · have size := Decimal.digitChars_injective same
    omega

theorem isDigit_of_mem_intChars {n : ℤ} {c : Char} (member : c ∈ intChars n) :
    c.isDigit = true ∨ c = '-' := by
  unfold intChars at member
  split at member
  · rcases List.mem_cons.mp member with rfl | member
    · exact Or.inr rfl
    · exact Or.inl (Decimal.isDigit_of_mem_digitChars member)
  · exact Or.inl (Decimal.isDigit_of_mem_digitChars member)

theorem intChars_ne_chars {layout : Decimal.Layout} (telling : layout.IsTelling) (n : ℤ) (x : Float) :
    intChars n ≠ layout.chars x := by
  intro same
  obtain ⟨c, member, notDigit, notSign⟩ := Decimal.Layout.exists_mark telling x
  rw [← same] at member
  rcases isDigit_of_mem_intChars member with digit | sign
  · rw [digit] at notDigit
    cases notDigit
  · exact notSign sign

theorem chars_injective {layout : Decimal.Layout} (telling : layout.IsTelling) {a b : Number}
    (same : a.chars layout = b.chars layout) : a = b := by
  cases a with
  | int m =>
    cases b with
    | int n => exact congrArg int (intChars_injective same)
    | real y => exact absurd same (intChars_ne_chars telling m y)
  | real x =>
    cases b with
    | int n => exact absurd same.symm (intChars_ne_chars telling n x)
    | real y => exact congrArg real (Decimal.Layout.chars_injective telling same)

end SpatialQuery.Number
