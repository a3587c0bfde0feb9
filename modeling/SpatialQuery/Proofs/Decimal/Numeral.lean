import SpatialQuery.Number

/-!
# The characters of numerals

A number is written with digits, a point, signs and the letters of an exponent, of `nan` and of `inf`.
-/

set_option autoImplicit false

namespace SpatialQuery.Decimal

def isNumeral (c : Char) : Bool := c.isDigit || ['+', '-', '.', 'e', 'i', 'n', 'a', 'f'].contains c

theorem isNumeral_of_isDigit {c : Char} (digit : c.isDigit = true) : isNumeral c = true := by
  simp [isNumeral, digit]

theorem isDigit_of_mem_digitChars {n : Nat} {c : Char} (member : c ∈ digitChars n) :
    c.isDigit = true :=
  Nat.isDigit_of_mem_toDigits (by decide) (by decide) member

theorem digitChars_ne_nil (n : Nat) : digitChars n ≠ [] := Nat.toDigits_ne_nil

theorem isNumeral_of_mem_digitChars {n : Nat} {c : Char} (member : c ∈ digitChars n) :
    isNumeral c = true :=
  isNumeral_of_isDigit (isDigit_of_mem_digitChars member)

theorem isNumeral_of_mem_positional {digits : List Char} {leading : Int}
    (numeral : ∀ c ∈ digits, isNumeral c = true) :
    ∀ c ∈ positional digits leading, isNumeral c = true := by
  intro c member
  unfold positional at member
  split at member
  · simp only [List.cons_append, List.mem_cons, List.mem_append, List.mem_replicate] at member
    rcases member with rfl | rfl | ⟨_, rfl⟩ | member
    · decide
    · decide
    · decide
    · exact numeral c member
  · dsimp only at member
    split at member
    · simp only [List.mem_append, List.mem_replicate, List.mem_cons, List.not_mem_nil,
        or_false] at member
      rcases member with (member | ⟨_, rfl⟩) | rfl | rfl
      · exact numeral c member
      · decide
      · decide
      · decide
    · simp only [List.mem_append, List.mem_cons] at member
      rcases member with member | rfl | member
      · exact numeral c (List.mem_of_mem_take member)
      · decide
      · exact numeral c (List.mem_of_mem_drop member)

theorem isNumeral_of_mem_exponentChars {e : Int} : ∀ c ∈ exponentChars e, isNumeral c = true := by
  intro c member
  simp only [exponentChars, List.mem_cons] at member
  rcases member with rfl | member
  · split <;> decide
  · split at member
    · rcases List.mem_cons.mp member with rfl | member
      · decide
      · exact isNumeral_of_mem_digitChars member
    · exact isNumeral_of_mem_digitChars member

theorem isNumeral_of_mem_scientific {digits : List Char} {leading : Int}
    (numeral : ∀ c ∈ digits, isNumeral c = true) :
    ∀ c ∈ scientific digits leading, isNumeral c = true := by
  intro c member
  simp only [scientific, List.mem_append, List.mem_cons] at member
  rcases member with member | rfl | member
  · split at member
    · simp only [List.mem_cons] at member numeral
      rcases member with rfl | rfl | rfl | member
      · exact numeral c (Or.inl rfl)
      · decide
      · exact numeral c (Or.inr (Or.inl rfl))
      · exact numeral c (Or.inr (Or.inr member))
    · exact numeral c member
  · decide
  · exact isNumeral_of_mem_exponentChars c member

theorem isNumeral_of_mem_layOut (d : Scaled) : ∀ c ∈ layOut d, isNumeral c = true := by
  unfold layOut
  dsimp only
  split
  · exact isNumeral_of_mem_positional fun c member => isNumeral_of_mem_digitChars member
  · exact isNumeral_of_mem_scientific fun c member => isNumeral_of_mem_digitChars member

theorem isNumeral_of_mem_chars (x : Float) : ∀ c ∈ plainLayout.chars x, isNumeral c = true := by
  have named : (plainLayout.notANumber.toList ++ plainLayout.infinity.toList).all isNumeral = true := by
    decide
  rw [List.all_eq_true] at named
  have sized : ∀ c ∈ if x.isInf then plainLayout.infinity.toList
      else if (Binary.ofFloat x).significand = 0 then ['0', '.', '0']
      else layOut (Binary.ofFloat x).shortest, isNumeral c = true := by
    split
    · exact fun c member => named c (List.mem_append_right _ member)
    · split
      · exact List.all_eq_true.mp rfl
      · exact isNumeral_of_mem_layOut _
  unfold Layout.chars
  split
  · exact fun c member => named c (List.mem_append_left _ member)
  · dsimp only
    split
    · intro c member
      rcases List.mem_cons.mp member with rfl | member
      · decide
      · exact sized c member
    · exact sized

end SpatialQuery.Decimal

namespace SpatialQuery.Number

theorem isNumeral_of_mem_intChars (n : Int) :
    ∀ c ∈ intChars n, Decimal.isNumeral c = true := by
  intro c member
  unfold intChars at member
  split at member
  · rcases List.mem_cons.mp member with rfl | member
    · decide
    · exact Decimal.isNumeral_of_mem_digitChars member
  · exact Decimal.isNumeral_of_mem_digitChars member

theorem intChars_ne_nil (n : Int) : intChars n ≠ [] := by
  unfold intChars
  split
  · exact List.cons_ne_nil _ _
  · exact Decimal.digitChars_ne_nil _

end SpatialQuery.Number
