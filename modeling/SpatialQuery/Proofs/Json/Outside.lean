import SpatialQuery.Proofs.Json.Unambiguous

/-!
# What stands outside of strings

Lenient texts write a number that is not finite as a word.  Such a word can also stand in a string, where
it means nothing.  With its strings left out, a text of JSON has not even the letters that these words start
with.
-/

set_option autoImplicit false

namespace SpatialQuery.Json

/-- The marks outside of strings; the flag says that the first mark stands inside of one. -/
def outside : Bool → List Mark → List Mark
  | _, [] => []
  | false, .char '"' :: rest => outside true rest
  | false, m :: rest => m :: outside false rest
  | true, .char '"' :: rest => outside false rest
  | true, .char '\\' :: _ :: rest => outside true rest
  | true, _ :: rest => outside true rest

/-- No number that is not finite is written outside of strings. -/
def NamesNoSpecial (t : Text) : Prop :=
  ¬ wordMarks "NaN" <:+: outside false t.marks ∧ ¬ wordMarks "Infinity" <:+: outside false t.marks

/-- No mark that ends a string or starts one of the words. -/
def IsSober (m : Mark) : Prop := m ≠ .char '"' ∧ m ≠ .char 'N' ∧ m ≠ .char 'I'

instance (m : Mark) : Decidable (IsSober m) := inferInstanceAs (Decidable (_ ∧ _ ∧ _))

/-- The marks end no string that they do not begin, and what stands outside of strings is sober. -/
def AreClosed (marks : List Mark) : Prop :=
  ∃ shown, (∀ m ∈ shown, IsSober m) ∧ ∀ rest, outside false (marks ++ rest) = shown ++ outside false rest

theorem outside_cons {m : Mark} (notQuote : m ≠ .char '"') (rest : List Mark) :
    outside false (m :: rest) = m :: outside false rest := by
  rw [outside]
  exact notQuote

theorem inside_cons {m : Mark} (notQuote : m ≠ .char '"') (notBackslash : m ≠ .char '\\')
    (rest : List Mark) : outside true (m :: rest) = outside true rest := by
  rw [outside]
  · exact notQuote
  · rintro _ _ rfl
    exact absurd rfl notBackslash

theorem areClosed_of_sober {marks : List Mark} (sober : ∀ m ∈ marks, IsSober m) : AreClosed marks := by
  refine ⟨marks, sober, fun rest => ?_⟩
  induction marks with
  | nil => rfl
  | cons m marks ih =>
    obtain ⟨first, others⟩ := List.forall_mem_cons.mp sober
    rw [List.cons_append, List.cons_append, outside_cons first.1, ih others]

theorem AreClosed.append {before after : List Mark} (first : AreClosed before) (second : AreClosed after) :
    AreClosed (before ++ after) := by
  obtain ⟨shown, sober, left⟩ := first
  obtain ⟨shown', sober', left'⟩ := second
  refine ⟨shown ++ shown', List.forall_mem_append.mpr ⟨sober, sober'⟩, fun rest => ?_⟩
  rw [List.append_assoc, left, left', List.append_assoc]

theorem AreClosed.cons {m : Mark} {marks : List Mark} (first : IsSober m) (others : AreClosed marks) :
    AreClosed (m :: marks) :=
  (areClosed_of_sober (List.forall_mem_singleton.mpr first)).append others

/-! ## Strings -/

theorem plain_of_hex {m : Mark} {n : Nat} (digit : m.char?.bind Text.hexValue? = some n) :
    m ≠ .char '"' ∧ m ≠ .char '\\' := by
  constructor <;> rintro rfl <;> cases digit

theorem plain_of_hexUnit {a b c d : Mark} {u : UInt16} (digits : hexUnit? a b c d = some u) :
    ∀ m ∈ [a, b, c, d], m ≠ .char '"' ∧ m ≠ .char '\\' := by
  obtain ⟨_, first, more⟩ := Option.bind_eq_some_iff.mp digits
  obtain ⟨_, second, more⟩ := Option.bind_eq_some_iff.mp more
  obtain ⟨_, third, more⟩ := Option.bind_eq_some_iff.mp more
  obtain ⟨_, fourth, _⟩ := Option.bind_eq_some_iff.mp more
  simp only [List.forall_mem_cons, List.not_mem_nil, false_imp_iff, implies_true, and_true]
  exact ⟨plain_of_hex first, plain_of_hex second, plain_of_hex third, plain_of_hex fourth⟩

theorem inside_plain {marks : List Mark} (plain : ∀ m ∈ marks, m ≠ .char '"' ∧ m ≠ .char '\\')
    (rest : List Mark) : outside true (marks ++ rest) = outside true rest := by
  induction marks with
  | nil => rfl
  | cons m marks ih =>
    obtain ⟨first, others⟩ := List.forall_mem_cons.mp plain
    rw [List.cons_append, inside_cons first.1 first.2, ih others]

theorem inside_characters {marks : List Mark} {pieces : List Text.Piece}
    (characters : Characters marks pieces) (rest : List Mark) :
    outside true (marks ++ .char '"' :: rest) = outside false rest := by
  induction characters with
  | nil => rfl
  | plain printable notQuote notBackslash _ ih =>
    rw [List.cons_append, inside_cons notQuote notBackslash, ih]
  | letter escape _ ih => exact ih
  -- The scanner takes the four digits for characters of the string, of which none ends it.
  | unit digits _ ih => exact (inside_plain (plain_of_hexUnit digits) _).trans ih

theorem areClosed_quotation {marks : List Mark} {t : Text} (quotation : Quotation marks t) :
    AreClosed marks := by
  obtain ⟨characters⟩ := quotation
  refine ⟨[], nofun, fun rest => ?_⟩
  rw [List.append_assoc, List.cons_append]
  exact inside_characters characters rest

/-! ## Values -/

theorem ne_of_blank {marks : List Mark} (isBlank : IsBlank marks) {m : Mark} (member : m ∈ marks)
    {c : Char} (notSpace : isSpace (.char c) = false) : m ≠ .char c := by
  rintro rfl
  rw [isBlank _ member] at notSpace
  cases notSpace

theorem ne_of_numeral {n : Numeral} (proper : n.IsProper) {m : Mark}
    (member : m ∈ n.chars.map Mark.char) {c : Char} (notNumber : isNumberMark (.char c) = false) :
    m ≠ .char c := by
  rintro rfl
  rw [Numeral.isNumberMark_of_mem_chars proper _ member] at notNumber
  cases notNumber

theorem areClosed_blank {marks : List Mark} (isBlank : IsBlank marks) : AreClosed marks :=
  areClosed_of_sober fun _ member =>
    ⟨ne_of_blank isBlank member rfl, ne_of_blank isBlank member rfl, ne_of_blank isBlank member rfl⟩

theorem areClosed_numeral {n : Numeral} (proper : n.IsProper) : AreClosed (n.chars.map Mark.char) :=
  areClosed_of_sober fun _ member => ⟨ne_of_numeral proper member rfl,
    ne_of_numeral proper member rfl, ne_of_numeral proper member rfl⟩

theorem Spells.areClosed {part : Part} {marks : List Mark} (spells : Spells part marks) :
    AreClosed marks := by
  induction spells with
  | null | yes | no => exact areClosed_of_sober (by decide)
  | number proper => exact areClosed_numeral proper
  | string quotation => exact areClosed_quotation quotation
  | emptyArray isBlank | emptyObject isBlank =>
    exact .cons (by decide) ((areClosed_blank isBlank).append (areClosed_of_sober (by decide)))
  | array _ inner | object _ inner =>
    exact .cons (by decide) (inner.append (areClosed_of_sober (by decide)))
  | element isBlankBefore _ isBlankAfter inner =>
    exact (areClosed_blank isBlankBefore).append (inner.append (areClosed_blank isBlankAfter))
  | lastItem _ item => exact item
  | nextItem _ _ item others => exact item.append (.cons (by decide) others)
  | member isBlankBefore quotation isBlankAfter _ inner =>
    exact (areClosed_blank isBlankBefore).append ((areClosed_quotation quotation).append
      ((areClosed_blank isBlankAfter).append (.cons (by decide) inner)))
  | lastMember _ member => exact member
  | nextMember _ _ member others => exact member.append (.cons (by decide) others)

theorem AreClosed.namesNoSpecial {t : Text} (closed : AreClosed t.marks) : NamesNoSpecial t := by
  obtain ⟨shown, sober, left⟩ := closed
  have all : outside false t.marks = shown := by
    have read := left []
    rwa [List.append_nil, outside, List.append_nil] at read
  rw [NamesNoSpecial, all]
  constructor
  · intro named
    exact (sober _ (named.subset List.mem_cons_self)).2.1 rfl
  · intro named
    exact (sober _ (named.subset List.mem_cons_self)).2.2 rfl

theorem Denotes.namesNoSpecial {t : Text} {j : Json} (denotes : Denotes t j) : NamesNoSpecial t :=
  (Spells.areClosed denotes).namesNoSpecial

end SpatialQuery.Json
