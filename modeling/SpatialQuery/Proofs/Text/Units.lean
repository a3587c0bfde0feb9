import SpatialQuery.Text.Unit

/-!
# Texts and their units

A text of which no two neighbours are the halves of a pair is known from its units.  Without this, the
two halves of a character have the units of the character itself.
-/

set_option autoImplicit false

namespace SpatialQuery

namespace Mark

def isLeadingHalf (m : Mark) : Bool := 0xD800 ≤ m.code && m.code < 0xDC00

def isTrailingHalf (m : Mark) : Bool := 0xDC00 ≤ m.code && m.code < 0xE000

theorem code_lt (m : Mark) : m.code < 0x110000 := by
  cases m with
  | char c =>
    have valid : c.toNat.isValidChar := c.valid
    unfold Nat.isValidChar at valid
    simp only [code]
    omega
  | surrogate offset =>
    have bound := offset.isLt
    simp only [code]
    omega

theorem code_injective {a b : Mark} (same : a.code = b.code) : a = b := by
  have notSurrogate : ∀ (c : Char) (offset : Fin 0x800), c.toNat ≠ 0xD800 + offset.val := by
    intro c offset equal
    have bound := offset.isLt
    have valid : c.toNat.isValidChar := c.valid
    unfold Nat.isValidChar at valid
    omega
  cases a with
  | char c =>
    cases b with
    | char d => exact congrArg char (Char.toNat_inj.mp same)
    | surrogate offset => exact absurd same (notSurrogate c offset)
  | surrogate offset =>
    cases b with
    | char d => exact absurd same.symm (notSurrogate d offset)
    | surrogate other =>
      simp only [code] at same
      exact congrArg surrogate (Fin.ext (by omega))

end Mark

namespace Text

def marksAreWhole : List Mark → Bool
  | a :: b :: rest => !(a.isLeadingHalf && b.isTrailingHalf) && marksAreWhole (b :: rest)
  | _ => true

/-- No two neighbours are the halves of a pair. -/
def IsWhole (t : Text) : Prop := marksAreWhole t.marks = true

instance (t : Text) : Decidable t.IsWhole := inferInstanceAs (Decidable (_ = true))

theorem marksAreWhole_tail {m : Mark} {rest : List Mark} (whole : marksAreWhole (m :: rest) = true) :
    marksAreWhole rest = true := by
  cases rest with
  | nil => rfl
  | cons b rest =>
    rw [marksAreWhole, Bool.and_eq_true] at whole
    exact whole.2

theorem toNat_toUInt16 {n : Nat} (small : n < 0x10000) : n.toUInt16.toNat = n :=
  Nat.mod_eq_of_lt small

theorem units_basic {m : Mark} (basic : m.code < 0x10000) :
    (units m).map UInt16.toNat = [m.code] := by
  simp only [units, if_pos basic, List.map_cons, List.map_nil, toNat_toUInt16 basic]

theorem units_beyond {m : Mark} (beyond : 0x10000 ≤ m.code) : (units m).map UInt16.toNat =
    [0xD800 + (m.code - 0x10000) / 0x400, 0xDC00 + (m.code - 0x10000) % 0x400] := by
  have bound := m.code_lt
  have leading : 0xD800 + (m.code - 0x10000) / 0x400 < 0x10000 := by omega
  have trailing : 0xDC00 + (m.code - 0x10000) % 0x400 < 0x10000 := by omega
  simp only [units, if_neg (Nat.not_lt.mpr beyond), List.map_cons, List.map_nil,
    toNat_toUInt16 leading, toNat_toUInt16 trailing]

def unitCodes (marks : List Mark) : List Nat := (marks.flatMap units).map UInt16.toNat

theorem unitCodes_cons (m : Mark) (rest : List Mark) :
    unitCodes (m :: rest) = (units m).map UInt16.toNat ++ unitCodes rest := by
  simp [unitCodes]

theorem units_apart {a b : Mark} {as bs : List Mark} (basic : a.code < 0x10000)
    (beyond : 0x10000 ≤ b.code) (whole : marksAreWhole (a :: as) = true) :
    unitCodes (a :: as) ≠ unitCodes (b :: bs) := by
  intro same
  have bound := b.code_lt
  rw [unitCodes_cons, unitCodes_cons, units_basic basic, units_beyond beyond] at same
  obtain ⟨first, others⟩ := List.cons.inj same
  have leading : a.isLeadingHalf = true := by
    simp only [Mark.isLeadingHalf, Bool.and_eq_true, decide_eq_true_eq]
    omega
  cases as with
  | nil => cases others
  | cons next rest =>
    have trailing : next.isTrailingHalf = true := by
      simp only [Mark.isTrailingHalf, Bool.and_eq_true, decide_eq_true_eq]
      change unitCodes (next :: rest) = _ :: unitCodes bs at others
      rw [unitCodes_cons] at others
      rcases Nat.lt_or_ge next.code 0x10000 with nextBasic | nextBeyond
      · rw [units_basic nextBasic] at others
        have second := (List.cons.inj others).1
        omega
      · rw [units_beyond nextBeyond] at others
        have second := (List.cons.inj others).1
        have nextBound := next.code_lt
        omega
    rw [marksAreWhole, leading, trailing] at whole
    cases whole

theorem marks_eq_of_unitCodes {as bs : List Mark} (wholeA : marksAreWhole as = true)
    (wholeB : marksAreWhole bs = true) (same : unitCodes as = unitCodes bs) : as = bs := by
  have nonEmpty : ∀ (m : Mark) (rest : List Mark), unitCodes (m :: rest) ≠ [] := by
    intro m rest empty
    rw [unitCodes_cons] at empty
    rcases Nat.lt_or_ge m.code 0x10000 with basic | beyond
    · rw [units_basic basic] at empty
      cases empty
    · rw [units_beyond beyond] at empty
      cases empty
  induction as generalizing bs with
  | nil =>
    cases bs with
    | nil => rfl
    | cons b rest => exact absurd same.symm (nonEmpty b rest)
  | cons a as ih =>
    cases bs with
    | nil => exact absurd same (nonEmpty a as)
    | cons b bs =>
      have tails := ih (marksAreWhole_tail wholeA) (marksAreWhole_tail wholeB)
      rcases Nat.lt_or_ge a.code 0x10000 with basicA | beyondA <;>
        rcases Nat.lt_or_ge b.code 0x10000 with basicB | beyondB
      · rw [unitCodes_cons, unitCodes_cons, units_basic basicA, units_basic basicB] at same
        obtain ⟨first, others⟩ := List.cons.inj same
        rw [Mark.code_injective first, tails others]
      · exact absurd same (units_apart basicA beyondB wholeA)
      · exact absurd same.symm (units_apart basicB beyondA wholeB)
      · rw [unitCodes_cons, unitCodes_cons, units_beyond beyondA, units_beyond beyondB] at same
        obtain ⟨first, afterFirst⟩ := List.cons.inj same
        obtain ⟨second, others⟩ := List.cons.inj afterFirst
        have codes : a.code = b.code := by omega
        rw [Mark.code_injective codes, tails others]

/-- A whole text is known from its units. -/
theorem eq_of_units {s t : Text} (wholeS : s.IsWhole) (wholeT : t.IsWhole)
    (same : s.marks.flatMap units = t.marks.flatMap units) : s = t := by
  obtain ⟨marks⟩ := s
  obtain ⟨others⟩ := t
  have codes : unitCodes marks = unitCodes others := congrArg (List.map UInt16.toNat) same
  exact congrArg Text.mk (marks_eq_of_unitCodes wholeS wholeT codes)

theorem not_leading_of_char (c : Char) : (Mark.char c).isLeadingHalf = false := by
  have valid : c.toNat.isValidChar := c.valid
  unfold Nat.isValidChar at valid
  refine Bool.eq_false_iff.mpr fun leading => ?_
  simp only [Mark.isLeadingHalf, Bool.and_eq_true, decide_eq_true_eq] at leading
  simp only [Mark.code] at leading
  omega

theorem marksAreWhole_cons_char (c : Char) {marks : List Mark} (whole : marksAreWhole marks = true) :
    marksAreWhole (.char c :: marks) = true := by
  cases marks with
  | nil => rfl
  | cons b rest =>
    rw [marksAreWhole, not_leading_of_char, whole]
    rfl

theorem marksAreWhole_of_characters {marks : List Mark} (characters : ∀ m ∈ marks, ∃ c, m = .char c) :
    marksAreWhole marks = true := by
  induction marks with
  | nil => rfl
  | cons a rest ih =>
    obtain ⟨⟨c, rfl⟩, others⟩ := List.forall_mem_cons.mp characters
    exact marksAreWhole_cons_char c (ih others)

theorem marks_of_mapM {marks : List Mark} {cs : List Char} (read : marks.mapM Mark.char? = some cs) :
    marks = cs.map .char := by
  induction marks generalizing cs with
  | nil =>
    cases read
    rfl
  | cons m rest ih =>
    rw [List.mapM_cons] at read
    obtain ⟨c, first, readRest⟩ := Option.bind_eq_some_iff.mp read
    obtain ⟨others, later, same⟩ := Option.bind_eq_some_iff.mp readRest
    cases same
    cases m with
    | char d =>
      cases first
      rw [ih later, List.map_cons]
    | surrogate offset => cases first

theorem characters_of_ordinary {t : Text} (ordinary : t.toString?.isSome = true) :
    ∀ m ∈ t.marks, ∃ c, m = .char c := by
  intro m member
  obtain ⟨s, read⟩ := Option.isSome_iff_exists.mp ordinary
  obtain ⟨cs, characters, _⟩ := Option.map_eq_some_iff.mp read
  rw [marks_of_mapM characters] at member
  obtain ⟨c, _, rfl⟩ := List.mem_map.mp member
  exact ⟨c, rfl⟩

theorem isWhole_of_ordinary {t : Text} (ordinary : t.toString?.isSome = true) : t.IsWhole :=
  marksAreWhole_of_characters (characters_of_ordinary ordinary)

theorem isWhole_of_shown {t : Text} (shown : ∀ c ∈ t.shown, c ≠ '\uFFFD') : t.IsWhole := by
  refine marksAreWhole_of_characters fun m member => ?_
  cases m with
  | char c => exact ⟨c, rfl⟩
  | surrogate offset => exact absurd rfl (shown _ (List.mem_map_of_mem (f := Mark.shown) member))

theorem isWhole_ofString (s : String) : (ofString s).IsWhole := by
  refine marksAreWhole_of_characters fun m member => ?_
  obtain ⟨c, _, rfl⟩ := List.mem_map.mp member
  exact ⟨c, rfl⟩

end Text

end SpatialQuery
