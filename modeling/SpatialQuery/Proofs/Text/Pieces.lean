import SpatialQuery.Proofs.Text.Units

/-!
# Units put together again

A text written in units and read back has lost nothing if it was whole, and what is read from characters
and escapes is always whole.
-/

set_option autoImplicit false

namespace SpatialQuery

namespace Text

/-- The text as a reader of its units has it: neighbours that are the halves of a pair become the
character that they make. -/
def rejoined (t : Text) : Text := ⟨joined ((t.marks.flatMap units).map .unit)⟩

theorem markOfCode_code (m : Mark) : markOfCode m.code = m := by
  unfold markOfCode
  cases m with
  | char c =>
    rw [dif_pos (show (Mark.char c).code.isValidChar from c.valid)]
    exact congrArg Mark.char (Char.ext rfl)
  | surrogate offset =>
    have bound := offset.isLt
    have code : (Mark.surrogate offset).code = 0xD800 + offset.val := rfl
    have invalid : ¬ (Mark.surrogate offset).code.isValidChar := by
      unfold Nat.isValidChar
      omega
    rw [dif_neg invalid, if_pos (by omega), code, Nat.add_sub_cancel_left]
    exact congrArg Mark.surrogate (Fin.ext (Nat.mod_eq_of_lt bound))

theorem joined_cons_of_not_leading {u : UInt16} (apart : isLeading u = false) (rest : List Piece) :
    joined (.unit u :: rest) = markOfCode u.toNat :: joined rest := by
  match rest with
  | [] => rfl
  | .mark m :: rest => rfl
  | .unit v :: rest => rw [joined, apart, Bool.false_and, if_neg (by decide)]

theorem joined_cons_of_not_trailing {u v : UInt16} (apart : isTrailing v = false)
    (rest : List Piece) :
    joined (.unit u :: .unit v :: rest) = markOfCode u.toNat :: joined (.unit v :: rest) := by
  rw [joined, apart, Bool.and_false, if_neg (by decide)]

theorem units_eq_basic {m : Mark} (basic : m.code < 0x10000) : units m = [m.code.toUInt16] := by
  rw [units]
  exact if_pos basic

theorem units_eq_pair {m : Mark} (beyond : 0x10000 ≤ m.code) : units m =
    [(0xD800 + (m.code - 0x10000) / 0x400).toUInt16, (0xDC00 + (m.code - 0x10000) % 0x400).toUInt16] := by
  rw [units]
  exact if_neg (Nat.not_lt.mpr beyond)

theorem joined_pair {m : Mark} (beyond : 0x10000 ≤ m.code) (rest : List Piece) :
    joined ((units m).map .unit ++ rest) = m :: joined rest := by
  have bound := m.code_lt
  cases m with
  | surrogate offset =>
    have below := offset.isLt
    simp only [Mark.code] at beyond
    omega
  | char c =>
    simp only [Mark.code] at beyond bound
    have leading : 0xD800 + (c.toNat - 0x10000) / 0x400 < 0x10000 := by omega
    have trailing : 0xDC00 + (c.toNat - 0x10000) % 0x400 < 0x10000 := by omega
    have first : isLeading (0xD800 + (c.toNat - 0x10000) / 0x400).toUInt16 = true := by
      rw [isLeading, toNat_toUInt16 leading, Bool.and_eq_true, decide_eq_true_eq, decide_eq_true_eq]
      omega
    have second : isTrailing (0xDC00 + (c.toNat - 0x10000) % 0x400).toUInt16 = true := by
      rw [isTrailing, toNat_toUInt16 trailing, Bool.and_eq_true, decide_eq_true_eq, decide_eq_true_eq]
      omega
    have whole : pairedChar (0xD800 + (c.toNat - 0x10000) / 0x400).toUInt16
        (0xDC00 + (c.toNat - 0x10000) % 0x400).toUInt16 = c := by
      have number : 0x10000 + (0xD800 + (c.toNat - 0x10000) / 0x400 - 0xD800) * 0x400 +
          (0xDC00 + (c.toNat - 0x10000) % 0x400 - 0xDC00) = c.toNat := by omega
      rw [pairedChar, toNat_toUInt16 leading, toNat_toUInt16 trailing, number, Char.ofNat_toNat]
    have pair : units (.char c) = [(0xD800 + (c.toNat - 0x10000) / 0x400).toUInt16,
        (0xDC00 + (c.toNat - 0x10000) % 0x400).toUInt16] := units_eq_pair beyond
    rw [pair]
    simp only [List.map_cons, List.map_nil, List.cons_append, List.nil_append, joined, first, second,
      Bool.and_self, if_true, whole]

/-- The first unit of a mark that is no trailing half does not end a pair. -/
theorem exists_units {m : Mark} :
    ∃ u rest, units m = u :: rest ∧ (m.isTrailingHalf = false → isTrailing u = false) := by
  rcases Nat.lt_or_ge m.code 0x10000 with basic | beyond
  · refine ⟨_, _, units_eq_basic basic, fun apart => ?_⟩
    rw [isTrailing, toNat_toUInt16 basic]
    exact apart
  · have bound := m.code_lt
    refine ⟨_, _, units_eq_pair beyond, fun _ => ?_⟩
    have leading : 0xD800 + (m.code - 0x10000) / 0x400 < 0x10000 := by omega
    rw [isTrailing, toNat_toUInt16 leading, Bool.and_eq_false_iff, decide_eq_false_iff_not]
    omega

theorem joined_of_whole {marks : List Mark} (whole : marksAreWhole marks = true) :
    joined ((marks.flatMap units).map .unit) = marks := by
  induction marks with
  | nil => rfl
  | cons m rest ih =>
    have later := ih (marksAreWhole_tail whole)
    rw [List.flatMap_cons, List.map_append]
    rcases Nat.lt_or_ge m.code 0x10000 with basic | beyond
    · have first : markOfCode m.code.toUInt16.toNat = m := by
        rw [toNat_toUInt16 basic, markOfCode_code]
      rw [units_eq_basic basic, List.map_singleton, List.singleton_append]
      cases leading : m.isLeadingHalf with
      | false =>
        have apart : isLeading m.code.toUInt16 = false := by
          rw [isLeading, toNat_toUInt16 basic]
          exact leading
        rw [joined_cons_of_not_leading apart, first, later]
      | true =>
        cases rest with
        | nil => rw [List.flatMap_nil, List.map_nil, joined, first]
        | cons b rest =>
          have apart : b.isTrailingHalf = false := by
            rw [marksAreWhole, leading, Bool.true_and, Bool.and_eq_true, Bool.not_eq_true'] at whole
            exact whole.1
          obtain ⟨u, us, written, notTrailing⟩ := @exists_units b
          rw [List.flatMap_cons, written, List.cons_append, List.map_cons] at later ⊢
          rw [joined_cons_of_not_trailing (notTrailing apart), first, later]
    · rw [joined_pair beyond, later]

theorem rejoined_of_whole {t : Text} (whole : t.IsWhole) : t.rejoined = t :=
  congrArg Text.mk (joined_of_whole whole)

/-! ## Pieces that were read -/

theorem code_markOfCode {n : Nat} (basic : n < 0x10000) : (markOfCode n).code = n := by
  unfold markOfCode
  by_cases valid : n.isValidChar
  · rw [dif_pos valid]
    rfl
  · rw [dif_neg valid]
    unfold Nat.isValidChar at valid
    have surrogate : 0xD800 ≤ n ∧ n < 0xE000 := by omega
    rw [if_pos surrogate]
    simp only [Mark.code, Fin.val_ofNat]
    omega

theorem not_trailing_of_char (c : Char) : (Mark.char c).isTrailingHalf = false := by
  have valid : c.toNat.isValidChar := c.valid
  unfold Nat.isValidChar at valid
  refine Bool.eq_false_iff.mpr fun trailing => ?_
  simp only [Mark.isTrailingHalf, Bool.and_eq_true, decide_eq_true_eq] at trailing
  simp only [Mark.code] at trailing
  omega

theorem marksAreWhole_cons {m b : Mark} {rest : List Mark}
    (apart : m.isLeadingHalf = true → b.isTrailingHalf = false)
    (whole : marksAreWhole (b :: rest) = true) : marksAreWhole (m :: b :: rest) = true := by
  rw [marksAreWhole, whole, Bool.and_true, Bool.not_eq_true']
  cases leading : m.isLeadingHalf with
  | false => rfl
  | true => rw [apart leading]; rfl

theorem leading_of_unit {u : UInt16} (half : (markOfCode u.toNat).isLeadingHalf = true) :
    isLeading u = true := by
  unfold Mark.isLeadingHalf at half
  rwa [code_markOfCode u.toNat_lt] at half

theorem trailing_of_unit {u : UInt16} (apart : isTrailing u = false) :
    (markOfCode u.toNat).isTrailingHalf = false := by
  unfold Mark.isTrailingHalf
  rwa [code_markOfCode u.toNat_lt]

theorem joined_unit_cons {v : UInt16} (apart : isTrailing v = false) (rest : List Piece) :
    ∃ m marks, joined (.unit v :: rest) = m :: marks ∧ m.isTrailingHalf = false := by
  match rest with
  | [] => exact ⟨_, _, rfl, trailing_of_unit apart⟩
  | .mark m :: rest => exact ⟨_, _, rfl, trailing_of_unit apart⟩
  | .unit w :: rest =>
    rw [joined]
    split
    · exact ⟨_, _, rfl, not_trailing_of_char _⟩
    · exact ⟨_, _, rfl, trailing_of_unit apart⟩

theorem marksAreWhole_joined {pieces : List Piece}
    (characters : ∀ m, Piece.mark m ∈ pieces → ∃ c, m = .char c) :
    marksAreWhole (joined pieces) = true := by
  fun_induction joined pieces with
  | case1 => rfl
  | case2 m rest ih =>
    obtain ⟨c, rfl⟩ := characters m (by simp)
    exact marksAreWhole_cons_char c (ih fun m member => characters m (by simp [member]))
  | case3 u => rfl
  | case4 u m rest ih =>
    obtain ⟨c, rfl⟩ := characters m (by simp)
    exact marksAreWhole_cons (fun _ => not_trailing_of_char c)
      (marksAreWhole_cons_char c (ih fun m member => characters m (by simp [member])))
  | case5 u v rest pair ih =>
    exact marksAreWhole_cons_char _ (ih fun m member => characters m (by simp [member]))
  | case6 u v rest apart ih =>
    have whole := ih fun m member => characters m (by simpa using member)
    cases trailing : isTrailing v with
    | false =>
      obtain ⟨m, marks, first, notTrailing⟩ := joined_unit_cons trailing rest
      rw [first] at whole ⊢
      exact marksAreWhole_cons (fun _ => notTrailing) whole
    | true =>
      -- The first unit is no leading half, or the two would be a pair.
      have notLeading : (markOfCode u.toNat).isLeadingHalf = false := by
        refine Bool.eq_false_iff.mpr fun half => apart ?_
        rw [leading_of_unit half, trailing]
        rfl
      generalize joined (.unit v :: rest) = after at whole
      cases after with
      | nil => rfl
      | cons b marks =>
        refine marksAreWhole_cons (fun leading => ?_) whole
        rw [notLeading] at leading
        cases leading

theorem isWhole_rejoined (t : Text) : t.rejoined.IsWhole := by
  refine marksAreWhole_joined fun m member => ?_
  obtain ⟨u, _, contrary⟩ := List.mem_map.mp member
  cases contrary

/-! ## Units written again -/

theorem toUInt16_toNat (u : UInt16) : u.toNat.toUInt16 = u := UInt16.ofNat_toNat

theorem units_markOfCode (u : UInt16) : units (markOfCode u.toNat) = [u] := by
  have code := code_markOfCode u.toNat_lt
  have basic : (markOfCode u.toNat).code < 0x10000 := by
    rw [code]
    exact u.toNat_lt
  rw [units_eq_basic basic, code, toUInt16_toNat]

theorem units_pairedChar {u v : UInt16} (leading : isLeading u = true)
    (trailing : isTrailing v = true) : units (.char (pairedChar u v)) = [u, v] := by
  simp only [isLeading, isTrailing, Bool.and_eq_true, decide_eq_true_eq] at leading trailing
  have valid : (0x10000 + (u.toNat - 0xD800) * 0x400 + (v.toNat - 0xDC00)).isValidChar :=
    Or.inr (by omega)
  have code : (Mark.char (pairedChar u v)).code =
      0x10000 + (u.toNat - 0xD800) * 0x400 + (v.toNat - 0xDC00) := by
    rw [Mark.code, pairedChar, Char.ofNat, dif_pos valid]
    rfl
  have first : 0xD800 + ((Mark.char (pairedChar u v)).code - 0x10000) / 0x400 = u.toNat := by omega
  have second : 0xDC00 + ((Mark.char (pairedChar u v)).code - 0x10000) % 0x400 = v.toNat := by omega
  rw [units_eq_pair (by omega), first, second, toUInt16_toNat, toUInt16_toNat]

theorem units_joined : ∀ us : List UInt16, (joined (us.map .unit)).flatMap units = us
  | [] => rfl
  | [u] => (List.append_nil _).trans (units_markOfCode u)
  | u :: v :: rest => by
    rw [List.map_cons, List.map_cons, joined]
    split
    · rename_i pair
      rw [Bool.and_eq_true] at pair
      rw [List.flatMap_cons, units_pairedChar pair.1 pair.2, units_joined rest]
      rfl
    · rw [List.flatMap_cons, units_markOfCode, ← List.map_cons, units_joined (v :: rest)]
      rfl

theorem units_rejoined (t : Text) : t.rejoined.marks.flatMap units = t.marks.flatMap units :=
  units_joined _

end Text

end SpatialQuery
