import SpatialQuery.Proofs.Json.ReadBack
import SpatialQuery.Proofs.Json.Settled

/-!
# What is too large to be read

A text of JSON is refused for its size in two cases only: an integer in it has more digits than are read,
or more brackets and braces are opened in it than values may be nested.
-/

set_option autoImplicit false

namespace SpatialQuery.Json

open Decimal (isAsciiDigit)
open Text (Piece)

/-- A bracket or a brace that starts a list or an object, unless it stands in a string. -/
def isOpening (m : Mark) : Bool := m == .char '[' || m == .char '\x7b'

/-- The marks are too large where values may be nested that deep. -/
inductive Exceeds (depth : Nat) (marks : List Mark) : Excess → Prop
  | digits {digits : List Char} (areDigits : ∀ c ∈ digits, isAsciiDigit c = true)
      (written : digits.map .char <:+: marks) (long : maxIntegerDigits < digits.length) :
      Exceeds depth marks (.digits digits.length)
  | nesting {isArray : Bool} (deep : depth < marks.countP isOpening) :
      Exceeds depth marks (.nesting isArray)

namespace Exceeds

variable {depth : Nat} {marks rest : List Mark} {excess : Excess}

theorem of_suffix (exceeds : Exceeds depth rest excess) (suffix : rest <:+ marks) :
    Exceeds depth marks excess := by
  cases exceeds with
  | digits areDigits written long => exact .digits areDigits (written.trans suffix.isInfix) long
  | nesting deep => exact .nesting (Nat.lt_of_lt_of_le deep suffix.sublist.countP_le)

theorem opened {m : Mark} (opening : isOpening m = true) (exceeds : Exceeds depth rest excess) :
    Exceeds (depth + 1) (m :: rest) excess := by
  cases exceeds with
  | digits areDigits written long =>
    exact .digits areDigits (written.trans (List.suffix_cons m rest).isInfix) long
  | nesting deep =>
    refine .nesting ?_
    rw [List.countP_cons_of_pos opening]
    exact Nat.succ_lt_succ deep

theorem at_opening {m : Mark} (opening : isOpening m = true) (isArray : Bool) :
    Exceeds 0 (m :: rest) (.nesting isArray) := by
  refine .nesting ?_
  rw [List.countP_cons_of_pos opening]
  exact Nat.succ_pos _

end Exceeds

/-! ## What is left is a suffix -/

theorem skipSpace_suffix (marks : List Mark) : skipSpace marks <:+ marks := List.dropWhile_suffix isSpace

theorem readPieces_suffix (opening : List Mark) {marks : List Mark} {pieces : List Piece}
    {rest : List Mark} (read : readPieces opening marks = .ok (pieces, rest)) : rest <:+ marks := by
  fun_induction readPieces opening marks generalizing pieces rest with
  | case1 | case3 | case5 | case6 | case8 | case9 => cases read
  | case2 =>
    cases read
    exact List.suffix_cons _ _
  | case4 a b c d _ _ _ _ ih =>
    obtain ⟨_, later, -⟩ := prependPiece_ok read
    exact (ih later).trans ⟨[.char '\\', .char 'u', a, b, c, d], rfl⟩
  | case7 letter _ _ _ _ _ ih =>
    obtain ⟨_, later, -⟩ := prependPiece_ok read
    exact (ih later).trans ⟨[.char '\\', letter], rfl⟩
  | case10 m marks _ _ _ _ _ _ ih =>
    obtain ⟨_, later, -⟩ := prependPiece_ok read
    exact (ih later).trans (List.suffix_cons m marks)

theorem readText_suffix {marks : List Mark} {t : Text} {rest : List Mark}
    (read : readText marks = .ok (t, rest)) : rest <:+ marks := by
  unfold readText at read
  split at read
  · rename_i pieces after found
    cases read
    exact (readPieces_suffix marks found).trans (List.tail_suffix marks)
  · cases read

theorem keeps_suffix (whole : List Mark) :
    Keeps (fun _ => True) (fun _ => True) fun marks => marks <:+ whole where
  tail := fun {m marks} suffix => (List.suffix_cons m marks).trans suffix
  skipSpace := fun {marks} suffix => (skipSpace_suffix marks).trans suffix
  text := fun suffix read => ⟨trivial, (readText_suffix read).trans suffix⟩
  number := by
    intro marks n rest suffix read
    unfold readNumber at read
    dsimp only at read
    split at read
    · cases read
    · cases read
    · cases read
      exact ⟨trivial, (List.drop_suffix _ marks).trans suffix⟩
  word := by
    intro marks j rest suffix read
    obtain ⟨word, _, found⟩ := List.exists_of_findSome?_eq_some read
    dsimp only at found
    split at found
    · cases found
      exact ⟨trivial, (List.drop_suffix _ marks).trans suffix⟩
    · cases found
  str := fun _ => trivial
  arr := fun _ => trivial
  obj := fun _ => trivial

theorem readValue_suffix {fuel depth : Nat} {marks rest : List Mark} {j : Json}
    (read : readValue fuel depth marks = .ok (j, rest)) : rest <:+ marks :=
  (((keeps_suffix marks).within fuel).ofValue (List.suffix_refl marks) read).2

/-! ## Numbers and strings -/

theorem readPieces_ne_excess (opening marks : List Mark) (excess : Excess) :
    readPieces opening marks ≠ .error (.excess excess) := by
  have prepended : ∀ {p : Piece} {reading : Reading (List Piece)},
      reading ≠ .error (.excess excess) → prependPiece p reading ≠ .error (.excess excess) := by
    intro p reading other
    unfold prependPiece
    intro same
    split at same
    · cases same
    · exact other (by rw [Except.error.inj same])
  fun_induction readPieces opening marks with
  | case1 | case2 | case3 | case5 | case6 | case8 | case9 =>
    intro same
    cases same
  | case4 _ _ _ _ _ _ _ _ ih | case7 _ _ _ _ _ _ ih | case10 _ _ _ _ _ _ _ _ ih => exact prepended ih

theorem readText_ne_excess (marks : List Mark) (excess : Excess) :
    readText marks ≠ .error (.excess excess) := by
  unfold readText
  split
  · nofun
  · rename_i stop stopped
    rintro ⟨⟩
    exact readPieces_ne_excess _ _ _ stopped

namespace Numeral

theorem splitSign_suffix (cs : List Char) : (splitSign cs).2 <:+ cs := by
  unfold splitSign
  split
  · exact List.suffix_cons _ _
  · exact List.suffix_refl _

theorem splitWhole_prefix (cs : List Char) : (splitWhole cs).1 <+: cs := by
  unfold splitWhole
  split
  · exact List.prefix_append ['0'] _
  · exact List.takeWhile_prefix _

end Numeral

/-- Only an integer can be too long, and all of its digits are counted. -/
theorem digits_of_numberPart {start : List Char} {excess : Excess}
    (stopped : numberPart start = .error excess) :
    ∃ digits, excess = .digits digits.length ∧ (∀ c ∈ digits, isAsciiDigit c = true) ∧
      digits <:+: start ∧ maxIntegerDigits < digits.length := by
  have digits := splitWhole_digits (Numeral.splitSign start).2
  have written := (Numeral.splitWhole_prefix _).isInfix.trans (Numeral.splitSign_suffix start).isInfix
  rw [Numeral.numberPart_eq, Numeral.numberOf] at stopped
  split at stopped
  · cases stopped
  · dsimp only at stopped
    split at stopped
    · split at stopped
      · rename_i long
        cases stopped
        exact ⟨_, rfl, digits, written, long⟩
      · cases stopped
    · cases stopped

theorem char_shown_of_numberMark {m : Mark} (isNumber : isNumberMark m = true) :
    Mark.char m.shown = m := by
  cases m with
  | char c => rfl
  | surrogate offset => cases isNumber

theorem exceeds_of_readNumber {depth : Nat} {start : List Mark} {excess : Excess}
    (stopped : readNumber start = .error (.excess excess)) : Exceeds depth start excess := by
  unfold readNumber at stopped
  dsimp only at stopped
  split at stopped
  · rename_i found
    cases stopped
    obtain ⟨digits, rfl, areDigits, written, long⟩ := digits_of_numberPart found
    have marks : ((start.takeWhile isNumberMark).map Mark.shown).map Mark.char =
        start.takeWhile isNumberMark := by
      rw [List.map_map]
      refine (List.map_congr_left fun m member => ?_).trans (List.map_id _)
      exact char_shown_of_numberMark (List.all_eq_true.mp List.all_takeWhile m member)
    have inMarks := written.map Mark.char
    rw [marks] at inMarks
    exact .digits areDigits (inMarks.trans (List.takeWhile_prefix _).isInfix) long
  · cases stopped
  · cases stopped

/-! ## Values -/

/-- Calls with that much fuel find an excess only where there is one. -/
structure TellsExcess (fuel : Nat) : Prop where
  ofValue : ∀ {depth marks excess}, readValue fuel depth marks = .error (.excess excess) →
    Exceeds depth marks excess
  ofItems : ∀ {depth marks excess}, readItems fuel depth marks = .error (.excess excess) →
    Exceeds depth marks excess
  ofMembers : ∀ {depth marks excess}, readMembers fuel depth marks = .error (.excess excess) →
    Exceeds depth marks excess

section

variable {fuel depth : Nat} (ih : TellsExcess fuel) {marks : List Mark} {excess : Excess}

include ih

theorem exceeds_of_readValue
    (stopped : readValue (fuel + 1) depth marks = .error (.excess excess)) :
    Exceeds depth marks excess := by
  unfold readValue at stopped
  split at stopped
  · split at stopped
    · cases stopped
    · rename_i found
      cases stopped
      exact absurd found (readText_ne_excess _ _)
  · split at stopped
    · cases stopped
      exact .at_opening rfl false
    · split at stopped
      · cases stopped
      · split at stopped
        · cases stopped
        · rename_i found
          cases stopped
          exact ((ih.ofMembers found).of_suffix (skipSpace_suffix _)).opened rfl
  · split at stopped
    · cases stopped
      exact .at_opening rfl true
    · split at stopped
      · cases stopped
      · split at stopped
        · cases stopped
        · rename_i found
          cases stopped
          exact ((ih.ofItems found).of_suffix (skipSpace_suffix _)).opened rfl
  · split at stopped
    · cases stopped
    · split at stopped
      · cases stopped
      · rename_i found
        cases stopped
        exact exceeds_of_readNumber found

theorem exceeds_of_readItems
    (stopped : readItems (fuel + 1) depth marks = .error (.excess excess)) :
    Exceeds depth marks excess := by
  unfold readItems at stopped
  split at stopped
  · rename_i found
    cases stopped
    exact ih.ofValue found
  · rename_i item after found
    have left := readValue_suffix found
    split at stopped
    · cases stopped
    · rename_i rest spaced
      split at stopped
      · cases stopped
      · rename_i more
        cases stopped
        have later : rest <:+ skipSpace after := spaced ▸ List.suffix_cons _ rest
        exact (ih.ofItems more).of_suffix
          ((skipSpace_suffix rest).trans (later.trans ((skipSpace_suffix after).trans left)))
    · cases stopped

theorem exceeds_of_readMembers
    (stopped : readMembers (fuel + 1) depth marks = .error (.excess excess)) :
    Exceeds depth marks excess := by
  unfold readMembers at stopped
  split at stopped
  · split at stopped
    · rename_i found
      cases stopped
      exact absurd found (readText_ne_excess _ _)
    · rename_i key afterKey foundKey
      have leftKey := readText_suffix foundKey
      split at stopped
      · rename_i beforeValue colon
        have atValue : beforeValue <:+ skipSpace afterKey := colon ▸ List.suffix_cons _ beforeValue
        have value := (skipSpace_suffix beforeValue).trans
          (atValue.trans ((skipSpace_suffix afterKey).trans leftKey))
        split at stopped
        · rename_i found
          cases stopped
          exact (ih.ofValue found).of_suffix value
        · rename_i stored after found
          have left := (readValue_suffix found).trans value
          split at stopped
          · cases stopped
          · rename_i rest spaced
            split at stopped
            · cases stopped
            · rename_i more
              cases stopped
              have later : rest <:+ skipSpace after := spaced ▸ List.suffix_cons _ rest
              exact (ih.ofMembers more).of_suffix
                ((skipSpace_suffix rest).trans (later.trans ((skipSpace_suffix after).trans left)))
          · cases stopped
      · cases stopped
  · cases stopped

end

theorem tellsExcess (fuel : Nat) : TellsExcess fuel := by
  induction fuel with
  | zero => exact ⟨nofun, nofun, nofun⟩
  | succ fuel ih =>
    exact ⟨exceeds_of_readValue ih, exceeds_of_readItems ih, exceeds_of_readMembers ih⟩

theorem exceeds_of_read {deepest : Nat} {t : Text} {excess : Excess}
    (refused : read deepest t = .error (.excessive excess)) : Exceeds deepest t.marks excess := by
  have stopped : readMarks deepest t.marks = .error (.excessive excess) := by
    unfold read at refused
    split at refused
    · cases refused
    · exact refused
  unfold readMarks at stopped
  split at stopped
  · cases stopped
  · cases stopped
  · rename_i all
    cases stopped
    unfold readAll at all
    split at all
    · rename_i found
      cases all
      exact ((tellsExcess _).ofValue found).of_suffix (skipSpace_suffix _)
    · split at all
      · cases all
      · cases all

/-! ## Long integers are refused -/

section

variable {n : Numeral} (proper : n.IsProper) (noFraction : n.fraction = none) (noPower : n.power = none)
  (long : maxIntegerDigits < n.whole.length) {rest : List Mark} (stops : StopsNumber rest)

include proper noFraction noPower long

theorem numberPart_of_long : numberPart n.chars = .error (.digits n.whole.length) := by
  have nonempty : n.whole.isEmpty = false := by simpa using proper.someDigit
  rw [Numeral.numberPart_eq, Numeral.splitSign_chars proper, Numeral.splitWhole_unsigned proper,
    Numeral.numberOf, nonempty, Numeral.fractionPart_chars proper]
  dsimp only
  rw [Numeral.exponentPart_chars proper, noFraction, noPower]
  simp [long]

include stops

theorem readNumber_of_long :
    readNumber (n.chars.map .char ++ rest) = .error (.excess (.digits n.whole.length)) := by
  have shown : (n.chars.map Mark.char).map Mark.shown = n.chars := by
    simp [Function.comp_def, Mark.shown]
  unfold readNumber
  rw [takeWhile_numeral proper stops, shown]
  dsimp only
  rw [numberPart_of_long proper noFraction noPower long]

theorem readValue_of_long (fuel depth : Nat) :
    readValue (fuel + 1) depth (n.chars.map .char ++ rest) =
      .error (.excess (.digits n.whole.length)) := by
  rw [readValue_numeral proper, readNumber_of_long proper noFraction noPower long stops]

end

end SpatialQuery.Json
