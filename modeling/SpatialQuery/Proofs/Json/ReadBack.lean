import Mathlib.Tactic.Linarith
import SpatialQuery.Proofs.Json.Printed
import SpatialQuery.Proofs.Json.Reading
import SpatialQuery.Proofs.Json.Unambiguous

/-!
# What is written is read back

The reader takes a written value back as it was: its texts whole, its numbers finite and no longer than
the reader allows, the keys of its objects distinct, and the value nested no deeper than the reader goes.
-/

set_option autoImplicit false

namespace SpatialQuery

/-- An integer has no more digits than are read; doubles are written with few. -/
def Number.IsShort : Number → Prop
  | .int n => (Decimal.digitChars n.natAbs).length ≤ Json.maxIntegerDigits
  | .real _ => True

namespace Json

open Decimal (isAsciiDigit)
open Text (Piece)

/-! ## Strings -/

theorem readPieces_of_characters {marks : List Mark} {pieces : List Piece}
    (characters : Characters marks pieces) (opening rest : List Mark) :
    readPieces opening (marks ++ .char '"' :: rest) = .ok (pieces, rest) := by
  induction characters with
  | nil => rfl
  | @plain m marks pieces printable notQuote notBackslash _ ih =>
    have printable : ¬ m.code < 0x20 := Nat.not_lt.mpr printable
    rw [List.cons_append, readPieces]
    · rw [if_neg printable, ih]
      rfl
    all_goals grind
  | @letter m c marks pieces escape _ ih =>
    have notU := letterChar?_ne_u escape
    rw [List.cons_append, List.cons_append, readPieces]
    · rw [escape]
      simp only [ih]
      rfl
    all_goals grind
  | @unit a b c d u marks pieces digits _ ih =>
    -- An escape of four digits needs a mark after it, and at least the closing quote is there.
    obtain ⟨e, after, more⟩ : ∃ e after, marks ++ .char '"' :: rest = e :: after := by
      cases marks with
      | nil => exact ⟨_, _, rfl⟩
      | cons m marks => exact ⟨_, _, rfl⟩
    rw [more] at ih
    simp only [List.cons_append, more, readPieces, digits, ih]
    rfl

theorem readText_of_quotation {marks : List Mark} {t : Text} (quotation : Quotation marks t)
    (rest : List Mark) : readText (marks ++ rest) = .ok (t, rest) := by
  obtain ⟨characters⟩ := quotation
  have read := readPieces_of_characters characters
  simp [readText, read]

theorem readText_quoted {t : Text} (whole : t.IsWhole) (rest : List Mark) :
    readText ((quoted t).map .char ++ rest) = .ok (t, rest) := by
  have quotation := quotation_quoted t
  rw [Text.rejoined_of_whole whole] at quotation
  exact readText_of_quotation quotation rest

/-! ## Numbers -/

namespace Numeral

variable {n : Numeral}

theorem fractionPart_chars (proper : n.IsProper) :
    fractionPart (n.fractionChars ++ n.powerChars) = (n.fraction, n.powerChars) := by
  obtain ⟨negative, whole, fraction, power⟩ := n
  obtain ⟨-, -, -, fractionDigits, powers⟩ := proper
  dsimp only at fractionDigits powers
  cases fraction with
  | none =>
    cases power with
    | none => rfl
    | some p =>
      obtain ⟨c, rest, written, -, notPoint⟩ := Power.chars_cons (powers p rfl)
      simp [fractionChars, powerChars, written, fractionPart, notPoint]
  | some places =>
    obtain ⟨areDigits, somePlace⟩ := fractionDigits places rfl
    obtain ⟨first, others, rfl⟩ := List.exists_cons_of_ne_nil somePlace
    obtain ⟨isDigit, areOthers⟩ := List.forall_mem_cons.mp areDigits
    cases power with
    | none =>
      simp [fractionChars, powerChars, fractionPart, isDigit, Decimal.takeWhile_all areOthers,
        Decimal.dropWhile_all areOthers]
    | some p =>
      obtain ⟨c, rest, written, stops, -⟩ := Power.chars_cons (powers p rfl)
      simp [fractionChars, powerChars, fractionPart, isDigit, written,
        Decimal.takeWhile_stop areOthers c stops, Decimal.dropWhile_stop areOthers c stops]

theorem exponentPart_chars (proper : n.IsProper) :
    Decimal.exponentPart n.powerChars = (n.power.map Power.value, []) := by
  unfold powerChars
  cases given : n.power with
  | none => rfl
  | some p => exact Power.exponentPart (proper.power p given)

theorem takeWhile_whole (proper : n.IsProper) :
    n.unsigned.takeWhile isAsciiDigit = n.whole ∧
      n.unsigned.dropWhile isAsciiDigit = n.fractionChars ++ n.powerChars := by
  have digits := proper.digits
  unfold unsigned
  cases tail : n.fractionChars ++ n.powerChars with
  | nil =>
    rw [List.append_nil]
    exact ⟨Decimal.takeWhile_all digits, Decimal.dropWhile_all digits⟩
  | cons c rest =>
    have stops : isAsciiDigit c = false := by
      unfold fractionChars powerChars at tail
      cases fraction : n.fraction with
      | some places =>
        rw [fraction] at tail
        rw [← (List.cons.inj tail).1]
        rfl
      | none =>
        cases power : n.power with
        | none =>
          rw [fraction, power] at tail
          cases tail
        | some p =>
          obtain ⟨d, others, written, stops, -⟩ := Power.chars_cons (proper.power p power)
          rw [fraction, power] at tail
          dsimp only at tail
          rw [List.nil_append, written] at tail
          rwa [← (List.cons.inj tail).1]
    exact ⟨Decimal.takeWhile_stop digits c stops, Decimal.dropWhile_stop digits c stops⟩

def splitSign : List Char → Bool × List Char
  | '-' :: rest => (true, rest)
  | rest => (false, rest)

/-- The digits before the point: one zero, or as many as there are. -/
def splitWhole : List Char → List Char × List Char
  | '0' :: rest => (['0'], rest)
  | rest => (rest.takeWhile isAsciiDigit, rest.dropWhile isAsciiDigit)

def numberOf (start : List Char) (negative : Bool) (whole afterWhole : List Char) :
    Except Excess (Option Number × List Char) :=
  if whole.isEmpty then .ok (none, start)
  else
    let (fraction, afterFraction) := fractionPart afterWhole
    let (exponent, rest) := Decimal.exponentPart afterFraction
    match fraction, exponent with
    | none, none =>
      if maxIntegerDigits < whole.length then .error (.digits whole.length)
      else .ok (some (.int (Decimal.signed negative (Decimal.digitsValue whole))), rest)
    | _, _ =>
      let size := (Decimal.Scaled.ofDigits whole (fraction.getD []) (exponent.getD 0)).nearest
      .ok (some (.real (if negative then -size else size)), rest)

theorem numberPart_eq (start : List Char) : numberPart start =
    numberOf start (splitSign start).1 (splitWhole (splitSign start).2).1
      (splitWhole (splitSign start).2).2 := rfl

theorem splitSign_chars (proper : n.IsProper) : splitSign n.chars = (n.negative, n.unsigned) := by
  obtain ⟨c, rest, starts, digit⟩ := unsigned_start proper
  rw [chars_eq]
  cases n.negative with
  | true => rfl
  | false =>
    have notMinus : c ≠ '-' := by
      rintro rfl
      exact absurd digit (by decide)
    simp [splitSign, starts, notMinus]

theorem splitWhole_unsigned (proper : n.IsProper) :
    splitWhole n.unsigned = (n.whole, n.fractionChars ++ n.powerChars) := by
  obtain ⟨taken, left⟩ := takeWhile_whole proper
  obtain ⟨c, others, first⟩ := List.exists_cons_of_ne_nil proper.someDigit
  by_cases zero : c = '0'
  · subst zero
    have alone : others = [] := proper.noLeadingZero others first
    rw [unsigned, first, alone]
    rfl
  · have starts : n.unsigned = c :: (others ++ (n.fractionChars ++ n.powerChars)) := by
      rw [unsigned, first]
      rfl
    rw [starts] at taken left ⊢
    simp [splitWhole, zero, taken, left]

theorem numberPart_chars (proper : n.IsProper)
    (short : n.fraction = none → n.power = none → n.whole.length ≤ maxIntegerDigits) :
    numberPart n.chars = .ok (some n.value, []) := by
  have nonempty : n.whole.isEmpty = false := by simpa using proper.someDigit
  rw [numberPart_eq, splitSign_chars proper, splitWhole_unsigned proper, numberOf, nonempty,
    fractionPart_chars proper]
  dsimp only
  rw [exponentPart_chars proper]
  cases fraction : n.fraction with
  | none =>
    cases power : n.power with
    | none =>
      have within := Nat.not_lt.mpr (short fraction power)
      simp [value, fraction, power, within]
    | some p => simp [value, size, fraction, power]
  | some places => cases power : n.power <;> simp [value, size, fraction, power]

theorem readNumber_chars (proper : n.IsProper)
    (short : n.fraction = none → n.power = none → n.whole.length ≤ maxIntegerDigits)
    {rest : List Mark} (stops : StopsNumber rest) :
    readNumber (n.chars.map .char ++ rest) = .ok (n.value, rest) := by
  have shown : (n.chars.map Mark.char).map Mark.shown = n.chars := by
    simp [Function.comp_def, Mark.shown]
  unfold readNumber
  rw [takeWhile_numeral proper stops, shown]
  dsimp only
  rw [numberPart_chars proper short]
  simp

theorem readWord?_chars (proper : n.IsProper) (rest : List Mark) :
    readWord? (n.chars.map .char ++ rest) = none := by
  obtain ⟨c, more, unsigned, digit⟩ := unsigned_start proper
  have other : ∀ d, isAsciiDigit d = false → d ≠ c := by
    intro d notDigit same
    rw [same, digit] at notDigit
    cases notDigit
  rw [chars_eq]
  cases n.negative with
  | false =>
    simp [unsigned, readWord?, words, Text.ofString, Text.ofChars, other 'n' rfl, other 't' rfl,
      other 'f' rfl, other 'N' rfl, other 'I' rfl, other '-' rfl]
  | true => simp [unsigned, readWord?, words, Text.ofString, Text.ofChars, other 'I' rfl]

end Numeral

theorem splitSign_intChars (n : Int) :
    Numeral.splitSign (Number.intChars n) = (decide (n < 0), Decimal.digitChars n.natAbs) := by
  unfold Number.intChars
  by_cases negative : n < 0
  · rw [if_pos negative, decide_eq_true negative]
    rfl
  · obtain ⟨c, rest, written, digit⟩ := digitChars_start n.natAbs
    have notMinus : c ≠ '-' := by
      rintro rfl
      cases digit
    rw [if_neg negative, decide_eq_false negative]
    simp [Numeral.splitSign, written, notMinus]

theorem length_whole_le {numeral : Numeral} (proper : numeral.IsProper) {n : Number}
    (short : n.IsShort) (written : numeral.chars = numberChars n) (worth : numeral.value = n)
    (noFraction : numeral.fraction = none) (noPower : numeral.power = none) :
    numeral.whole.length ≤ maxIntegerDigits := by
  cases n with
  | real x => simp [Numeral.value, noFraction, noPower] at worth
  | int n =>
    have split := Numeral.splitSign_chars proper
    rw [written, numberChars, Number.chars, splitSign_intChars] at split
    have digits := (Prod.mk.inj split).2
    simp only [Numeral.unsigned, Numeral.fractionChars, Numeral.powerChars, noFraction, noPower,
      List.append_nil] at digits
    rw [← digits]
    exact short

/-! ## Values -/

abbrev EveryWritable : Json → Prop :=
  Every (fun n => n.isFinite = true ∧ n.IsShort) fun _ => True

/-- What starts with a numeral is read as a number or not at all. -/
theorem readValue_numeral {numeral : Numeral} (proper : numeral.IsProper) (fuel depth : Nat)
    (rest : List Mark) : readValue (fuel + 1) depth (numeral.chars.map .char ++ rest) =
      match readNumber (numeral.chars.map .char ++ rest) with
      | .ok (n, rest) => .ok (.num n, rest)
      | .error stop => .error stop := by
  have noWord := Numeral.readWord?_chars proper rest
  obtain ⟨c, more, starts, isNumber⟩ := Numeral.chars_kind proper
  have other : ∀ d, kind? d ≠ some .number → ∀ after,
      numeral.chars.map Mark.char ++ rest ≠ .char d :: after := by
    intro d notNumber after same
    rw [starts] at same
    exact notNumber ((Mark.char.inj (List.cons.inj same).1) ▸ isNumber)
  rw [readValue]
  · rewrite [noWord]
    rfl
  · exact other '"' (by decide)
  · exact other '\x7b' (by decide)
  · exact other '[' (by decide)

theorem readValue_number {n : Number} (finite : n.isFinite = true) (short : n.IsShort)
    {fuel depth : Nat} {rest : List Mark} (stops : StopsNumber rest) :
    readValue (fuel + 1) depth ((numberChars n).map .char ++ rest) = .ok (.num n, rest) := by
  obtain ⟨numeral, proper, written, worth⟩ := Numeral.exists_of_finite finite
  have number := Numeral.readNumber_chars proper (length_whole_le proper short written worth) stops
  rw [← written, readValue_numeral proper, number, worth]

theorem stopsNumber_cons {m : Mark} (stops : isNumberMark m = false) (rest : List Mark) :
    StopsNumber (m :: rest) := by
  rintro _ ⟨⟩
  exact stops

section

variable {style : Style}

theorem stopsBlank_chars (style : Style) (j : Json) (rest : List Mark) :
    StopsBlank ((style.chars j).map .char ++ rest) := by
  obtain ⟨c, more, written, isKind⟩ := chars_kind style j
  rw [written]
  exact stopsBlank_of_kind isKind _

theorem stopsNumber_afterItem (style : Style) (items : List Json) (rest : List Mark) :
    StopsNumber ((style.afterItem items).map .char ++ rest) := by
  cases items with
  | nil => exact stopsNumber_cons rfl _
  | cons j items => exact stopsNumber_cons rfl _

theorem stopsNumber_afterMember (style : Style) (members : List (Text × Json)) (rest : List Mark) :
    StopsNumber ((style.afterMember members).map .char ++ rest) := by
  cases members with
  | nil => exact stopsNumber_cons rfl _
  | cons m members => exact stopsNumber_cons rfl _

theorem skipSpace_of_stops {marks : List Mark} (stops : StopsBlank marks) : skipSpace marks = marks :=
  skipSpace_blank isBlank_nil stops

theorem length_chars_pos (style : Style) (j : Json) : 0 < (style.chars j).length := by
  obtain ⟨c, more, written, _⟩ := chars_kind style j
  rw [written]
  exact Nat.succ_pos _

theorem stopsBlank_itemChars (style : Style) (j : Json) (items : List Json) (rest : List Mark) :
    StopsBlank ((style.itemChars (j :: items)).map .char ++ rest) := by
  rw [itemChars_cons, List.map_append, List.append_assoc]
  exact stopsBlank_chars style j _

theorem itemChars_ne_closing (style : Style) (j : Json) (items : List Json) (rest after : List Mark) :
    (style.itemChars (j :: items)).map .char ++ rest ≠ .char ']' :: after := by
  obtain ⟨c, more, written, isKind⟩ := chars_kind style j
  rw [itemChars_cons, written]
  intro same
  rw [Mark.char.inj (List.cons.inj same).1] at isKind
  cases isKind

theorem skipSpace_afterItem (isOpen : style.IsOpen) (next : Json) (items : List Json)
    (rest : List Mark) : ∃ more,
      skipSpace ((style.afterItem (next :: items)).map .char ++ rest) = .char ',' :: more ∧
        skipSpace more = (style.itemChars (next :: items)).map .char ++ rest := by
  refine ⟨style.afterComma.map .char ++ ((style.itemChars (next :: items)).map .char ++ rest), ?_,
    skipSpace_blank isOpen.afterComma (stopsBlank_itemChars style next items rest)⟩
  simp only [Style.afterItem, List.cons_append, List.map_cons, List.map_append, List.append_assoc]
  exact skipSpace_of_stops (stopsBlank_cons rfl _)

theorem memberChars_start (style : Style) (m : Text × Json) (members : List (Text × Json))
    (rest : List Mark) : ∃ more,
      (style.memberChars (m :: members)).map Mark.char ++ rest = .char '"' :: more := by
  obtain ⟨key, j⟩ := m
  rw [memberChars_cons]
  exact ⟨_, rfl⟩

theorem skipSpace_afterMember (isOpen : style.IsOpen) (next : Text × Json)
    (members : List (Text × Json)) (rest : List Mark) : ∃ more,
      skipSpace ((style.afterMember (next :: members)).map .char ++ rest) = .char ',' :: more ∧
        skipSpace more = (style.memberChars (next :: members)).map .char ++ rest := by
  obtain ⟨inner, starts⟩ := memberChars_start style next members rest
  have stops : StopsBlank ((style.memberChars (next :: members)).map .char ++ rest) := by
    rw [starts]
    exact stopsBlank_cons rfl _
  refine ⟨style.afterComma.map .char ++ ((style.memberChars (next :: members)).map .char ++ rest), ?_,
    skipSpace_blank isOpen.afterComma stops⟩
  simp only [Style.afterMember, List.cons_append, List.map_cons, List.map_append, List.append_assoc]
  exact skipSpace_of_stops (stopsBlank_cons rfl _)

mutual

/-- The calls needed are fewer than two for each mark, so that they do not run out. -/
theorem readValue_chars (isOpen : style.IsOpen) : ∀ (j : Json) (fuel depth : Nat) (rest : List Mark),
    j.IsSettled → j.EveryWritable → j.depth ≤ depth → 2 * (style.chars j).length ≤ fuel + 1 →
      StopsNumber rest → readValue fuel depth ((style.chars j).map .char ++ rest) = .ok (j, rest)
  | j, 0, depth, rest, _, _, _, enough, _ => by
    have some := length_chars_pos style j
    omega
  | .null, fuel + 1, depth, rest, _, _, _, _, _ => rfl
  | .bool true, fuel + 1, depth, rest, _, _, _, _, _ => rfl
  | .bool false, fuel + 1, depth, rest, _, _, _, _, _ => rfl
  | .num n, fuel + 1, depth, rest, _, writable, _, _, stops =>
    readValue_number writable.1 writable.2 stops
  | .str t, fuel + 1, depth, rest, whole, _, _, _, _ => by
    have read := readText_quoted whole rest
    simp only [Style.chars, quoted, List.cons_append, List.map_cons] at read ⊢
    rw [readValue, read]
  | .arr [], fuel + 1, 0, rest, _, _, deep, _, _ => by simp [Json.depth] at deep
  | .arr (j :: items), fuel + 1, 0, rest, _, _, deep, _, _ => by simp [Json.depth] at deep
  | .obj [], fuel + 1, 0, rest, _, _, deep, _, _ => by simp [Json.depth] at deep
  | .obj (m :: members), fuel + 1, 0, rest, _, _, deep, _, _ => by simp [Json.depth] at deep
  | .arr [], fuel + 1, depth + 1, rest, _, _, _, _, _ => rfl
  | .obj [], fuel + 1, depth + 1, rest, _, _, _, _, _ => rfl
  | .arr (j :: items), fuel + 1, depth + 1, rest, settled, writable, deep, enough, _ => by
    have within : itemDepth (j :: items) ≤ depth := Nat.le_of_succ_le_succ deep
    have fewer : 2 * (style.itemChars (j :: items)).length ≤ fuel := by
      simp only [Style.chars, List.length_cons] at enough
      omega
    have read := readItems_itemChars isOpen j items fuel depth rest settled writable within fewer
    have notClosed := itemChars_ne_closing style j items rest
    rw [Style.chars, List.map_cons, List.cons_append, readValue,
      skipSpace_of_stops (stopsBlank_itemChars style j items rest)]
    split
    · rename_i after closed
      exact absurd closed (notClosed after)
    · rw [read]
  | .obj (m :: members), fuel + 1, depth + 1, rest, settled, writable, deep, enough, _ => by
    have within : memberDepth (m :: members) ≤ depth := Nat.le_of_succ_le_succ deep
    have fewer : 2 * (style.memberChars (m :: members)).length ≤ fuel := by
      simp only [Style.chars, List.length_cons] at enough
      omega
    have read := readMembers_memberChars isOpen m members fuel depth rest settled.2 writable
      within fewer
    obtain ⟨more, starts⟩ := memberChars_start style m members rest
    rw [Style.chars, List.map_cons, List.cons_append, readValue]
    rw [starts] at read ⊢
    rw [skipSpace_of_stops (stopsBlank_cons rfl _)]
    split
    · rename_i after closed
      exact absurd (List.cons.inj closed).1 (by decide)
    · rw [read]
      exact congrArg (fun members => Except.ok (Json.obj members, rest))
        (Assoc.settle_of_nodup settled.1)

theorem readItems_itemChars (isOpen : style.IsOpen) : ∀ (j : Json) (items : List Json)
    (fuel depth : Nat) (rest : List Mark), AreSettled (j :: items) →
      EveryItem (fun n => n.isFinite = true ∧ n.IsShort) (fun _ => True) (j :: items) →
      itemDepth (j :: items) ≤ depth → 2 * (style.itemChars (j :: items)).length ≤ fuel →
      readItems fuel depth ((style.itemChars (j :: items)).map .char ++ rest) =
        .ok (j :: items, rest)
  | j, items, 0, depth, rest, _, _, _, enough => by
    rw [itemChars_cons, List.length_append] at enough
    have some := length_chars_pos style j
    omega
  | j, items, fuel + 1, depth, rest, settled, writable, within, enough => by
    rw [itemDepth] at within
    rw [itemChars_cons, List.length_append] at enough
    have after : 0 < (style.afterItem items).length := by cases items <;> exact Nat.succ_pos _
    have first := readValue_chars isOpen j fuel depth
      ((style.afterItem items).map .char ++ rest) settled.1 writable.1 (by omega) (by omega)
      (stopsNumber_afterItem style items rest)
    rw [itemChars_cons, List.map_append, List.append_assoc, readItems, first]
    cases items with
    | nil => rfl
    | cons next items =>
      simp only [Style.afterItem, List.cons_append, List.length_cons, List.length_append] at enough
      have others := readItems_itemChars isOpen next items fuel depth rest settled.2 writable.2
        (by omega) (by omega)
      obtain ⟨more, comma, blank⟩ := skipSpace_afterItem isOpen next items rest
      dsimp only
      rw [comma]
      simp only [blank, others]

theorem readMembers_memberChars (isOpen : style.IsOpen) : ∀ (m : Text × Json)
    (members : List (Text × Json)) (fuel depth : Nat) (rest : List Mark),
      MembersAreSettled (m :: members) →
      EveryMember (fun n => n.isFinite = true ∧ n.IsShort) (fun _ => True) (m :: members) →
      memberDepth (m :: members) ≤ depth → 2 * (style.memberChars (m :: members)).length ≤ fuel →
      readMembers fuel depth ((style.memberChars (m :: members)).map .char ++ rest) =
        .ok (m :: members, rest)
  | (key, j), members, 0, depth, rest, _, _, _, enough => by
    rw [memberChars_cons, List.length_append] at enough
    have some : 0 < (quoted key).length := Nat.succ_pos _
    omega
  | (key, j), members, fuel + 1, depth, rest, settled, writable, within, enough => by
    rw [memberDepth] at within
    simp only [memberChars_cons, List.length_append, List.length_cons, List.cons_append] at enough
    have after : 0 < (style.afterMember members).length := by cases members <;> exact Nat.succ_pos _
    have readKey := readText_quoted settled.1 (.char ':' :: (style.afterColon.map .char ++
      ((style.chars j).map .char ++ ((style.afterMember members).map .char ++ rest))))
    have colon := skipSpace_blank isOpen.afterColon
      (stopsBlank_chars style j ((style.afterMember members).map .char ++ rest))
    have first := readValue_chars isOpen j fuel depth
      ((style.afterMember members).map .char ++ rest) settled.2.1 writable.2.1 (by omega)
      (by omega) (stopsNumber_afterMember style members rest)
    have marks : (style.memberChars ((key, j) :: members)).map Mark.char ++ rest =
        (quoted key).map .char ++ .char ':' :: (style.afterColon.map .char ++
          ((style.chars j).map .char ++ ((style.afterMember members).map .char ++ rest))) := by
      simp [memberChars_cons]
    obtain ⟨more, starts⟩ : ∃ more, (quoted key).map Mark.char ++ .char ':' ::
        (style.afterColon.map .char ++ ((style.chars j).map .char ++
          ((style.afterMember members).map .char ++ rest))) = .char '"' :: more := ⟨_, rfl⟩
    have noBlank : skipSpace (.char ':' :: (style.afterColon.map .char ++ ((style.chars j).map .char ++
        ((style.afterMember members).map .char ++ rest)))) = .char ':' :: (style.afterColon.map .char ++
          ((style.chars j).map .char ++ ((style.afterMember members).map .char ++ rest))) :=
      skipSpace_of_stops (stopsBlank_cons rfl _)
    rw [starts] at readKey
    rw [marks, starts, readMembers, readKey]
    dsimp only
    simp only [noBlank, colon, first]
    cases members with
    | nil => rfl
    | cons next members =>
      simp only [Style.afterMember, List.cons_append, List.length_cons, List.length_append] at enough
      have others := readMembers_memberChars isOpen next members fuel depth rest
        settled.2.2 writable.2.2 (by omega) (by omega)
      obtain ⟨inner, comma, blank⟩ := skipSpace_afterMember isOpen next members rest
      rw [comma]
      simp only [blank, others]

end

/-- The text of a value is read as that value. -/
theorem read_render (isOpen : style.IsOpen) {j : Json} (settled : j.IsSettled)
    (writable : j.EveryWritable) {deepest : Nat} (deep : j.depth ≤ deepest) :
    read deepest (style.render j) = .ok j := by
  have marks : (Text.ofString (style.render j)).marks = (style.chars j).map .char := by
    simp [Text.ofString, Text.ofChars, Style.render]
  have value := readValue_chars isOpen j (2 * (style.chars j).length + 2) deepest []
    settled writable deep (by omega) nofun
  rw [List.append_nil] at value
  have noBlank : skipSpace ((style.chars j).map Mark.char) = (style.chars j).map .char := by
    have stops := stopsBlank_chars style j []
    rw [List.append_nil] at stops
    exact skipSpace_of_stops stops
  have all : readAll deepest ((style.chars j).map .char) = .ok j := by
    rw [readAll, List.length_map, noBlank, value]
    rfl
  obtain ⟨c, rest, written, isKind⟩ := chars_kind style j
  rw [read, marks]
  split
  · rename_i other opened
    rw [written] at opened
    rw [Mark.char.inj (List.cons.inj opened).1] at isKind
    cases isKind
  · rw [readMarks, all]

end

/-! ## What can be read is short -/

theorem digitsValue_lt {cs : List Char} (digits : ∀ c ∈ cs, isAsciiDigit c = true) :
    Decimal.digitsValue cs < 10 ^ cs.length := by
  induction cs with
  | nil => exact Nat.one_pos
  | cons c cs ih =>
    obtain ⟨first, others⟩ := List.forall_mem_cons.mp digits
    have later := ih others
    have digit : Decimal.digitsValue [c] < 10 := by
      have bounds : '0' ≤ c ∧ c ≤ '9' := by simpa [isAsciiDigit] using first
      have above : c.toNat ≤ '9'.toNat := bounds.2
      have value : Decimal.digitsValue [c] = 0 * 10 + (c.toNat - '0'.toNat) := rfl
      have nine : '9'.toNat = 57 := rfl
      have zero : '0'.toNat = 48 := rfl
      omega
    have split : Decimal.digitsValue (c :: cs) =
        Decimal.digitsValue [c] * 10 ^ cs.length + Decimal.digitsValue cs :=
      Decimal.digitsValue_append [c] cs
    rw [split, List.length_cons, Nat.pow_succ]
    nlinarith

theorem isShort_signed (negative : Bool) {whole : List Char}
    (digits : ∀ c ∈ whole, isAsciiDigit c = true) (someDigit : whole ≠ [])
    (within : whole.length ≤ maxIntegerDigits) :
    (Number.int (Decimal.signed negative (Decimal.digitsValue whole))).IsShort := by
  have size : (Decimal.signed negative (Decimal.digitsValue whole)).natAbs =
      Decimal.digitsValue whole := by
    unfold Decimal.signed
    split
    · exact Int.natAbs_neg _
    · rfl
  have fits := (Nat.length_toDigits_le_iff (by decide) (List.length_pos_iff.mpr someDigit)).mpr
    (digitsValue_lt digits)
  rw [Number.IsShort, size]
  exact Nat.le_trans fits within

theorem splitWhole_digits (cs : List Char) :
    ∀ c ∈ (Numeral.splitWhole cs).1, isAsciiDigit c = true := by
  unfold Numeral.splitWhole
  split
  · exact Numeral.zero_areDigits
  · exact List.all_eq_true.mp List.all_takeWhile

theorem isShort_of_numberPart {start rest : List Char} {n : Number}
    (read : numberPart start = .ok (some n, rest)) : n.IsShort := by
  have digits := splitWhole_digits (Numeral.splitSign start).2
  rw [Numeral.numberPart_eq, Numeral.numberOf] at read
  split at read
  · cases read
  · rename_i nonempty
    dsimp only at read
    split at read
    · split at read
      · cases read
      · rename_i within
        cases read
        exact isShort_signed _ digits (by simpa using nonempty) (Nat.le_of_not_lt within)
    · cases read
      exact trivial

theorem isShort_of_readNumber {marks rest : List Mark} {n : Number}
    (read : readNumber marks = .ok (n, rest)) : n.IsShort := by
  unfold readNumber at read
  dsimp only at read
  split at read
  · cases read
  · cases read
  · rename_i found
    cases read
    exact isShort_of_numberPart found

abbrev EveryShort : Json → Prop := Every Number.IsShort fun _ => True

theorem everyShort_words : ∀ word ∈ words, word.2.EveryShort := by
  simp only [words, List.forall_mem_cons]
  exact ⟨trivial, trivial, trivial, trivial, trivial, trivial, nofun⟩

theorem keeps_short : Keeps EveryShort (fun _ => True) fun _ => True where
  tail := fun _ => trivial
  skipSpace := fun _ => trivial
  text := fun _ _ => ⟨trivial, trivial⟩
  number := fun _ read => ⟨isShort_of_readNumber read, trivial⟩
  word := by
    intro marks j rest _ read
    obtain ⟨word, member, found⟩ := List.exists_of_findSome?_eq_some read
    dsimp only at found
    split at found
    · cases found
      exact ⟨everyShort_words _ member, trivial⟩
    · cases found
  str := fun _ => trivial
  arr := everyItem_iff.mpr
  obj := by
    intro members held
    refine everyMember_iff.mpr fun m member => ⟨trivial, ?_⟩
    exact (held m (Assoc.mem_of_mem_settle member)).2

theorem everyShort_of_read {deepest : Nat} {t : Text} {j : Json} (found : read deepest t = .ok j) :
    j.EveryShort :=
  keeps_short.of_read trivial found

end Json

end SpatialQuery
