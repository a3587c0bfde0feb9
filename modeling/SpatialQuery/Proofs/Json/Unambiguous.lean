import SpatialQuery.Proofs.Json.Numerals
import SpatialQuery.Proofs.Json.Writing

/-!
# JSON is unambiguous

No text stands for two values.  What a part writes and where it ends are both known before anything that
can follow it, so two derivations of one text go the same way step by step.
-/

set_option autoImplicit false

namespace SpatialQuery.Json

open Decimal (isAsciiDigit)
open Text (Piece)

/-! ## Numbers -/

namespace Numeral

variable {m n : Numeral}

theorem unsigned_start (proper : n.IsProper) :
    ∃ c rest, n.unsigned = c :: rest ∧ isAsciiDigit c = true := by
  obtain ⟨c, rest, whole⟩ := List.exists_cons_of_ne_nil proper.someDigit
  refine ⟨c, rest ++ (n.fractionChars ++ n.powerChars), by rw [unsigned, whole]; rfl, ?_⟩
  exact proper.digits c (by simp [whole])

theorem all_digits_iff (proper : n.IsProper) :
    n.unsigned.all isAsciiDigit = true ↔ n.fraction.isNone ∧ n.power.isNone := by
  obtain ⟨negative, whole, fraction, power⟩ := n
  have digits : whole.all isAsciiDigit = true := List.all_eq_true.mpr proper.digits
  cases fraction with
  | some places => simp [unsigned, fractionChars, isAsciiDigit]
  | none =>
    cases power with
    | none => simp [unsigned, fractionChars, powerChars, digits]
    | some p =>
      obtain ⟨c, rest, written, notDigit, -⟩ := Power.chars_cons (proper.power p rfl)
      simp [unsigned, fractionChars, powerChars, written, notDigit]

theorem sign_of_chars (properM : m.IsProper) (properN : n.IsProper) (same : m.chars = n.chars) :
    m.negative = n.negative ∧ m.unsigned = n.unsigned := by
  obtain ⟨c, restM, unsignedM, digitM⟩ := unsigned_start properM
  obtain ⟨d, restN, unsignedN, digitN⟩ := unsigned_start properN
  rw [chars_eq, chars_eq] at same
  cases signM : m.negative <;> cases signN : n.negative <;>
    simp only [signM, signN, if_true, if_false, Bool.false_eq_true] at same
  · exact ⟨rfl, same⟩
  · rw [unsignedM] at same
    rw [(List.cons.inj same).1] at digitM
    exact absurd digitM (by decide)
  · rw [unsignedN] at same
    rw [← (List.cons.inj same).1] at digitN
    exact absurd digitN (by decide)
  · exact ⟨rfl, (List.cons.inj same).2⟩

theorem value_of_chars (properM : m.IsProper) (properN : n.IsProper) (same : m.chars = n.chars) :
    m.value = n.value := by
  obtain ⟨signs, unsigned⟩ := sign_of_chars properM properN same
  have sizes : m.size = n.size := by
    have read := ofChars?_unsigned properM
    rw [unsigned, ofChars?_unsigned properN] at read
    exact (Option.some.inj read).symm
  have integers := all_digits_iff properM
  rw [unsigned, all_digits_iff properN] at integers
  by_cases integer : m.fraction.isNone ∧ m.power.isNone
  · have wholes : m.whole = n.whole := by
      obtain ⟨noFractionN, noPowerN⟩ := integers.mpr integer
      obtain ⟨noFractionM, noPowerM⟩ := integer
      rw [Option.isNone_iff_eq_none] at noFractionM noPowerM noFractionN noPowerN
      simpa [Numeral.unsigned, fractionChars, powerChars, noFractionM, noPowerM, noFractionN,
        noPowerN] using unsigned
    rw [value, value, if_pos integer, if_pos (integers.mpr integer), wholes, signs]
  · rw [value, value, if_neg integer, if_neg fun other => integer (integers.mp other), sizes, signs]

theorem isNumberMark_of_mem_chars (proper : n.IsProper) :
    ∀ m ∈ n.chars.map Mark.char, isNumberMark m = true := by
  have digits : ∀ {c}, isAsciiDigit c = true → isNumberMark (.char c) = true := by
    intro c digit
    simp [isNumberMark, digit]
  have power : ∀ c ∈ n.powerChars, isNumberMark (.char c) = true := by
    unfold powerChars
    cases given : n.power with
    | none => exact nofun
    | some p =>
      obtain ⟨isLetter, isSign, areDigits, -⟩ := proper.power p given
      refine List.forall_mem_cons.mpr ⟨?_, List.forall_mem_append.mpr
        ⟨?_, fun c member => digits (areDigits c member)⟩⟩
      · rcases isLetter with letter | letter <;> rw [letter] <;> rfl
      · rcases isSign with sign | sign | sign <;> rw [sign] <;> exact List.all_eq_true.mp rfl
  have fraction : ∀ c ∈ n.fractionChars, isNumberMark (.char c) = true := by
    unfold fractionChars
    cases given : n.fraction with
    | none => exact nofun
    | some places =>
      exact List.forall_mem_cons.mpr
        ⟨rfl, fun c member => digits ((proper.fraction places given).1 c member)⟩
  have unsigned : ∀ c ∈ n.unsigned, isNumberMark (.char c) = true :=
    List.forall_mem_append.mpr ⟨fun c member => digits (proper.digits c member),
      List.forall_mem_append.mpr ⟨fraction, power⟩⟩
  refine List.forall_mem_map.mpr ?_
  rw [chars_eq]
  split
  · exact List.forall_mem_cons.mpr ⟨rfl, unsigned⟩
  · exact unsigned

end Numeral

def StopsNumber (rest : List Mark) : Prop := ∀ m ∈ rest.head?, isNumberMark m = false

theorem takeWhile_numeral {n : Numeral} (proper : n.IsProper) {rest : List Mark}
    (stops : StopsNumber rest) :
    (n.chars.map Mark.char ++ rest).takeWhile isNumberMark = n.chars.map Mark.char := by
  have marks := Numeral.isNumberMark_of_mem_chars proper
  rw [List.takeWhile_append_of_pos marks]
  cases rest with
  | nil => simp
  | cons m rest => simp [stops m rfl]

theorem numeral_cancel {m n : Numeral} (properM : m.IsProper) (properN : n.IsProper)
    {r s : List Mark} (stopsR : StopsNumber r) (stopsS : StopsNumber s)
    (same : m.chars.map Mark.char ++ r = n.chars.map Mark.char ++ s) : m.value = n.value ∧ r = s := by
  have marks : m.chars.map Mark.char = n.chars.map Mark.char := by
    rw [← takeWhile_numeral properM stopsR, same, takeWhile_numeral properN stopsS]
  refine ⟨Numeral.value_of_chars properM properN ?_, ?_⟩
  · exact (List.map_inj_right fun _ _ => Mark.char.inj).mp marks
  · rw [marks] at same
    exact List.append_cancel_left same

/-! ## Strings -/

theorem letterChar?_ne_u {m : Mark} {c : Char} (escape : letterChar? m = some c) :
    m ≠ .char 'u' := by
  rintro rfl
  cases escape

theorem characters_cancel {marks others : List Mark} {pieces otherPieces : List Piece}
    (first : Characters marks pieces) (second : Characters others otherPieces) {r s : List Mark}
    (same : marks ++ .char '"' :: r = others ++ .char '"' :: s) : pieces = otherPieces ∧ r = s := by
  induction first generalizing others otherPieces with
  | nil =>
    cases second with
    | nil => exact ⟨rfl, (List.cons.inj same).2⟩
    | plain _ notQuote _ _ => exact absurd (List.cons.inj same).1.symm notQuote
    | letter _ _ => exact absurd (List.cons.inj same).1 (by decide)
    | unit _ _ => exact absurd (List.cons.inj same).1 (by decide)
  | plain _ notQuote notBackslash _ ih =>
    cases second with
    | nil => exact absurd (List.cons.inj same).1 notQuote
    | plain _ _ _ rest =>
      obtain ⟨rfl, later⟩ := List.cons.inj same
      obtain ⟨rfl, ends⟩ := ih rest later
      exact ⟨rfl, ends⟩
    | letter _ _ => exact absurd (List.cons.inj same).1 notBackslash
    | unit _ _ => exact absurd (List.cons.inj same).1 notBackslash
  | letter escape _ ih =>
    cases second with
    | nil => exact absurd (List.cons.inj same).1 (by decide)
    | plain _ _ notBackslash _ => exact absurd (List.cons.inj same).1.symm notBackslash
    | letter otherEscape rest =>
      obtain ⟨rfl, later⟩ := List.cons.inj (List.cons.inj same).2
      rw [escape] at otherEscape
      cases otherEscape
      obtain ⟨rfl, ends⟩ := ih rest later
      exact ⟨rfl, ends⟩
    | unit _ _ => exact absurd (List.cons.inj (List.cons.inj same).2).1 (letterChar?_ne_u escape)
  | unit digits _ ih =>
    cases second with
    | nil => exact absurd (List.cons.inj same).1 (by decide)
    | plain _ _ notBackslash _ => exact absurd (List.cons.inj same).1.symm notBackslash
    | letter escape _ =>
      exact absurd (List.cons.inj (List.cons.inj same).2).1.symm (letterChar?_ne_u escape)
    | unit otherDigits rest =>
      simp only [List.cons_append, List.cons.injEq, true_and] at same
      obtain ⟨rfl, rfl, rfl, rfl, later⟩ := same
      rw [digits] at otherDigits
      cases otherDigits
      obtain ⟨rfl, ends⟩ := ih rest later
      exact ⟨rfl, ends⟩

theorem quotation_cancel {marks others : List Mark} {t u : Text} (first : Quotation marks t)
    (second : Quotation others u) {r s : List Mark} (same : marks ++ r = others ++ s) :
    t = u ∧ r = s := by
  obtain ⟨characters⟩ := first
  obtain ⟨otherCharacters⟩ := second
  simp only [List.cons_append, List.append_assoc, List.nil_append, List.cons.injEq, true_and] at same
  obtain ⟨rfl, ends⟩ := characters_cancel characters otherCharacters same
  exact ⟨rfl, ends⟩

/-! ## Blanks -/

def StopsBlank (rest : List Mark) : Prop := ∀ m ∈ rest.head?, isSpace m = false

theorem stopsBlank_cons {m : Mark} (stops : isSpace m = false) (rest : List Mark) :
    StopsBlank (m :: rest) := by
  rintro _ ⟨⟩
  exact stops

theorem skipSpace_blank {blank rest : List Mark} (isBlank : IsBlank blank) (stops : StopsBlank rest) :
    skipSpace (blank ++ rest) = rest := by
  rw [skipSpace, List.dropWhile_append_of_pos isBlank]
  cases rest with
  | nil => rfl
  | cons m rest => rw [List.dropWhile_cons_of_neg]; simp [stops m rfl]

theorem blank_cancel {blank other r s : List Mark} (isBlank : IsBlank blank)
    (isBlankOther : IsBlank other) (stopsR : StopsBlank r) (stopsS : StopsBlank s)
    (same : blank ++ r = other ++ s) : r = s := by
  rw [← skipSpace_blank isBlank stopsR, same, skipSpace_blank isBlankOther stopsS]

theorem blank_cancel_cons {blank other r s : List Mark} {m : Mark} (isBlank : IsBlank blank)
    (isBlankOther : IsBlank other) (stops : isSpace m = false)
    (same : blank ++ m :: r = other ++ m :: s) : r = s :=
  (List.cons.inj (blank_cancel isBlank isBlankOther (stopsBlank_cons stops _)
    (stopsBlank_cons stops _) same)).2

theorem not_numberMark_of_space {m : Mark} (space : isSpace m = true) : isNumberMark m = false := by
  cases m with
  | surrogate _ => rfl
  | char c =>
    simp only [isSpace, Bool.or_eq_true, beq_iff_eq] at space
    rcases space with ((rfl | rfl) | rfl) | rfl <;> rfl

theorem Quotation.stopsBlank {marks : List Mark} {t : Text} (quotation : Quotation marks t)
    (rest : List Mark) : StopsBlank (marks ++ rest) := by
  obtain ⟨_⟩ := quotation
  exact stopsBlank_cons rfl _

theorem inner_cancel {opening closing : Mark} {marks others r s : List Mark}
    (same : (opening :: marks ++ [closing]) ++ r = (opening :: others ++ [closing]) ++ s) :
    marks ++ closing :: r = others ++ closing :: s := by
  simpa using same

/-! ## Values -/

theorem Numeral.chars_kind {n : Numeral} (proper : n.IsProper) :
    ∃ c rest, n.chars = c :: rest ∧ kind? c = some .number := by
  obtain ⟨c, rest, unsigned, digit⟩ := unsigned_start proper
  rw [chars_eq]
  split
  · exact ⟨'-', _, rfl, by decide⟩
  · exact ⟨c, rest, unsigned, kind?_digit digit⟩

theorem Spells.kind {j : Json} {marks : List Mark} (spells : Spells (.value j) marks) :
    ∃ c rest, marks = .char c :: rest ∧ kind? c = some j.kind := by
  cases spells with
  | number proper =>
    obtain ⟨c, rest, written, isNumber⟩ := Numeral.chars_kind proper
    exact ⟨c, rest.map .char, by rw [written]; rfl, isNumber⟩
  | string quotation =>
    obtain ⟨_⟩ := quotation
    exact ⟨'"', _, rfl, rfl⟩
  | null | yes | no | emptyArray _ | emptyObject _ | array _ | object _ => exact ⟨_, _, rfl, rfl⟩

theorem kind_unique {j k : Json} {marks others r s : List Mark} (first : Spells (.value j) marks)
    (second : Spells (.value k) others) (same : marks ++ r = others ++ s) : j.kind = k.kind := by
  obtain ⟨c, rest, rfl, kindJ⟩ := first.kind
  obtain ⟨d, others, rfl, kindK⟩ := second.kind
  rw [Mark.char.inj (List.cons.inj same).1, kindK] at kindJ
  exact (Option.some.inj kindJ).symm

theorem stopsBlank_of_kind {c : Char} {kind : Kind} (isKind : kind? c = some kind)
    (rest : List Mark) : StopsBlank (.char c :: rest) := by
  refine stopsBlank_cons ?_ rest
  rw [Bool.eq_false_iff]
  intro space
  simp only [isSpace, Bool.or_eq_true, beq_iff_eq] at space
  rcases space with ((rfl | rfl) | rfl) | rfl <;> cases isKind

theorem Spells.stopsBlank {j : Json} {marks : List Mark} (spells : Spells (.value j) marks)
    (rest : List Mark) : StopsBlank (marks ++ rest) := by
  obtain ⟨c, others, rfl, isKind⟩ := spells.kind
  exact stopsBlank_of_kind isKind _

theorem items_ne_blank {items : List Json} {marks blank r s : List Mark}
    (spells : Spells (.items items) marks) (isBlank : IsBlank blank) :
    marks ++ r ≠ blank ++ .char ']' :: s := by
  have element : ∀ {j : Json} {marks r : List Mark}, Spells (.element j) marks →
      marks ++ r ≠ blank ++ .char ']' :: s := by
    intro j marks r spells same
    cases spells with
    | element isBlankBefore inner _ =>
      rw [List.append_assoc, List.append_assoc] at same
      have later := blank_cancel isBlankBefore isBlank (inner.stopsBlank _)
        (stopsBlank_cons rfl _) same
      obtain ⟨c, rest, rfl, isKind⟩ := inner.kind
      rw [Mark.char.inj (List.cons.inj later).1] at isKind
      cases isKind
  cases spells with
  | lastItem item => exact element item
  | nextItem item _ =>
    rw [List.append_assoc]
    exact element item

theorem members_ne_blank {members : List (Text × Json)} {marks blank r s : List Mark}
    (spells : Spells (.members members) marks) (isBlank : IsBlank blank) :
    marks ++ r ≠ blank ++ .char '\x7d' :: s := by
  have member : ∀ {key : Text} {j : Json} {marks r : List Mark}, Spells (.member key j) marks →
      marks ++ r ≠ blank ++ .char '\x7d' :: s := by
    intro key j marks r spells same
    cases spells with
    | member isBlankBefore quotation _ _ =>
      rw [List.append_assoc, List.append_assoc] at same
      have later := blank_cancel isBlankBefore isBlank (quotation.stopsBlank _)
        (stopsBlank_cons rfl _) same
      obtain ⟨_⟩ := quotation
      exact absurd (List.cons.inj later).1 (by decide)
  cases spells with
  | lastMember first => exact member first
  | nextMember first _ =>
    rw [List.append_assoc]
    exact member first

/-! ## All parts -/

def Part.Alike : Part → Part → Prop
  | .value _, .value _ | .element _, .element _ | .items _, .items _ | .member _ _, .member _ _
  | .members _, .members _ => True
  | _, _ => False

def Part.Ends : Part → List Mark → Prop
  | .value _, rest => StopsNumber rest
  | .element _, rest | .member _ _, rest => StopsNumber rest ∧ StopsBlank rest
  | .items _, rest => ∃ after, rest = .char ']' :: after
  | .members _, rest => ∃ after, rest = .char '\x7d' :: after

theorem stopsNumber_blank {blank rest : List Mark} (isBlank : IsBlank blank)
    (stops : StopsNumber rest) : StopsNumber (blank ++ rest) := by
  cases blank with
  | nil => exact stops
  | cons m blank =>
    rintro _ ⟨⟩
    exact not_numberMark_of_space (isBlank m (by simp))

theorem ends_cons {c : Char} (notNumber : isNumberMark (.char c) = false)
    (notSpace : isSpace (.char c) = false) (rest : List Mark) :
    StopsNumber (.char c :: rest) ∧ StopsBlank (.char c :: rest) := by
  refine ⟨?_, stopsBlank_cons notSpace rest⟩
  rintro _ ⟨⟩
  exact notNumber

theorem ends_nil : StopsNumber [] ∧ StopsBlank [] := ⟨nofun, nofun⟩

/-- The part is known from its marks before anything that can follow it, and so is where it ends. -/
def Part.Known (p : Part) (marks : List Mark) : Prop :=
  ∀ {q : Part} {others r s : List Mark}, Spells q others → p.Alike q → p.Ends r → q.Ends s →
    marks ++ r = others ++ s → p = q ∧ r = s

/-- Only values of the same kind can start alike. -/
theorem known_value {j : Json} {marks : List Mark} (spells : Spells (.value j) marks)
    (known : ∀ {k : Json} {others r s : List Mark}, Spells (.value k) others → j.kind = k.kind →
      StopsNumber r → StopsNumber s → marks ++ r = others ++ s → j = k ∧ r = s) :
    (Part.value j).Known marks := by
  intro q others r s second alike endsR endsS same
  cases q with
  | value k =>
    obtain ⟨rfl, rest⟩ := known second (kind_unique spells second same) endsR endsS same
    exact ⟨rfl, rest⟩
  | _ => cases alike

theorem known_null : (Part.value .null).Known (wordMarks "null") := by
  refine known_value .null fun second kinds _ _ same => ?_
  cases second with
  | null => exact ⟨rfl, List.append_cancel_left same⟩
  | _ => cases kinds

theorem known_yes : (Part.value (.bool true)).Known (wordMarks "true") := by
  refine known_value .yes fun second kinds _ _ same => ?_
  cases second with
  | yes => exact ⟨rfl, List.append_cancel_left same⟩
  | _ => cases kinds

theorem known_no : (Part.value (.bool false)).Known (wordMarks "false") := by
  refine known_value .no fun second kinds _ _ same => ?_
  cases second with
  | no => exact ⟨rfl, List.append_cancel_left same⟩
  | _ => cases kinds

theorem known_number {n : Numeral} (proper : n.IsProper) :
    (Part.value (.num n.value)).Known (n.chars.map .char) := by
  refine known_value (.number proper) fun second kinds endsR endsS same => ?_
  cases second with
  | number otherProper =>
    obtain ⟨values, rest⟩ := numeral_cancel proper otherProper endsR endsS same
    exact ⟨congrArg Json.num values, rest⟩
  | _ => cases kinds

theorem known_string {t : Text} {marks : List Mark} (quotation : Quotation marks t) :
    (Part.value (.str t)).Known marks := by
  refine known_value (.string quotation) fun second kinds _ _ same => ?_
  cases second with
  | string otherQuotation =>
    obtain ⟨rfl, rest⟩ := quotation_cancel quotation otherQuotation same
    exact ⟨rfl, rest⟩
  | _ => cases kinds

theorem known_emptyArray {blank : List Mark} (isBlank : IsBlank blank) :
    (Part.value (.arr [])).Known (.char '[' :: blank ++ [.char ']']) := by
  refine known_value (.emptyArray isBlank) fun second kinds _ _ same => ?_
  cases second with
  | emptyArray isBlankOther =>
    exact ⟨rfl, blank_cancel_cons isBlank isBlankOther rfl (inner_cancel same)⟩
  | array inner => exact absurd (inner_cancel same).symm (items_ne_blank inner isBlank)
  | _ => cases kinds

theorem known_array {items : List Json} {marks : List Mark} (inner : Spells (.items items) marks)
    (known : (Part.items items).Known marks) :
    (Part.value (.arr items)).Known (.char '[' :: marks ++ [.char ']']) := by
  refine known_value (.array inner) fun second kinds _ _ same => ?_
  cases second with
  | emptyArray isBlank => exact absurd (inner_cancel same) (items_ne_blank inner isBlank)
  | array otherInner =>
    obtain ⟨parts, rest⟩ := known otherInner trivial ⟨_, rfl⟩ ⟨_, rfl⟩ (inner_cancel same)
    exact ⟨congrArg Json.arr (Part.items.inj parts), (List.cons.inj rest).2⟩
  | _ => cases kinds

theorem known_emptyObject {blank : List Mark} (isBlank : IsBlank blank) :
    (Part.value (.obj [])).Known (.char '\x7b' :: blank ++ [.char '\x7d']) := by
  refine known_value (.emptyObject isBlank) fun second kinds _ _ same => ?_
  cases second with
  | emptyObject isBlankOther =>
    exact ⟨rfl, blank_cancel_cons isBlank isBlankOther rfl (inner_cancel same)⟩
  | object inner => exact absurd (inner_cancel same).symm (members_ne_blank inner isBlank)
  | _ => cases kinds

theorem known_object {members : List (Text × Json)} {marks : List Mark}
    (inner : Spells (.members members) marks) (known : (Part.members members).Known marks) :
    (Part.value (.obj (Assoc.settle members))).Known (.char '\x7b' :: marks ++ [.char '\x7d']) := by
  refine known_value (.object inner) fun second kinds _ _ same => ?_
  cases second with
  | emptyObject isBlank => exact absurd (inner_cancel same) (members_ne_blank inner isBlank)
  | object otherInner =>
    obtain ⟨parts, rest⟩ := known otherInner trivial ⟨_, rfl⟩ ⟨_, rfl⟩ (inner_cancel same)
    rw [Part.members.inj parts]
    exact ⟨rfl, (List.cons.inj rest).2⟩
  | _ => cases kinds

theorem known_element {j : Json} {before marks after : List Mark} (isBlankBefore : IsBlank before)
    (inner : Spells (.value j) marks) (isBlankAfter : IsBlank after)
    (known : (Part.value j).Known marks) :
    (Part.element j).Known (before ++ (marks ++ after)) := by
  intro q others r s second alike endsR endsS same
  cases second with
  | element isBlankOther otherInner isBlankLater =>
    simp only [List.append_assoc] at same
    have value := blank_cancel isBlankBefore isBlankOther (inner.stopsBlank _)
      (otherInner.stopsBlank _) same
    obtain ⟨values, rest⟩ := known otherInner trivial (stopsNumber_blank isBlankAfter endsR.1)
      (stopsNumber_blank isBlankLater endsS.1) value
    rw [Part.value.inj values]
    exact ⟨rfl, blank_cancel isBlankAfter isBlankLater endsR.2 endsS.2 rest⟩
  | _ => cases alike

section

variable {j : Json} {items : List Json} {marks rest : List Mark}
  (known : (Part.element j).Known marks)

include known

theorem known_lastItem : (Part.items [j]).Known marks := by
  rintro q others _ s second alike ⟨afterR, rfl⟩ endsS same
  cases second with
  | lastItem otherItem =>
    obtain ⟨afterS, rfl⟩ := endsS
    obtain ⟨elements, rest⟩ :=
      known otherItem trivial (ends_cons rfl rfl _) (ends_cons rfl rfl _) same
    rw [Part.element.inj elements]
    exact ⟨rfl, rest⟩
  | nextItem otherItem _ =>
    rw [List.append_assoc] at same
    obtain ⟨_, rest⟩ := known otherItem trivial (ends_cons rfl rfl _) (ends_cons rfl rfl _) same
    exact absurd (List.cons.inj rest).1 (by decide)
  | _ => cases alike

theorem known_nextItem (later : (Part.items items).Known rest) :
    (Part.items (j :: items)).Known (marks ++ .char ',' :: rest) := by
  intro q others r s second alike endsR endsS same
  rw [List.append_assoc] at same
  cases second with
  | lastItem otherItem =>
    obtain ⟨afterS, rfl⟩ := endsS
    obtain ⟨_, rest⟩ := known otherItem trivial (ends_cons rfl rfl _) (ends_cons rfl rfl _) same
    exact absurd (List.cons.inj rest).1 (by decide)
  | nextItem otherItem otherLater =>
    rw [List.append_assoc] at same
    obtain ⟨elements, others⟩ :=
      known otherItem trivial (ends_cons rfl rfl _) (ends_cons rfl rfl _) same
    obtain ⟨parts, ends⟩ := later otherLater trivial endsR endsS (List.cons.inj others).2
    rw [Part.element.inj elements, Part.items.inj parts]
    exact ⟨rfl, ends⟩
  | _ => cases alike

end

theorem known_member {key : Text} {j : Json} {before keyMarks after marks : List Mark}
    (isBlankBefore : IsBlank before) (quotation : Quotation keyMarks key)
    (isBlankAfter : IsBlank after) (known : (Part.element j).Known marks) :
    (Part.member key j).Known (before ++ (keyMarks ++ (after ++ .char ':' :: marks))) := by
  intro q others r s second alike endsR endsS same
  cases second with
  | member isBlankOther otherQuotation isBlankLater otherInner =>
    simp only [List.append_assoc, List.cons_append] at same
    have member := blank_cancel isBlankBefore isBlankOther (quotation.stopsBlank _)
      (otherQuotation.stopsBlank _) same
    obtain ⟨rfl, colon⟩ := quotation_cancel quotation otherQuotation member
    have value := blank_cancel_cons isBlankAfter isBlankLater rfl colon
    obtain ⟨elements, rest⟩ := known otherInner trivial endsR endsS value
    rw [Part.element.inj elements]
    exact ⟨rfl, rest⟩
  | _ => cases alike

section

variable {key : Text} {j : Json} {members : List (Text × Json)} {marks rest : List Mark}
  (known : (Part.member key j).Known marks)

include known

theorem known_lastMember : (Part.members [(key, j)]).Known marks := by
  rintro q others _ s second alike ⟨afterR, rfl⟩ endsS same
  cases second with
  | lastMember otherMember =>
    obtain ⟨afterS, rfl⟩ := endsS
    obtain ⟨parts, rest⟩ :=
      known otherMember trivial (ends_cons rfl rfl _) (ends_cons rfl rfl _) same
    cases parts
    exact ⟨rfl, rest⟩
  | nextMember otherMember _ =>
    rw [List.append_assoc] at same
    obtain ⟨_, rest⟩ := known otherMember trivial (ends_cons rfl rfl _) (ends_cons rfl rfl _) same
    exact absurd (List.cons.inj rest).1 (by decide)
  | _ => cases alike

theorem known_nextMember (later : (Part.members members).Known rest) :
    (Part.members ((key, j) :: members)).Known (marks ++ .char ',' :: rest) := by
  intro q others r s second alike endsR endsS same
  rw [List.append_assoc] at same
  cases second with
  | lastMember otherMember =>
    obtain ⟨afterS, rfl⟩ := endsS
    obtain ⟨_, rest⟩ := known otherMember trivial (ends_cons rfl rfl _) (ends_cons rfl rfl _) same
    exact absurd (List.cons.inj rest).1 (by decide)
  | nextMember otherMember otherLater =>
    rw [List.append_assoc] at same
    obtain ⟨parts, others⟩ :=
      known otherMember trivial (ends_cons rfl rfl _) (ends_cons rfl rfl _) same
    obtain ⟨laterParts, ends⟩ := later otherLater trivial endsR endsS (List.cons.inj others).2
    cases parts
    rw [Part.members.inj laterParts]
    exact ⟨rfl, ends⟩
  | _ => cases alike

end

theorem Spells.known {p : Part} {marks : List Mark} (spells : Spells p marks) : p.Known marks := by
  induction spells with
  | null => exact known_null
  | yes => exact known_yes
  | no => exact known_no
  | number proper => exact known_number proper
  | string quotation => exact known_string quotation
  | emptyArray isBlank => exact known_emptyArray isBlank
  | array inner ih => exact known_array inner ih
  | emptyObject isBlank => exact known_emptyObject isBlank
  | object inner ih => exact known_object inner ih
  | element isBlankBefore inner isBlankAfter ih =>
    exact known_element isBlankBefore inner isBlankAfter ih
  | lastItem _ ih => exact known_lastItem ih
  | nextItem _ _ ihItem ihOthers => exact known_nextItem ihItem ihOthers
  | member isBlankBefore quotation isBlankAfter _ ih =>
    exact known_member isBlankBefore quotation isBlankAfter ih
  | lastMember _ ih => exact known_lastMember ih
  | nextMember _ _ ihMember ihOthers => exact known_nextMember ihMember ihOthers

/-- A text stands for one value. -/
theorem Denotes.unique {t : Text} {j k : Json} (first : Denotes t j) (second : Denotes t k) :
    j = k := by
  obtain ⟨elements, -⟩ := first.known second trivial ends_nil ends_nil rfl
  exact Part.element.inj elements

end SpatialQuery.Json
