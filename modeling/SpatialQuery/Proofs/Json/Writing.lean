import SpatialQuery.Json.Printer
import SpatialQuery.Proofs.Decimal.Distinct
import SpatialQuery.Proofs.Json.Every
import SpatialQuery.Proofs.Text.Units

/-!
# Written values are known from their texts

One-line JSON texts are unambiguous.  The first character of a value tells its kind; strings and numbers
end where no further unit or digit can follow; and commas and closing brackets tell how many items there
are.  Only the halves of a pair are lost: escapes write them as the character that they would make.
-/

set_option autoImplicit false

namespace SpatialQuery.Json

/-! ## Strings -/

def shortCode (letter : Char) : Nat :=
  if letter = 'n' then 0x0A
  else if letter = 'r' then 0x0D
  else if letter = 't' then 0x09
  else if letter = 'f' then 0x0C
  else if letter = 'b' then 0x08
  else letter.toNat

theorem shortCode_of_shortEscape? {n : Nat} {letter : Char} (short : shortEscape? n = some letter) :
    n = shortCode letter ∧ letter ≠ 'u' := by
  unfold shortEscape? at short
  repeat' split at short
  all_goals cases short
  all_goals exact ⟨by assumption, by decide⟩

theorem digitChar_injective {a b : Nat} (ha : a < 16) (hb : b < 16)
    (same : Nat.digitChar a = Nat.digitChar b) : a = b := by
  have all : ∀ a < 16, ∀ b < 16, Nat.digitChar a = Nat.digitChar b → a = b := by decide
  exact all a ha b hb same

theorem unicodeEscape_cancel {m n : Nat} (hm : m < 0x10000) (hn : n < 0x10000) {r s : List Char}
    (same : unicodeEscape m ++ r = unicodeEscape n ++ s) : m = n ∧ r = s := by
  simp only [unicodeEscape, Text.hexDigits, List.cons_append, List.nil_append, List.cons.injEq,
    true_and, Nat.pow_eq] at same
  obtain ⟨first, second, third, fourth, rest⟩ := same
  have a := digitChar_injective (Nat.mod_lt _ (by decide)) (Nat.mod_lt _ (by decide)) first
  have b := digitChar_injective (Nat.mod_lt _ (by decide)) (Nat.mod_lt _ (by decide)) second
  have c := digitChar_injective (Nat.mod_lt _ (by decide)) (Nat.mod_lt _ (by decide)) third
  have d := digitChar_injective (Nat.mod_lt _ (by decide)) (Nat.mod_lt _ (by decide)) fourth
  exact ⟨by omega, rest⟩

theorem toNat_ofNat {n : Nat} (plain : n < 0x7F) : (Char.ofNat n).toNat = n := by
  have valid : n.isValidChar := Or.inl (by omega)
  rw [Char.ofNat, dif_pos valid]
  rfl

theorem plain_ne_backslash {n : Nat} (plain : n < 0x7F) (unescaped : shortEscape? n = none) :
    Char.ofNat n ≠ '\\' ∧ Char.ofNat n ≠ '"' := by
  have code := toNat_ofNat plain
  constructor
  · intro same
    rw [same] at code
    rw [← code] at unescaped
    exact absurd unescaped (by decide)
  · intro same
    rw [same] at code
    rw [← code] at unescaped
    exact absurd unescaped (by decide)

theorem unitChars_cases (u : UInt16) :
    (∃ letter, shortEscape? u.toNat = some letter ∧ unitChars u = ['\\', letter]) ∨
    (u.toNat < 0x7F ∧ shortEscape? u.toNat = none ∧ unitChars u = [Char.ofNat u.toNat]) ∨
    unitChars u = unicodeEscape u.toNat := by
  unfold unitChars
  cases short : shortEscape? u.toNat with
  | some letter => exact Or.inl ⟨letter, rfl, rfl⟩
  | none =>
    by_cases plain : 0x20 ≤ u.toNat ∧ u.toNat < 0x7F
    · exact Or.inr (Or.inl ⟨plain.2, rfl, if_pos plain⟩)
    · exact Or.inr (Or.inr (if_neg plain))

theorem unitChars_ne_quote (u : UInt16) (r s : List Char) : unitChars u ++ r ≠ '"' :: s := by
  intro same
  rcases unitChars_cases u with ⟨letter, _, written⟩ | ⟨plain, unescaped, written⟩ | written
  · rw [written] at same
    exact absurd (List.cons.inj same).1 (by decide)
  · rw [written] at same
    exact (plain_ne_backslash plain unescaped).2 (List.cons.inj same).1
  · rw [written] at same
    exact absurd (List.cons.inj same).1 (by decide)

theorem unitChars_cancel {u v : UInt16} {r s : List Char}
    (same : unitChars u ++ r = unitChars v ++ s) : u = v ∧ r = s := by
  rcases unitChars_cases u with ⟨a, shortU, writtenU⟩ | ⟨plainU, unescapedU, writtenU⟩ | writtenU <;>
    rcases unitChars_cases v with ⟨b, shortV, writtenV⟩ | ⟨plainV, unescapedV, writtenV⟩ | writtenV <;>
    rw [writtenU, writtenV] at same
  · obtain ⟨letters, rest⟩ := List.cons.inj (List.cons.inj same).2
    rw [← letters] at shortV
    have codes := (shortCode_of_shortEscape? shortU).1.trans (shortCode_of_shortEscape? shortV).1.symm
    exact ⟨UInt16.toNat_inj.mp codes, rest⟩
  · exact absurd (List.cons.inj same).1.symm (plain_ne_backslash plainV unescapedV).1
  · exact absurd (List.cons.inj (List.cons.inj same).2).1 (shortCode_of_shortEscape? shortU).2
  · exact absurd (List.cons.inj same).1 (plain_ne_backslash plainU unescapedU).1
  · obtain ⟨characters, rest⟩ := List.cons.inj same
    have codes := congrArg Char.toNat characters
    rw [toNat_ofNat plainU, toNat_ofNat plainV] at codes
    exact ⟨UInt16.toNat_inj.mp codes, rest⟩
  · exact absurd (List.cons.inj same).1 (plain_ne_backslash plainU unescapedU).1
  · exact absurd (List.cons.inj (List.cons.inj same).2).1.symm (shortCode_of_shortEscape? shortV).2
  · exact absurd (List.cons.inj same).1.symm (plain_ne_backslash plainV unescapedV).1
  · obtain ⟨codes, rest⟩ := unicodeEscape_cancel u.toNat_lt v.toNat_lt same
    exact ⟨UInt16.toNat_inj.mp codes, rest⟩

theorem units_cancel {us vs : List UInt16} {r s : List Char}
    (same : us.flatMap unitChars ++ '"' :: r = vs.flatMap unitChars ++ '"' :: s) :
    us = vs ∧ r = s := by
  induction us generalizing vs with
  | nil =>
    cases vs with
    | nil => exact ⟨rfl, (List.cons.inj same).2⟩
    | cons v vs =>
      rw [List.flatMap_cons, List.append_assoc] at same
      exact absurd same.symm (unitChars_ne_quote v _ _)
  | cons u us ih =>
    cases vs with
    | nil =>
      rw [List.flatMap_cons, List.append_assoc] at same
      exact absurd same (unitChars_ne_quote u _ _)
    | cons v vs =>
      rw [List.flatMap_cons, List.flatMap_cons, List.append_assoc, List.append_assoc] at same
      obtain ⟨rfl, others⟩ := unitChars_cancel same
      obtain ⟨rfl, rest⟩ := ih others
      exact ⟨rfl, rest⟩

theorem quoted_cancel {t u : Text} (wholeT : t.IsWhole) (wholeU : u.IsWhole) {r s : List Char}
    (same : quoted t ++ r = quoted u ++ s) : t = u ∧ r = s := by
  simp only [quoted, List.cons_append, List.append_assoc, List.nil_append] at same
  obtain ⟨units, rest⟩ := units_cancel (List.cons.inj same).2
  exact ⟨Text.eq_of_units wholeT wholeU units, rest⟩

/-! ## Numbers -/

def isNumeralMark (c : Char) : Bool :=
  Decimal.isNumeral c || ['N', 'I', 't', 'y'].contains c

theorem isNumeralMark_numberChars (n : Number) : ∀ c ∈ numberChars n, isNumeralMark c = true := by
  have numeral : ∀ c, Decimal.isNumeral c = true → isNumeralMark c = true := by
    intro c isNumeral
    simp [isNumeralMark, isNumeral]
  cases n with
  | int n => exact fun c member => numeral c (Number.isNumeral_of_mem_intChars n c member)
  | real x =>
    have names : (Decimal.jsonLayout.notANumber.toList ++
        Decimal.jsonLayout.infinity.toList).all isNumeralMark = true := by decide
    rw [List.all_append, Bool.and_eq_true, List.all_eq_true, List.all_eq_true] at names
    have body : ∀ c ∈ Decimal.jsonLayout.body x, isNumeralMark c = true := by
      unfold Decimal.Layout.body
      split
      · exact names.2
      · split
        · exact List.all_eq_true.mp (by decide)
        · exact fun c member => numeral c (Decimal.isNumeral_of_mem_layOut _ c member)
    rw [numberChars, Number.chars, Decimal.Layout.chars_eq]
    split
    · exact names.1
    · split
      · exact List.forall_mem_cons.mpr ⟨by decide, body⟩
      · exact body

def EndsNumber (rest : List Char) : Prop := ∀ c ∈ rest.head?, isNumeralMark c = false

theorem endsNumber_cons {c : Char} (ends : isNumeralMark c = false) (rest : List Char) :
    EndsNumber (c :: rest) := by
  rintro _ ⟨⟩
  exact ends

theorem takeWhile_number {digits rest : List Char} (all : ∀ c ∈ digits, isNumeralMark c = true)
    (ends : EndsNumber rest) : (digits ++ rest).takeWhile isNumeralMark = digits := by
  cases rest with
  | nil => rw [List.append_nil, Decimal.takeWhile_all all]
  | cons c rest => exact Decimal.takeWhile_stop all c (ends c rfl)

theorem number_cancel {m n : Number} {r s : List Char} (endsR : EndsNumber r) (endsS : EndsNumber s)
    (same : numberChars m ++ r = numberChars n ++ s) : m = n ∧ r = s := by
  have texts : numberChars m = numberChars n := by
    rw [← takeWhile_number (isNumeralMark_numberChars m) endsR, same,
      takeWhile_number (isNumeralMark_numberChars n) endsS]
  rw [texts] at same
  exact ⟨Number.chars_injective Decimal.jsonLayout_isTelling texts, List.append_cancel_left same⟩

/-! ## Values -/

inductive Kind where
  | null | yes | no | number | string | array | object
deriving DecidableEq

def kind : Json → Kind
  | .null => .null
  | .bool true => .yes
  | .bool false => .no
  | .num _ => .number
  | .str _ => .string
  | .arr _ => .array
  | .obj _ => .object

def kind? (c : Char) : Option Kind :=
  if c = 'n' then some .null
  else if c = 't' then some .yes
  else if c = 'f' then some .no
  else if c = '"' then some .string
  else if c = '[' then some .array
  else if c = '\x7b' then some .object
  else if c.isDigit ∨ c = '-' ∨ c = 'N' ∨ c = 'I' then some .number
  else none

theorem kind?_digit {c : Char} (digit : c.isDigit = true) : kind? c = some .number := by
  have other : ∀ d, d.isDigit = false → c ≠ d := fun d notDigit same => by
    rw [same, notDigit] at digit
    cases digit
  simp only [kind?, digit, true_or, if_true, other 'n' rfl, other 't' rfl, other 'f' rfl,
    other '"' rfl, other '[' rfl, other '\x7b' rfl, if_false]

def StartsWithDigit (cs : List Char) : Prop := ∃ c rest, cs = c :: rest ∧ c.isDigit = true

theorem digitChars_start (n : Nat) : StartsWithDigit (Decimal.digitChars n) := by
  obtain ⟨c, rest, written⟩ := List.exists_cons_of_ne_nil (Decimal.digitChars_ne_nil n)
  have member : c ∈ Decimal.digitChars n := by simp [written]
  exact ⟨c, rest, written, Decimal.isDigit_of_mem_digitChars member⟩

theorem positional_start {digits : List Char} (start : StartsWithDigit digits) (leading : Int) :
    StartsWithDigit (Decimal.positional digits leading) := by
  obtain ⟨c, rest, rfl, digit⟩ := start
  unfold Decimal.positional
  split
  · exact ⟨'0', _, rfl, rfl⟩
  · dsimp only
    split
    · exact ⟨c, _, rfl, digit⟩
    · exact ⟨c, _, rfl, digit⟩

theorem scientific_start {digits : List Char} (start : StartsWithDigit digits) (leading : Int) :
    StartsWithDigit (Decimal.scientific digits leading) := by
  obtain ⟨c, rest, rfl, digit⟩ := start
  cases rest with
  | nil => exact ⟨c, _, rfl, digit⟩
  | cons next rest => exact ⟨c, _, rfl, digit⟩

theorem layOut_start (d : Decimal.Scaled) : StartsWithDigit (Decimal.layOut d) := by
  unfold Decimal.layOut
  dsimp only
  split
  · exact positional_start (digitChars_start _) _
  · exact scientific_start (digitChars_start _) _

theorem numberChars_kind (n : Number) :
    ∃ c rest, numberChars n = c :: rest ∧ kind? c = some .number := by
  have digits : ∀ {cs}, StartsWithDigit cs → ∃ c rest, cs = c :: rest ∧ kind? c = some .number := by
    rintro _ ⟨c, rest, rfl, digit⟩
    exact ⟨c, rest, rfl, kind?_digit digit⟩
  cases n with
  | int n =>
    rw [numberChars, Number.chars, Number.intChars]
    split
    · exact ⟨'-', _, rfl, by decide⟩
    · exact digits (digitChars_start _)
  | real x =>
    rw [numberChars, Number.chars, Decimal.Layout.chars_eq]
    split
    · exact ⟨'N', _, rfl, by decide⟩
    · split
      · exact ⟨'-', _, rfl, by decide⟩
      · unfold Decimal.Layout.body
        split
        · exact ⟨'I', _, rfl, by decide⟩
        · split
          · exact ⟨'0', _, rfl, by decide⟩
          · exact digits (layOut_start _)

theorem chars_kind (style : Style) (j : Json) :
    ∃ c rest, style.chars j = c :: rest ∧ kind? c = some j.kind := by
  cases j with
  | null => exact ⟨_, _, rfl, by decide⟩
  | bool b => cases b <;> exact ⟨_, _, rfl, by decide⟩
  | num n => exact numberChars_kind n
  | str t => exact ⟨'"', _, rfl, rfl⟩
  | arr items => exact ⟨'[', _, rfl, rfl⟩
  | obj members => exact ⟨'\x7b', _, rfl, rfl⟩

theorem kind_eq (style : Style) {j k : Json} {r s : List Char}
    (same : style.chars j ++ r = style.chars k ++ s) : j.kind = k.kind := by
  obtain ⟨c, rest, writtenJ, kindJ⟩ := chars_kind style j
  obtain ⟨d, others, writtenK, kindK⟩ := chars_kind style k
  rw [writtenJ, writtenK] at same
  rw [(List.cons.inj same).1, kindK] at kindJ
  exact (Option.some.inj kindJ).symm

theorem chars_ne_cons (style : Style) (j : Json) {c : Char} (closing : kind? c = none)
    (r s : List Char) : style.chars j ++ r ≠ c :: s := by
  intro same
  obtain ⟨d, rest, written, isKind⟩ := chars_kind style j
  rw [written] at same
  rw [(List.cons.inj same).1, closing] at isKind
  cases isKind

/-- No text in the value has the halves of a pair for neighbours. -/
abbrev IsWhole : Json → Prop := Every (fun _ => True) Text.IsWhole

abbrev AreWhole : List Json → Prop := EveryItem (fun _ => True) Text.IsWhole

abbrev MembersAreWhole : List (Text × Json) → Prop := EveryMember (fun _ => True) Text.IsWhole

def Style.afterItem (style : Style) : List Json → List Char
  | [] => [']']
  | next :: rest => ',' :: style.afterComma ++ style.itemChars (next :: rest)

theorem itemChars_cons (style : Style) (j : Json) (rest : List Json) :
    style.itemChars (j :: rest) = style.chars j ++ style.afterItem rest := by
  cases rest <;> simp [Style.itemChars, Style.afterItem]

def Style.afterMember (style : Style) : List (Text × Json) → List Char
  | [] => ['\x7d']
  | next :: rest => ',' :: style.afterComma ++ style.memberChars (next :: rest)

theorem memberChars_cons (style : Style) (key : Text) (j : Json) (rest : List (Text × Json)) :
    style.memberChars ((key, j) :: rest) =
      quoted key ++ (':' :: style.afterColon ++ (style.chars j ++ style.afterMember rest)) := by
  cases rest <;> simp [Style.memberChars, Style.afterMember]

theorem endsNumber_afterItem (style : Style) (items : List Json) (r : List Char) :
    EndsNumber (style.afterItem items ++ r) := by
  cases items <;> exact endsNumber_cons (by decide) _

theorem endsNumber_afterMember (style : Style) (members : List (Text × Json)) (r : List Char) :
    EndsNumber (style.afterMember members ++ r) := by
  cases members <;> exact endsNumber_cons (by decide) _

mutual

theorem chars_cancel (style : Style) : ∀ (j k : Json) {r s : List Char}, j.IsWhole → k.IsWhole →
    EndsNumber r → EndsNumber s → style.chars j ++ r = style.chars k ++ s → j = k ∧ r = s
  | .null, k, r, s, _, _, _, _, same => by
    cases k with
    | null => exact ⟨rfl, List.append_cancel_left same⟩
    | bool b => cases b <;> cases kind_eq style same
    | _ => cases kind_eq style same
  | .bool a, k, r, s, _, _, _, _, same => by
    cases k with
    | bool b =>
      cases a <;> cases b
      · exact ⟨rfl, List.append_cancel_left same⟩
      · cases kind_eq style same
      · cases kind_eq style same
      · exact ⟨rfl, List.append_cancel_left same⟩
    | _ => cases a <;> cases kind_eq style same
  | .num m, k, r, s, _, _, endsR, endsS, same => by
    cases k with
    | num n =>
      obtain ⟨rfl, rest⟩ := number_cancel endsR endsS same
      exact ⟨rfl, rest⟩
    | bool b => cases b <;> cases kind_eq style same
    | _ => cases kind_eq style same
  | .str t, k, r, s, wholeJ, wholeK, _, _, same => by
    cases k with
    | str u =>
      obtain ⟨rfl, rest⟩ := quoted_cancel wholeJ wholeK same
      exact ⟨rfl, rest⟩
    | bool b => cases b <;> cases kind_eq style same
    | _ => cases kind_eq style same
  | .arr items, k, r, s, wholeJ, wholeK, _, _, same => by
    cases k with
    | arr others =>
      obtain ⟨rfl, rest⟩ := items_cancel style items others wholeJ wholeK (List.cons.inj same).2
      exact ⟨rfl, rest⟩
    | bool b => cases b <;> cases kind_eq style same
    | _ => cases kind_eq style same
  | .obj members, k, r, s, wholeJ, wholeK, _, _, same => by
    cases k with
    | obj others =>
      obtain ⟨rfl, rest⟩ := members_cancel style members others wholeJ wholeK (List.cons.inj same).2
      exact ⟨rfl, rest⟩
    | bool b => cases b <;> cases kind_eq style same
    | _ => cases kind_eq style same

theorem items_cancel (style : Style) : ∀ (items others : List Json) {r s : List Char},
    AreWhole items → AreWhole others →
      style.itemChars items ++ r = style.itemChars others ++ s → items = others ∧ r = s
  | [], others, r, s, _, _, same => by
    cases others with
    | nil => exact ⟨rfl, (List.cons.inj same).2⟩
    | cons k ks =>
      rw [itemChars_cons, List.append_assoc] at same
      exact absurd same.symm (chars_ne_cons style k (by decide) _ _)
  | j :: js, others, r, s, wholeItems, wholeOthers, same => by
    cases others with
    | nil =>
      rw [itemChars_cons, List.append_assoc] at same
      exact absurd same (chars_ne_cons style j (by decide) _ _)
    | cons k ks =>
      rw [itemChars_cons, itemChars_cons, List.append_assoc, List.append_assoc] at same
      obtain ⟨rfl, after⟩ := chars_cancel style j k wholeItems.1 wholeOthers.1
        (endsNumber_afterItem style js r) (endsNumber_afterItem style ks s) same
      cases js with
      | nil =>
        cases ks with
        | nil => exact ⟨rfl, (List.cons.inj after).2⟩
        | cons _ _ => exact absurd (List.cons.inj after).1 (by decide)
      | cons j' js =>
        cases ks with
        | nil => exact absurd (List.cons.inj after).1 (by decide)
        | cons k' ks =>
          rw [Style.afterItem, Style.afterItem, List.append_assoc, List.append_assoc] at after
          obtain ⟨later, rest⟩ := items_cancel style (j' :: js) (k' :: ks) wholeItems.2 wholeOthers.2
            (List.append_cancel_left after)
          exact ⟨congrArg _ later, rest⟩

theorem members_cancel (style : Style) : ∀ (members others : List (Text × Json)) {r s : List Char},
    MembersAreWhole members → MembersAreWhole others →
      style.memberChars members ++ r = style.memberChars others ++ s → members = others ∧ r = s
  | [], others, r, s, _, _, same => by
    cases others with
    | nil => exact ⟨rfl, (List.cons.inj same).2⟩
    | cons k ks =>
      rw [memberChars_cons] at same
      exact absurd (List.cons.inj same).1 (by decide)
  | (key, j) :: js, others, r, s, wholeMembers, wholeOthers, same => by
    cases others with
    | nil =>
      rw [memberChars_cons] at same
      exact absurd (List.cons.inj same).1 (by decide)
    | cons m ks =>
      obtain ⟨other, k⟩ := m
      simp only [memberChars_cons, List.append_assoc] at same
      obtain ⟨rfl, afterKey⟩ := quoted_cancel wholeMembers.1 wholeOthers.1 same
      obtain ⟨rfl, after⟩ := chars_cancel style j k wholeMembers.2.1 wholeOthers.2.1
        (endsNumber_afterMember style js r) (endsNumber_afterMember style ks s)
        (List.append_cancel_left afterKey)
      cases js with
      | nil =>
        cases ks with
        | nil => exact ⟨rfl, (List.cons.inj after).2⟩
        | cons _ _ => exact absurd (List.cons.inj after).1 (by decide)
      | cons j' js =>
        cases ks with
        | nil => exact absurd (List.cons.inj after).1 (by decide)
        | cons k' ks =>
          rw [Style.afterMember, Style.afterMember, List.append_assoc, List.append_assoc] at after
          obtain ⟨later, rest⟩ := members_cancel style (j' :: js) (k' :: ks) wholeMembers.2.2
            wholeOthers.2.2 (List.append_cancel_left after)
          exact ⟨congrArg _ later, rest⟩

end

end SpatialQuery.Json
