import SpatialQuery.Chat.ObjectText
import SpatialQuery.Proofs.Json.Outside
import SpatialQuery.Proofs.Json.Printed

/-!
# An object is found whole

Of JSON the scan for an object knows only strings and braces.  That is enough for it to go over every part
of a text of JSON and to be as deep behind it as before it, so the brace that takes the depth back to zero
is the one that ends the object.
-/

set_option autoImplicit false

namespace SpatialQuery.Chat

open Json (Characters IsBlank Numeral Part Quotation Spells isSpace)

/-- The scan goes over the marks inside of an object, and it is neither deeper nor in a string behind them. -/
def ArePassed (marks : List Mark) : Prop :=
  ∀ depth rest, 0 < depth →
    upToClosing depth .outside (marks ++ rest) = (upToClosing depth .outside rest).map (marks ++ ·)

def IsNeutral (m : Mark) : Prop := m ≠ .char '"' ∧ m ≠ .char '\x7b' ∧ m ≠ .char '\x7d'

instance (m : Mark) : Decidable (IsNeutral m) := inferInstanceAs (Decidable (_ ∧ _ ∧ _))

theorem upToClosing_neutral {m : Mark} (neutral : IsNeutral m) (depth : Nat) (rest : List Mark) :
    upToClosing depth .outside (m :: rest) = (upToClosing depth .outside rest).map (m :: ·) := by
  obtain ⟨notQuote, notOpening, notClosing⟩ := neutral
  rw [upToClosing, if_neg notQuote, if_neg notOpening, if_neg notClosing]

theorem upToClosing_opening (depth : Nat) (rest : List Mark) :
    upToClosing depth .outside (.char '\x7b' :: rest) =
      (upToClosing (depth + 1) .outside rest).map (.char '\x7b' :: ·) := rfl

theorem upToClosing_closing (depth : Nat) (rest : List Mark) :
    upToClosing depth .outside (.char '\x7d' :: rest) =
      if depth ≤ 1 then some [.char '\x7d']
      else (upToClosing (depth - 1) .outside rest).map (.char '\x7d' :: ·) := rfl

theorem map_prepend (before marks : List Mark) (scanned : Option (List Mark)) :
    (scanned.map (marks ++ ·)).map (before ++ ·) = scanned.map (before ++ marks ++ ·) := by
  cases scanned <;> simp

theorem arePassed_nil : ArePassed [] := by
  intro depth rest _
  simp

theorem ArePassed.append {before after : List Mark} (first : ArePassed before)
    (second : ArePassed after) : ArePassed (before ++ after) := by
  intro depth rest inside
  rw [List.append_assoc, first depth _ inside, second depth _ inside, map_prepend]

theorem ArePassed.cons {m : Mark} {marks : List Mark} (neutral : IsNeutral m)
    (others : ArePassed marks) : ArePassed (m :: marks) := by
  intro depth rest inside
  rw [List.cons_append, upToClosing_neutral neutral, others depth rest inside]
  exact map_prepend [m] marks _

theorem arePassed_of_neutral {marks : List Mark} (neutral : ∀ m ∈ marks, IsNeutral m) :
    ArePassed marks := by
  induction marks with
  | nil => exact arePassed_nil
  | cons m marks ih =>
    obtain ⟨first, others⟩ := List.forall_mem_cons.mp neutral
    exact .cons first (ih others)

/-! ## Strings -/

theorem upToClosing_within {m : Mark} (notQuote : m ≠ .char '"') (notBackslash : m ≠ .char '\\')
    (depth : Nat) (rest : List Mark) :
    upToClosing depth .inString (m :: rest) = (upToClosing depth .inString rest).map (m :: ·) := by
  rw [upToClosing, if_neg notBackslash, if_neg notQuote]

/-- A backslash takes the next mark along, whatever it is. -/
theorem upToClosing_escape (m : Mark) (depth : Nat) (rest : List Mark) :
    upToClosing depth .inString (.char '\\' :: m :: rest) =
      (upToClosing depth .inString rest).map ([.char '\\', m] ++ ·) :=
  map_prepend [.char '\\'] [m] _

theorem upToClosing_plain {marks : List Mark}
    (plain : ∀ m ∈ marks, m ≠ .char '"' ∧ m ≠ .char '\\') (depth : Nat) (rest : List Mark) :
    upToClosing depth .inString (marks ++ rest) =
      (upToClosing depth .inString rest).map (marks ++ ·) := by
  induction marks with
  | nil => simp
  | cons m marks ih =>
    obtain ⟨first, others⟩ := List.forall_mem_cons.mp plain
    rw [List.cons_append, upToClosing_within first.1 first.2, ih others]
    exact map_prepend [m] marks _

theorem upToClosing_characters {marks : List Mark} {pieces : List Text.Piece}
    (characters : Characters marks pieces) (depth : Nat) (rest : List Mark) :
    upToClosing depth .inString (marks ++ .char '"' :: rest) =
      (upToClosing depth .outside rest).map (marks ++ [.char '"'] ++ ·) := by
  induction characters with
  | nil => rfl
  | @plain m marks _ _ notQuote notBackslash _ ih =>
    rw [List.cons_append, upToClosing_within notQuote notBackslash, ih]
    exact map_prepend [m] (marks ++ [.char '"']) _
  | @letter m _ marks _ _ _ ih =>
    rw [List.cons_append, List.cons_append, upToClosing_escape, ih]
    exact map_prepend [.char '\\', m] (marks ++ [.char '"']) _
  | @unit a b c d _ marks _ digits _ ih =>
    -- The scan takes the four digits for marks of the string like others.
    have passed := upToClosing_plain (Json.plain_of_hexUnit digits) depth (marks ++ .char '"' :: rest)
    change upToClosing depth .inString (.char '\\' :: .char 'u' :: ([a, b, c, d] ++
      (marks ++ .char '"' :: rest))) = _
    rw [upToClosing_escape, passed, ih, map_prepend, map_prepend]
    rfl

theorem arePassed_quotation {marks : List Mark} {t : Text} (quotation : Quotation marks t) :
    ArePassed marks := by
  obtain ⟨characters⟩ := quotation
  intro depth rest _
  rw [List.append_assoc, List.cons_append]
  change (upToClosing depth .inString _).map ([.char '"'] ++ ·) = _
  rw [List.singleton_append, upToClosing_characters characters]
  exact map_prepend [.char '"'] _ _

/-! ## Objects -/

/-- The closing brace takes the scan back to where it was before the opening one. -/
theorem ArePassed.object {marks : List Mark} (inner : ArePassed marks) :
    ArePassed (.char '\x7b' :: marks ++ [.char '\x7d']) := by
  intro depth rest inside
  have deeper : ¬ depth + 1 ≤ 1 := by omega
  rw [List.append_assoc, List.cons_append, upToClosing_opening,
    inner (depth + 1) _ (Nat.succ_pos depth), List.singleton_append, upToClosing_closing,
    if_neg deeper, Nat.add_sub_cancel]
  cases upToClosing depth .outside rest <;> simp

theorem ArePassed.upToClosing {marks : List Mark} (inner : ArePassed marks) (rest : List Mark) :
    upToClosing 0 .outside (.char '\x7b' :: marks ++ .char '\x7d' :: rest) =
      some (.char '\x7b' :: marks ++ [.char '\x7d']) := by
  rw [List.cons_append, upToClosing_opening, inner _ _ Nat.one_pos, upToClosing_closing,
    if_pos (Nat.le_refl 1)]
  rfl

/-! ## Values -/

theorem arePassed_blank {marks : List Mark} (isBlank : IsBlank marks) : ArePassed marks :=
  arePassed_of_neutral fun _ member => ⟨Json.ne_of_blank isBlank member rfl,
    Json.ne_of_blank isBlank member rfl, Json.ne_of_blank isBlank member rfl⟩

theorem arePassed_numeral {n : Numeral} (proper : n.IsProper) : ArePassed (n.chars.map Mark.char) :=
  arePassed_of_neutral fun _ member => ⟨Json.ne_of_numeral proper member rfl,
    Json.ne_of_numeral proper member rfl, Json.ne_of_numeral proper member rfl⟩

/-- The scan goes over every part of a text of JSON. -/
theorem arePassed_of_spells {part : Part} {marks : List Mark} (spells : Spells part marks) :
    ArePassed marks := by
  induction spells with
  | null | yes | no => exact arePassed_of_neutral (by decide)
  | number proper => exact arePassed_numeral proper
  | string quotation => exact arePassed_quotation quotation
  | emptyArray isBlank =>
    exact .cons (by decide) ((arePassed_blank isBlank).append (arePassed_of_neutral (by decide)))
  | array _ inner => exact .cons (by decide) (inner.append (arePassed_of_neutral (by decide)))
  | emptyObject isBlank => exact (arePassed_blank isBlank).object
  | object _ inner => exact inner.object
  | element isBlankBefore _ isBlankAfter inner =>
    exact (arePassed_blank isBlankBefore).append (inner.append (arePassed_blank isBlankAfter))
  | lastItem _ item => exact item
  | nextItem _ _ item others => exact item.append (.cons (by decide) others)
  | member isBlankBefore quotation isBlankAfter _ inner =>
    exact (arePassed_blank isBlankBefore).append ((arePassed_quotation quotation).append
      ((arePassed_blank isBlankAfter).append (.cons (by decide) inner)))
  | lastMember _ member => exact member
  | nextMember _ _ member others => exact member.append (.cons (by decide) others)

theorem exists_inner_of_object {members : List (Text × Json)} {marks : List Mark}
    (spells : Spells (.value (.obj members)) marks) :
    ∃ inner, marks = .char '\x7b' :: inner ++ [.char '\x7d'] ∧ ArePassed inner := by
  cases spells with
  | emptyObject isBlank => exact ⟨_, rfl, arePassed_blank isBlank⟩
  | object inner => exact ⟨_, rfl, arePassed_of_spells inner⟩

/-! ## Replies -/

theorem firstObject?_of_no_brace {before : List Mark} (noBrace : .char '\x7b' ∉ before)
    (rest : List Mark) : firstObject? (before ++ rest) = firstObject? rest := by
  induction before with
  | nil => rfl
  | cons m before ih =>
    obtain ⟨other, none⟩ := not_or.mp (mt List.mem_cons.mpr noBrace)
    rw [List.cons_append, firstObject?, if_neg (Ne.symm other), ih none]

theorem firstObject?_object {members : List (Text × Json)} {marks : List Mark}
    (isObject : Spells (.value (.obj members)) marks) (rest : List Mark) :
    firstObject? (marks ++ rest) = some marks := by
  obtain ⟨inner, written, passed⟩ := exists_inner_of_object isObject
  have scanned := passed.upToClosing rest
  rw [written, List.append_assoc, List.singleton_append, List.cons_append, firstObject?, if_pos rfl,
    ← List.cons_append, scanned]

/-- The words around an object do not matter, as long as no brace is opened in front of it. -/
theorem object_is_found_whole {before object after : Text} {members : List (Text × Json)}
    (noBrace : .char '\x7b' ∉ before.marks)
    (isObject : Spells (.value (.obj members)) object.marks) :
    objectText? (before ++ object ++ after) = some object := by
  change (firstObject? (before.marks ++ object.marks ++ after.marks)).map Text.mk = _
  rw [List.append_assoc, firstObject?_of_no_brace noBrace, firstObject?_object isObject]
  rfl

/-- A backslash stands before a closing quote, and braces stand in strings. -/
def sampleAnswer : Json :=
  .obj [("a\\", .str "\x7d\"\x7b"), ("b", .obj [("c", .arr [.obj [], .str "\\"])])]

def sampleObject : Text := "\x7b\"a\\\\\": \"\x7d\\\"\x7b\", \"b\": \x7b\"c\": [\x7b\x7d, \"\\\\\"]\x7d\x7d"

theorem isObject_sample : ∃ members, Spells (.value (.obj members)) sampleObject.marks := by
  have written : (Json.spaced.chars sampleAnswer).map Mark.char = sampleObject.marks := by decide
  have spells := Json.spells_chars Json.isOpen_spaced sampleAnswer rfl
  rw [written] at spells
  exact ⟨_, spells⟩

theorem object_is_found_whole_sample :
    .char '\x7b' ∉ (Text.ofString "Here \"it is: \\").marks ∧
      (∃ members, Spells (.value (.obj members)) sampleObject.marks) ∧
      objectText? ("Here \"it is: \\" ++ sampleObject ++ "\x7d \x7b\"d\": 1\x7d") =
        some sampleObject := by
  obtain ⟨members, isObject⟩ := isObject_sample
  have noBrace : .char '\x7b' ∉ (Text.ofString "Here \"it is: \\").marks := by decide
  exact ⟨noBrace, ⟨members, isObject⟩, object_is_found_whole noBrace isObject⟩

end SpatialQuery.Chat
