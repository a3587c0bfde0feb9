import SpatialQuery.Proofs.Assoc
import SpatialQuery.Proofs.Json.Numerals
import SpatialQuery.Proofs.Json.Writing
import SpatialQuery.Proofs.Text.Pieces

/-!
# Written values are JSON

A finite value written on one line is JSON, and what it stands for is the value itself as a reader must
have it: halves of a pair that stand side by side have become one character, and of members with one key
the last is left.
-/

set_option autoImplicit false

namespace SpatialQuery.Json

open Text (Piece joined units)

/-! ## Strings -/

def Writes (p : Piece) (u : UInt16) : Prop :=
  p = .unit u ∨ p = .mark (Text.markOfCode u.toNat) ∧ u.toNat < 0x7F

theorem apart_of_plain {u : UInt16} (plain : u.toNat < 0x7F) :
    Text.isLeading u = false ∧ Text.isTrailing u = false := by
  simp only [Text.isLeading, Text.isTrailing, Bool.and_eq_false_iff, decide_eq_false_iff_not]
  omega

/-- A character that stands for itself is no part of a pair, so it counts like its unit. -/
theorem joined_of_writes {pieces : List Piece} {us : List UInt16}
    (writes : List.Forall₂ Writes pieces us) : joined pieces = joined (us.map .unit) := by
  induction writes with
  | nil => rfl
  | @cons p u ps us first rest ih =>
    rcases first with rfl | ⟨rfl, plain⟩
    · cases rest with
      | nil => rfl
      | @cons q v qs vs second others =>
        rcases second with rfl | ⟨rfl, plain⟩
        · cases trailing : Text.isTrailing v with
          | false =>
            rw [Text.joined_cons_of_not_trailing trailing, ih]
            exact (Text.joined_cons_of_not_trailing trailing _).symm
          | true =>
            have notLeading : Text.isLeading v = false := by
              simp only [Text.isTrailing, Bool.and_eq_true, decide_eq_true_eq] at trailing
              simp only [Text.isLeading, Bool.and_eq_false_iff, decide_eq_false_iff_not]
              omega
            rw [List.map_cons, Text.joined_cons_of_not_leading notLeading,
              Text.joined_cons_of_not_leading notLeading] at ih
            have later := (List.cons.inj ih).2
            simp only [List.map_cons, joined, later]
            rw [Text.joined_cons_of_not_leading notLeading,
              Text.joined_cons_of_not_leading notLeading, later]
        · rw [List.map_cons, List.map_cons,
            Text.joined_cons_of_not_trailing (apart_of_plain plain).2]
          exact congrArg _ ih
    · rw [List.map_cons, Text.joined_cons_of_not_leading (apart_of_plain plain).1, ← ih]
      rfl

theorem hexValue?_digitChar {d : Nat} (digit : d < 16) :
    Text.hexValue? (Nat.digitChar d) = some d := by
  have all : ∀ d < 16, Text.hexValue? (Nat.digitChar d) = some d := by decide
  exact all d digit

theorem hexUnit?_hexDigits (u : UInt16) : ∃ a b c d,
    Text.hexDigits 4 u.toNat = [a, b, c, d] ∧
      hexUnit? (.char a) (.char b) (.char c) (.char d) = some u := by
  have bound := u.toNat_lt
  refine ⟨_, _, _, _, rfl, ?_⟩
  have digit : ∀ n, n % 16 < 16 := fun n => Nat.mod_lt _ (by decide)
  simp only [hexUnit?, Mark.char?, Option.bind_some, hexValue?_digitChar (digit _), bind, pure]
  refine congrArg some (UInt16.toNat_inj.mp ((Text.toNat_toUInt16 ?_).trans ?_)) <;>
    simp only [Nat.pow_eq] <;> omega

theorem letterChar?_of_shortEscape? {n : Nat} {letter : Char}
    (short : shortEscape? n = some letter) :
    ∃ c, letterChar? (.char letter) = some c ∧ Mark.char c = Text.markOfCode n ∧ n < 0x7F := by
  unfold shortEscape? at short
  repeat' split at short
  all_goals cases short
  all_goals rename_i code; subst code; exact ⟨_, rfl, rfl, by decide⟩

theorem exists_piece (u : UInt16) {marks : List Mark} {pieces : List Piece}
    (rest : Characters marks pieces) :
    ∃ p, Characters ((unitChars u).map .char ++ marks) (p :: pieces) ∧ Writes p u := by
  unfold unitChars
  cases short : shortEscape? u.toNat with
  | some letter =>
    obtain ⟨c, escape, same, plain⟩ := letterChar?_of_shortEscape? short
    exact ⟨_, .letter escape rest, Or.inr ⟨congrArg Piece.mark same, plain⟩⟩
  | none =>
    dsimp only
    split
    · rename_i plain
      obtain ⟨notBackslash, notQuote⟩ := plain_ne_backslash plain.2 short
      have code : (Mark.char (Char.ofNat u.toNat)).code = u.toNat := toNat_ofNat plain.2
      have same : Mark.char (Char.ofNat u.toNat) = Text.markOfCode u.toNat := by
        rw [← code, Text.markOfCode_code, code]
      refine ⟨_, .plain (by rw [code]; exact plain.1) ?_ ?_ rest,
        Or.inr ⟨congrArg Piece.mark same, plain.2⟩⟩
      · exact fun equal => notQuote (Mark.char.inj equal)
      · exact fun equal => notBackslash (Mark.char.inj equal)
    · obtain ⟨a, b, c, d, written, digits⟩ := hexUnit?_hexDigits u
      rw [unicodeEscape, written]
      exact ⟨_, .unit digits rest, Or.inl rfl⟩

theorem exists_pieces (us : List UInt16) : ∃ pieces,
    Characters ((us.flatMap unitChars).map .char) pieces ∧ List.Forall₂ Writes pieces us := by
  induction us with
  | nil => exact ⟨[], .nil, .nil⟩
  | cons u us ih =>
    obtain ⟨pieces, characters, writes⟩ := ih
    obtain ⟨p, more, first⟩ := exists_piece u characters
    rw [List.flatMap_cons, List.map_append]
    exact ⟨p :: pieces, more, .cons first writes⟩

theorem quotation_quoted (t : Text) : Quotation ((quoted t).map .char) t.rejoined := by
  obtain ⟨pieces, characters, writes⟩ := exists_pieces (t.marks.flatMap units)
  have quotation := Quotation.quoted characters
  rw [joined_of_writes writes] at quotation
  have marks : (quoted t).map Mark.char = .char '"' ::
      ((t.marks.flatMap units).flatMap unitChars).map .char ++ [.char '"'] := by simp [quoted]
  rw [marks]
  exact quotation

theorem quoted_rejoined (t : Text) : quoted t.rejoined = quoted t := by
  rw [quoted, quoted, Text.units_rejoined]

/-! ## Values -/

mutual

/-- The value as every reader of its text must have it. -/
def told : Json → Json
  | .str t => .str t.rejoined
  | .arr items => .arr (allTold items)
  | .obj members => .obj (Assoc.settle (membersTold members))
  | j => j

def allTold : List Json → List Json
  | [] => []
  | j :: rest => told j :: allTold rest

def membersTold : List (Text × Json) → List (Text × Json)
  | [] => []
  | (key, j) :: rest => (key.rejoined, told j) :: membersTold rest

end

mutual

/-- Nothing of the value is lost on the way through a text: no text in it has the halves of a pair for
neighbours, and no object has two members with one key. -/
def IsSettled : Json → Prop
  | .str t => t.IsWhole
  | .arr items => AreSettled items
  | .obj members => (members.map (·.1)).Nodup ∧ MembersAreSettled members
  | _ => True

def AreSettled : List Json → Prop
  | [] => True
  | j :: rest => IsSettled j ∧ AreSettled rest

def MembersAreSettled : List (Text × Json) → Prop
  | [] => True
  | (key, j) :: rest => key.IsWhole ∧ IsSettled j ∧ MembersAreSettled rest

end

theorem membersAreSettled_iff {members : List (Text × Json)} :
    MembersAreSettled members ↔ ∀ m ∈ members, m.1.IsWhole ∧ m.2.IsSettled := by
  induction members with
  | nil => simp [MembersAreSettled]
  | cons m rest ih => simp [MembersAreSettled, ih, and_assoc]

mutual

theorem told_eq : ∀ {j : Json}, j.IsSettled → told j = j
  | .null, _ | .bool _, _ | .num _, _ => by rw [told]; all_goals nofun
  | .str t, whole => by rw [told, Text.rejoined_of_whole whole]
  | .arr items, settled => by rw [told, allTold_eq settled]
  | .obj members, settled => by
    rw [told, membersTold_eq settled.2, Assoc.settle_of_nodup settled.1]

theorem allTold_eq : ∀ {items : List Json}, AreSettled items → allTold items = items
  | [], _ => by rw [allTold]
  | j :: rest, settled => by rw [allTold, told_eq settled.1, allTold_eq settled.2]

theorem membersTold_eq : ∀ {members : List (Text × Json)}, MembersAreSettled members →
    membersTold members = members
  | [], _ => by rw [membersTold]
  | (key, j) :: rest, settled => by
    rw [membersTold, Text.rejoined_of_whole settled.1, told_eq settled.2.1,
      membersTold_eq settled.2.2]

end

theorem isBlank_nil : IsBlank [] := nofun

theorem Spells.behind {j : Json} {before marks : List Mark} (isBlank : IsBlank before)
    (value : Spells (.value j) marks) : Spells (.element j) (before ++ marks) := by
  have element := Spells.element isBlank value isBlank_nil
  rwa [List.append_nil] at element

theorem Spells.bare {j : Json} {marks : List Mark} (value : Spells (.value j) marks) :
    Spells (.element j) marks := Spells.behind isBlank_nil value

structure Style.IsOpen (style : Style) : Prop where
  afterComma : IsBlank (style.afterComma.map .char)
  afterColon : IsBlank (style.afterColon.map .char)

theorem isOpen_spaced : spaced.IsOpen := by
  refine ⟨?_, ?_⟩ <;> exact List.forall_mem_singleton.mpr rfl

theorem isOpen_compact : compact.IsOpen := ⟨isBlank_nil, isBlank_nil⟩

section

variable {style : Style}

mutual

theorem spells_chars (isOpen : style.IsOpen) : ∀ (j : Json), j.isFinite = true →
    Spells (.value (told j)) ((style.chars j).map .char)
  | .null, _ => .null
  | .bool true, _ => .yes
  | .bool false, _ => .no
  | .num n, finite => by
    obtain ⟨numeral, proper, written, worth⟩ := Numeral.exists_of_finite finite
    have spells := Spells.number proper
    rw [written, worth] at spells
    exact spells
  | .str t, _ => .string (quotation_quoted t)
  | .arr [], _ => .emptyArray isBlank_nil
  | .arr (j :: rest), finite => by
    obtain ⟨marks, written, spells⟩ := spells_itemChars isOpen (j :: rest) isBlank_nil nofun finite
    rw [Style.chars, List.map_cons, written]
    exact .array spells
  | .obj [], _ => .emptyObject isBlank_nil
  | .obj (m :: rest), finite => by
    obtain ⟨marks, written, spells⟩ := spells_memberChars isOpen (m :: rest) isBlank_nil nofun finite
    rw [Style.chars, List.map_cons, written]
    exact .object spells

/-- Blanks may stand in front, as they do after a comma. -/
theorem spells_itemChars (isOpen : style.IsOpen) : ∀ (items : List Json) {before : List Mark}, IsBlank before →
    items ≠ [] → areFinite items = true → ∃ marks,
      (style.itemChars items).map Mark.char = marks ++ [.char ']'] ∧
        Spells (.items (allTold items)) (before ++ marks)
  | [], _, _, nonempty, _ => absurd rfl nonempty
  | [j], before, isBlank, _, finite => by
    have first := (Bool.and_eq_true_iff.mp finite).1
    refine ⟨(style.chars j).map .char, by simp [Style.itemChars], ?_⟩
    exact .lastItem (.behind isBlank (spells_chars isOpen j first))
  | j :: next :: rest, before, isBlank, _, finite => by
    obtain ⟨first, others⟩ := Bool.and_eq_true_iff.mp finite
    obtain ⟨marks, written, spells⟩ :=
      spells_itemChars isOpen (next :: rest) isOpen.afterComma nofun others
    refine ⟨(style.chars j).map .char ++ .char ',' :: (style.afterComma.map .char ++ marks), ?_, ?_⟩
    · simp [Style.itemChars, written]
    · rw [← List.append_assoc]
      exact .nextItem (.behind isBlank (spells_chars isOpen j first)) spells

theorem spells_memberChars (isOpen : style.IsOpen) :
    ∀ (members : List (Text × Json)) {before : List Mark}, IsBlank before → members ≠ [] →
      membersAreFinite members = true →
      ∃ marks, (style.memberChars members).map Mark.char = marks ++ [.char '}'] ∧
        Spells (.members (membersTold members)) (before ++ marks)
  | [], _, _, nonempty, _ => absurd rfl nonempty
  | [(key, j)], before, isBlank, _, finite => by
    have first := (Bool.and_eq_true_iff.mp finite).1
    have member := Spells.member isBlank (quotation_quoted key) isBlank_nil
      (.behind isOpen.afterColon (spells_chars isOpen j first))
    refine ⟨_, ?_, .lastMember member⟩
    simp [Style.memberChars]
  | (key, j) :: next :: rest, before, isBlank, _, finite => by
    obtain ⟨first, others⟩ := Bool.and_eq_true_iff.mp finite
    obtain ⟨marks, written, spells⟩ :=
      spells_memberChars isOpen (next :: rest) isOpen.afterComma nofun others
    have member := Spells.member isBlank (quotation_quoted key) isBlank_nil
      (.behind isOpen.afterColon (spells_chars isOpen j first))
    have joined := Spells.nextMember member spells
    rw [List.append_assoc] at joined
    refine ⟨_, ?_, joined⟩
    simp [Style.memberChars, written]

end

end

end SpatialQuery.Json
