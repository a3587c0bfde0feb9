import SpatialQuery.Proofs.Sql.Spacing

/-!
# The tokens of a statement

The tokens of spaced fragments are the tokens of the fragments one after the other: those of each fixed
text on its own, one name for each name, and one placeholder for each value.  The placeholders are
therefore counted from one on in the order of the text.
-/

set_option autoImplicit false

namespace SpatialQuery.Sql

def textTokens (text : String) : List Token := tokens (marksOf (textMarks text))

theorem comma_tokens : textTokens ", " = [.word ","] := by decide

theorem and_tokens : textTokens " AND " = [.word "AND"] := by decide

theorem closing_tokens : textTokens ")" = [.word ")"] := by decide

/-- The tokens that fragments stand for, the placeholders counted from `count + 1` on. -/
def tokensFrom : Nat → List Fragment → List Token
  | _, [] => []
  | count, .text text :: rest => textTokens text ++ tokensFrom count rest
  | count, .name identifier :: rest => .name identifier :: tokensFrom count rest
  | count, .value _ :: rest => .word (placeholder (count + 1)) :: tokensFrom (count + 1) rest

theorem tokens_marks_append (marks : List Mark) (rest : List Piece)
    (apart : ∀ last, marks.getLast? = some last → Apart last rest) :
    tokens (marksOf marks ++ rest) = tokens (marksOf marks) ++ tokens rest := by
  simp only [tokens, lex_marks_append marks rest apart, List.filter_append]

theorem apart_of_soft {last : Mark} (soft : isSoft last = true) (rest : List Piece) :
    Apart last rest := fun _ _ => isGlued_of_soft_left soft

theorem apart_of_opens {fragments : List Fragment} (opens : Opens fragments) (count : Nat)
    (last : Mark) : Apart last (piecesFrom count fragments) := fun next headed =>
  isGlued_of_soft_right ((head_of_opens opens count).2 next headed)

theorem lex_letters (cs : List Char) (nonempty : cs ≠ []) (letters : ∀ c ∈ cs, isLetter c = true) :
    lex (marksOf (cs.map .char)) = [.word (.ofChars cs)] := by
  induction cs with
  | nil => exact absurd rfl nonempty
  | cons c rest ih =>
    cases rest with
    | nil => rfl
    | cons next more =>
      have tail := ih (List.cons_ne_nil _ _) fun d member => letters d (List.mem_cons_of_mem _ member)
      have first : isLetter c = true := letters c (by simp)
      have second : isLetter next = true := letters next (by simp)
      have glued : isGlued (.char c) (.char next) = true := by simp [isGlued, first, second]
      change push (.char c) (lex (marksOf ((next :: more).map .char))) = _
      rw [tail]
      simp [Text.ofChars, push, glued]

theorem tokens_placeholder (number : Nat) :
    tokens (marksOf (placeholder number).marks) = [.word (placeholder number)] := by
  obtain ⟨first, more, digits⟩ := List.exists_cons_of_ne_nil (Decimal.digitChars_ne_nil number)
  have letters : ∀ c ∈ Decimal.digitChars number, isLetter c = true := fun c member =>
    digit_is_letter (Decimal.isDigit_of_mem_digitChars member)
  have lexed := lex_letters (Decimal.digitChars number) (Decimal.digitChars_ne_nil number) letters
  have firstLetter : isLetter first = true := letters first (by simp [digits])
  have glued : isGlued (.char '$') (.char first) = true := by simp [isGlued, firstLetter]
  have whole : lex (marksOf (placeholder number).marks) = [.word (placeholder number)] := by
    change push (.char '$') (lex (marksOf ((Decimal.digitChars number).map .char))) = _
    rw [lexed]
    simp [placeholder, Text.ofChars, digits, push, glued]
  have shown : Token.isBlank (.word (placeholder number)) = false := by
    simp [Token.isBlank, placeholder, Text.ofString, Text.ofChars]
  simp [tokens, whole, shown]

theorem tokens_piecesFrom (fragments : List Fragment) (spaced : Spaced fragments) (count : Nat) :
    tokens (piecesFrom count fragments) = tokensFrom count fragments := by
  induction fragments generalizing count with
  | nil => rfl
  | cons fragment rest ih =>
    cases fragment with
    | text text =>
      obtain ⟨_, ends, spacedRest⟩ := spaced
      have apart : ∀ last, (textMarks text).getLast? = some last →
          Apart last (piecesFrom count rest) := by
        intro last isLast
        rcases ends with soft | opens
        · have softLast : isSoft last = true := by simpa [endsSoftly, isLast] using soft
          exact apart_of_soft softLast _
        · exact apart_of_opens opens count last
      rw [piecesFrom, tokens_marks_append _ _ apart, ih spacedRest count]
      rfl
    | name identifier =>
      have kept : tokens (.name identifier :: piecesFrom count rest) =
          .name identifier :: tokens (piecesFrom count rest) := by
        simp [tokens, lex, Token.isBlank]
      rw [piecesFrom, kept, ih spaced.2 count]
      rfl
    | value value =>
      have apart : ∀ last, (placeholder (count + 1)).marks.getLast? = some last →
          Apart last (piecesFrom (count + 1) rest) := fun last _ =>
        apart_of_opens spaced.1 (count + 1) last
      rw [piecesFrom, tokens_marks_append _ _ apart, tokens_placeholder, ih spaced.2 (count + 1)]
      rfl

/-! ## Fragments one after the other -/

theorem tokensFrom_append (first rest : List Fragment) (count : Nat) :
    tokensFrom count (first ++ rest) =
      tokensFrom count first ++ tokensFrom (count + (values first).length) rest := by
  induction first generalizing count with
  | nil => rfl
  | cons fragment more ih =>
    cases fragment with
    | text text => simp only [List.cons_append, tokensFrom, values, ih, List.append_assoc]
    | name identifier => simp only [List.cons_append, tokensFrom, values, ih]
    | value value =>
      have shift : count + 1 + (values more).length = count + ((values more).length + 1) := by omega
      simp only [List.cons_append, tokensFrom, values, ih, List.length_cons, shift]

/-! ## Placeholders -/

theorem mem_of_mem_lex {marks : List Mark} {token : Token} (member : token ∈ lex (marksOf marks)) :
    ∃ word, token = .word ⟨word⟩ ∧ ∀ m ∈ word, m ∈ marks := by
  induction marks generalizing token with
  | nil => cases member
  | cons m rest ih =>
    have later : ∀ token ∈ lex (marksOf rest), ∃ word, token = .word ⟨word⟩ ∧
        ∀ n ∈ word, n ∈ m :: rest := by
      intro token member
      obtain ⟨word, shape, within⟩ := ih member
      exact ⟨word, shape, fun n inWord => List.mem_cons_of_mem _ (within n inWord)⟩
    have single : ∃ word, Token.word ⟨[m]⟩ = .word ⟨word⟩ ∧ ∀ n ∈ word, n ∈ m :: rest :=
      ⟨[m], rfl, by simp⟩
    change token ∈ push m (lex (marksOf rest)) at member
    unfold push at member
    split at member
    · rename_i next more others headed
      split at member
      · rcases List.mem_cons.mp member with rfl | member
        · obtain ⟨word, shape, within⟩ := later (.word ⟨next :: more⟩) (by simp [headed])
          cases shape
          exact ⟨m :: next :: more, rfl, List.forall_mem_cons.mpr ⟨by simp, within⟩⟩
        · exact later token (by simp [headed, member])
      · rcases List.mem_cons.mp member with rfl | member
        · exact single
        · exact later token (by rw [headed]; exact member)
    · rcases List.mem_cons.mp member with rfl | member
      · exact single
      · exact later token member

theorem no_placeholder_of_isPlain {text : String} (plain : isPlain text = true) :
    (textTokens text).filterMap Token.placeholder? = [] := by
  rw [List.filterMap_eq_nil_iff]
  intro token member
  obtain ⟨word, rfl, within⟩ := mem_of_mem_lex (List.mem_filter.mp member).1
  rcases word with _ | ⟨first, more⟩
  · rfl
  · have inText := within first (by simp)
    simp only [isPlain, Bool.and_eq_true, List.all_eq_true] at plain
    have notDollar : first ≠ .char '$' := by
      rintro rfl
      simpa using plain.2 _ inText
    unfold Token.placeholder?
    split
    · rename_i shape
      cases shape
      exact absurd rfl notDollar
    · rfl

theorem placeholder_eq (number : Nat) : placeholder number = Text.ofString ("$" ++ toString number) := by
  have digits : ("$" ++ toString number).toList = '$' :: Decimal.digitChars number := by
    simp only [String.toList_append, Nat.toString_eq_ofList_toDigits, String.toList_ofList]
    rfl
  rw [Text.ofString, digits, placeholder]

/-- The placeholders of fragments, in the order of the text, are counted without a gap. -/
theorem placeholders_tokensFrom (fragments : List Fragment) (spaced : Spaced fragments)
    (count : Nat) :
    (tokensFrom count fragments).filterMap Token.placeholder? =
      (List.range' (count + 1) (values fragments).length).map fun number =>
        Text.ofString ("$" ++ toString number) := by
  induction fragments generalizing count with
  | nil => rfl
  | cons fragment rest ih =>
    cases fragment with
    | text text =>
      obtain ⟨plain, _, spacedRest⟩ := spaced
      rw [tokensFrom, List.filterMap_append, no_placeholder_of_isPlain plain, ih spacedRest count]
      rfl
    | name identifier =>
      have unnamed : Token.placeholder? (.name identifier) = none := rfl
      rw [tokensFrom, List.filterMap_cons_none unnamed, ih spaced.2 count]
      rfl
    | value value =>
      have found : Token.placeholder? (.word (placeholder (count + 1))) =
          some (placeholder (count + 1)) := rfl
      rw [tokensFrom, List.filterMap_cons_some found, ih spaced.2 (count + 1), values,
        List.length_cons, List.range'_succ, List.map_cons, placeholder_eq]

end SpatialQuery.Sql
