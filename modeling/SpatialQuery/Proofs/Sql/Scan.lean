import SpatialQuery.Proofs.Sql.Fragment

/-!
# Scanning a statement

How the database takes the text of a statement apart.  A double quote opens an identifier, which ends
at the next double quote that is not doubled.  What stands outside of identifiers falls into words: a
run of letters, digits and underscores, which a dollar sign may lead, a run of signs of comparison, or
one other mark.  A word that starts with a dollar sign is a placeholder.
-/

set_option autoImplicit false

namespace SpatialQuery.Sql

/-! ## Identifiers -/

inductive Piece where
  | mark (mark : Mark)
  /-- An identifier, without its quotes and with each doubled quote once. -/
  | name (identifier : Text)
deriving DecidableEq

abbrev quoteMark : Mark := .char '"'

inductive ScanState where
  | outside
  | inside (read : List Mark)
  /-- After a quote that ends the identifier, unless another one follows. -/
  | closing (read : List Mark)

def scanFrom : ScanState → List Mark → Option (List Piece)
  | .outside, [] => some []
  | .inside _, [] => none
  | .closing read, [] => some [.name ⟨read⟩]
  | .outside, m :: rest =>
    if m = quoteMark then scanFrom (.inside []) rest
    else (scanFrom .outside rest).map (.mark m :: ·)
  | .inside read, m :: rest =>
    if m = quoteMark then scanFrom (.closing read) rest
    else scanFrom (.inside (read ++ [m])) rest
  | .closing read, m :: rest =>
    if m = quoteMark then scanFrom (.inside (read ++ [quoteMark])) rest
    else (scanFrom .outside rest).map fun pieces => .name ⟨read⟩ :: .mark m :: pieces

/-- The pieces of a text; none when an identifier is not closed. -/
def scan (text : Text) : Option (List Piece) := scanFrom .outside text.marks

def identifiers (pieces : List Piece) : List Text :=
  pieces.filterMap fun piece => match piece with
    | .mark _ => none
    | .name identifier => some identifier

/-- What stands outside of the identifiers, with a gap for each of them. -/
def outside (pieces : List Piece) : List (Option Mark) :=
  pieces.map fun piece => match piece with
    | .mark m => some m
    | .name _ => none

def marksOf (marks : List Mark) : List Piece := marks.map .mark

theorem scanFrom_marks (marks rest : List Mark) (plain : quoteMark ∉ marks) :
    scanFrom .outside (marks ++ rest) = (scanFrom .outside rest).map (marksOf marks ++ ·) := by
  induction marks with
  | nil => simp [marksOf]
  | cons m more ih =>
    have notQuote : m ≠ quoteMark := fun same => plain (by simp [same])
    have plainMore : quoteMark ∉ more := fun member => plain (by simp [member])
    simp only [List.cons_append, scanFrom, if_neg notQuote, ih plainMore, Option.map_map]
    rfl

/-- Inside an identifier the doubled quotes are read as quotes, and nothing ends it. -/
theorem scanFrom_escapeQuotes (marks rest read : List Mark) :
    scanFrom (.inside read) (escapeQuotes marks ++ rest) =
      scanFrom (.inside (read ++ marks)) rest := by
  induction marks generalizing read with
  | nil => simp [escapeQuotes]
  | cons m more ih =>
    by_cases isQuote : m = .char '"'
    · subst m
      simp [escapeQuotes, scanFrom, quoteMark, ih]
    · simp [escapeQuotes, scanFrom, quoteMark, isQuote, ih]

theorem scanFrom_quotedMarks (identifier : Text) (rest : List Mark)
    (ends : rest.head? ≠ some quoteMark) :
    scanFrom .outside (quotedMarks identifier ++ rest) =
      (scanFrom .outside rest).map (.name identifier :: ·) := by
  have opened : scanFrom .outside (quotedMarks identifier ++ rest) =
      scanFrom (.closing identifier.marks) rest := by
    have inner := scanFrom_escapeQuotes identifier.marks (quoteMark :: rest) []
    simp only [List.nil_append] at inner
    simp only [quotedMarks, List.cons_append, List.append_assoc, List.nil_append, scanFrom,
      if_true, inner]
  rw [opened]
  cases rest with
  | nil => rfl
  | cons m more =>
    have notQuote : m ≠ quoteMark := fun same => ends (by simp [same])
    simp only [scanFrom, if_neg notQuote, Option.map_map]
    rfl

/-! ## Words -/

inductive Token where
  | word (text : Text)
  | name (identifier : Text)
deriving DecidableEq

def isLetter (c : Char) : Bool := c.isAlphanum || c == '_'

def isComparing (c : Char) : Bool := c == '=' || c == '<' || c == '>' || c == '!'

def isGlued : Mark → Mark → Bool
  | .char a, .char b =>
    (isLetter a || a == '$') && isLetter b || isComparing a && isComparing b
  | _, _ => false

def push (m : Mark) : List Token → List Token
  | .word ⟨next :: more⟩ :: rest =>
    if isGlued m next then .word ⟨m :: next :: more⟩ :: rest
    else .word ⟨[m]⟩ :: .word ⟨next :: more⟩ :: rest
  | rest => .word ⟨[m]⟩ :: rest

def lex : List Piece → List Token
  | [] => []
  | .mark m :: rest => push m (lex rest)
  | .name identifier :: rest => .name identifier :: lex rest

def Token.isBlank (token : Token) : Bool := token == .word " " || token == .word "\n"

def tokens (pieces : List Piece) : List Token := (lex pieces).filter fun token => !token.isBlank

def Token.placeholder? : Token → Option Text
  | .word ⟨.char '$' :: digits⟩ => some ⟨.char '$' :: digits⟩
  | _ => none

def placeholders (pieces : List Piece) : List Text :=
  (tokens pieces).filterMap Token.placeholder?

theorem push_head (m : Mark) (rest : List Token) :
    ∃ more others, push m rest = .word ⟨m :: more⟩ :: others := by
  unfold push
  split
  · split
    · exact ⟨_, _, rfl⟩
    · exact ⟨_, _, rfl⟩
  · exact ⟨_, _, rfl⟩

theorem push_append (m : Mark) (first rest : List Token) (nonempty : first ≠ []) :
    push m (first ++ rest) = push m first ++ rest := by
  rcases first with _ | ⟨⟨⟨_ | ⟨next, more⟩⟩⟩ | identifier, others⟩
  · exact absurd rfl nonempty
  · rfl
  · simp only [List.cons_append, push]
    split <;> rfl
  · rfl

theorem lex_marks_ne_nil (m : Mark) (rest : List Piece) : lex (.mark m :: rest) ≠ [] := by
  obtain ⟨more, others, headed⟩ := push_head m (lex rest)
  simp [lex, headed]

/-- The first piece is no mark that belongs to the same word. -/
def Apart (m : Mark) (rest : List Piece) : Prop :=
  ∀ next, rest.head? = some (.mark next) → isGlued m next = false

theorem push_apart (m : Mark) (rest : List Piece) (apart : Apart m rest) :
    push m (lex rest) = .word ⟨[m]⟩ :: lex rest := by
  rcases rest with _ | ⟨next | identifier, others⟩
  · rfl
  · obtain ⟨more, tail, headed⟩ := push_head next (lex others)
    have notGlued : isGlued m next = false := apart next rfl
    rw [lex, headed, push, notGlued]
    rfl
  · rfl

theorem lex_marks_append (marks : List Mark) (rest : List Piece)
    (apart : ∀ last, marks.getLast? = some last → Apart last rest) :
    lex (marksOf marks ++ rest) = lex (marksOf marks) ++ lex rest := by
  induction marks with
  | nil => rfl
  | cons m more ih =>
    cases more with
    | nil => exact push_apart m rest (apart m rfl)
    | cons next others =>
      have tail := ih fun last isLast => apart last (by simpa using isLast)
      have split_push := push_append m (lex (marksOf (next :: others))) (lex rest)
        (lex_marks_ne_nil next _)
      change push m (lex (marksOf (next :: others) ++ rest)) = _
      rw [tail, split_push]
      rfl

end SpatialQuery.Sql
