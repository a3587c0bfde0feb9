import SpatialQuery.Proofs.Sql.Condition

/-!
# Reading filters

What the database takes the conditions of a statement for.  The condition of the statement is what
follows the first WHERE that stands in no parentheses.  Each of its atoms is a comparison of a column
with a placeholder, a list of placeholders that a column must be in, or a call of a function on a
geometry and on the union of the geometries of a table.  What is expected of a statement is written down
here on its own; nothing is taken from how statements are written.
-/

set_option autoImplicit false

namespace SpatialQuery.Sql

/-! ## Atoms -/

inductive TestAtom where
  | compare (column operator : Text) (placeholder : Nat)
  | member (column : Text) (placeholders : List Nat)

/-- The union of the geometries of a table, over the rows for which its own condition holds. -/
structure TargetAtom where
  geometry : Text
  table : Text
  condition : Option (Condition TestAtom)

structure PlaceAtom where
  function : Text
  geometry : Text
  target : TargetAtom
  distance : Option Nat

inductive Atom where
  | test (t : TestAtom)
  | place (p : PlaceAtom)

/-! ## Readers -/

def afterAll? : List Text → List Token → Option (List Token)
  | [], tokens => some tokens
  | word :: words, tokens => (after? word tokens).bind (afterAll? words)

def readWord : Reader Text
  | .word word :: rest => some (word, rest)
  | _ => none

def readName : Reader Text
  | .name identifier :: rest => some (identifier, rest)
  | _ => none

def Token.number? : Token → Option Nat
  | .word ⟨.char '$' :: digits⟩ => do
    let cs ← digits.mapM Mark.char?
    if cs.all Char.isDigit && !cs.isEmpty then some (Nat.ofDigitChars 10 cs 0) else none
  | _ => none

def readNumber : Reader Nat
  | token :: rest => token.number?.map fun number => (number, rest)
  | [] => none

def readNumbers : Reader (List Nat)
  | token :: .word mark :: rest =>
    if mark = ")" then token.number?.map fun number => ([number], rest)
    else if mark = "," then do
      let number ← token.number?
      let (others, rest) ← readNumbers rest
      some (number :: others, rest)
    else none
  | _ => none

def comparisonWords : List Text := ["=", "!=", ">", ">=", "<", "<=", "LIKE"].map Text.ofString

def readTest : Reader TestAtom
  | .name column :: .word operator :: rest =>
    if operator = "IN" then do
      let rest ← after? "(" rest
      let (placeholders, rest) ← readNumbers rest
      some (.member column placeholders, rest)
    else if operator ∈ comparisonWords then do
      let (placeholder, rest) ← readNumber rest
      some (.compare column operator placeholder, rest)
    else none
  | _ => none

def readTarget : Reader TargetAtom := fun tokens => do
  let rest ← afterAll? ["SELECT", "ST_Union_Agg", "("] tokens
  let (geometry, rest) ← readWord rest
  let rest ← afterAll? [")", "AS"] rest
  let (_, rest) ← readWord rest
  let rest ← after? "FROM" rest
  let (table, rest) ← readName rest
  match after? "WHERE" rest with
  | none => some (⟨geometry, table, none⟩, rest)
  | some rest => do
    let (condition, rest) ← condition readTest rest
    some (⟨geometry, table, some condition⟩, rest)

def readCallEnd (call : Option Nat → PlaceAtom) : Reader PlaceAtom := fun tokens =>
  match after? "," tokens with
  | none => (after? ")" tokens).map fun rest => (call none, rest)
  | some rest => do
    let (distance, rest) ← readNumber rest
    (after? ")" rest).map fun rest => (call (some distance), rest)

def readPlace : Reader PlaceAtom := fun tokens => do
  let (function, rest) ← readWord tokens
  let rest ← after? "(" rest
  let (geometry, rest) ← readWord rest
  let rest ← afterAll? [",", "("] rest
  let (target, rest) ← readTarget rest
  let rest ← after? ")" rest
  readCallEnd (PlaceAtom.mk function geometry target) rest

/-- A condition on a column starts with its name, and a call with its function. -/
def readAtom : Reader Atom
  | .name column :: rest =>
    (readTest (.name column :: rest)).map fun (t, rest) => (.test t, rest)
  | tokens => (readPlace tokens).map fun (p, rest) => (.place p, rest)

/-! ## The condition of a statement -/

def afterWhere : Nat → List Token → Option (List Token)
  | _, [] => none
  | depth, .name _ :: rest => afterWhere depth rest
  | depth, .word word :: rest =>
    if word = "(" then afterWhere (depth + 1) rest
    else if word = ")" then afterWhere (depth - 1) rest
    else if word = "WHERE" ∧ depth = 0 then some rest
    else afterWhere depth rest

def laterWords : List Text := ["GROUP", "ORDER", "LIMIT"].map Text.ofString

def startsLater : List Token → Bool
  | [] => true
  | .word word :: _ => laterWords.contains word
  | .name _ :: _ => false

/-- The condition of a statement, if it has one; none when it cannot be read. -/
def readWhere (tokens : List Token) : Option (Option (Condition Atom)) :=
  match afterWhere 0 tokens with
  | none => some none
  | some rest => do
    let (condition, rest) ← condition readAtom rest
    if startsLater rest then some (some condition) else none

def conditionOf (text : Text) : Option (Option (Condition Atom)) := do
  readWhere (tokens (← scan text))

def isDistanceCall (token : Token) : Bool := token == .word "ST_Distance"

/-- The call that the distances of the rows are put out by. -/
def distanceOf (text : Text) : Option PlaceAtom := do
  let call := (tokens (← scan text)).dropWhile fun token => !isDistanceCall token
  (readPlace call).map Prod.fst

end SpatialQuery.Sql
