import SpatialQuery.Decimal.Written
import SpatialQuery.Json.Basic
import SpatialQuery.Text.Encoding

/-!
# Reading JSON

A lenient reader: it accepts the names of the infinities and of the value that is no number, any
exponent, and repeated keys, of which the last one counts.  It refuses integers of more than 4300
digits and values that are nested too deep.  A fault is reported with the place where it was found,
counted in code points.

Each part of the reader takes the marks that are left and returns what it read together with the marks
after it.  The number that bounds the nesting of the calls starts above twice the length of the text,
and of two calls at least one consumes a mark, so it never runs out.
-/

set_option autoImplicit false

namespace SpatialQuery.Json

open Decimal (isAsciiDigit)
open Text (hexValue?)

inductive Fault where
  | value
  | propertyName
  | colon
  | comma
  | controlCharacter
  | letterEscape
  | unicodeEscape
  | unterminated
  | extraData
  | byteOrderMark
deriving DecidableEq

def Fault.message : Fault → String
  | .value => "Expecting value"
  | .propertyName => "Expecting property name enclosed in double quotes"
  | .colon => "Expecting ':' delimiter"
  | .comma => "Expecting ',' delimiter"
  | .controlCharacter => "Invalid control character at"
  | .letterEscape => "Invalid \\escape"
  | .unicodeEscape => "Invalid \\uXXXX escape"
  | .unterminated => "Unterminated string starting at"
  | .extraData => "Extra data"
  | .byteOrderMark => "Unexpected UTF-8 BOM (decode using utf-8-sig)"

/-- What is too large to be read although it is JSON. -/
inductive Excess where
  | digits (count : Nat)
  /-- An array that is nested too deep, or an object. -/
  | nesting (isArray : Bool)
deriving DecidableEq

def Excess.message : Excess → String
  | .digits count =>
    "Exceeds the limit (4300 digits) for integer string conversion: value has " ++
      toString count ++
      " digits; use sys.set_int_max_str_digits() to increase the limit"
  | .nesting isArray =>
    "maximum recursion depth exceeded while decoding a JSON " ++
      (if isArray then "array" else "object") ++ " from a unicode string"

/-- Why reading stopped: a fault with the marks from its place on, or an excess. -/
inductive Stop where
  | fault (fault : Fault) (rest : List Mark)
  | excess (excess : Excess)

abbrev Reading (α : Type) := Except Stop (α × List Mark)

def isSpace : Mark → Bool
  | .char c => c == ' ' || c == '\t' || c == '\n' || c == '\r'
  | .surrogate _ => false

def skipSpace (marks : List Mark) : List Mark := marks.dropWhile isSpace

def hexUnit? (a b c d : Mark) : Option UInt16 := do
  let a ← a.char?.bind hexValue?
  let b ← b.char?.bind hexValue?
  let c ← c.char?.bind hexValue?
  let d ← d.char?.bind hexValue?
  return (((a * 16 + b) * 16 + c) * 16 + d).toUInt16

def letterChar? : Mark → Option Char
  | .char '"' => some '"'
  | .char '\\' => some '\\'
  | .char '/' => some '/'
  | .char 'b' => some '\x08'
  | .char 'f' => some '\x0C'
  | .char 'n' => some '\n'
  | .char 'r' => some '\r'
  | .char 't' => some '\t'
  | _ => none

def prependPiece (piece : Text.Piece) : Reading (List Text.Piece) → Reading (List Text.Piece)
  | .ok (read, rest) => .ok (piece :: read, rest)
  | .error stop => .error stop

/-- The pieces of a string after its opening quote.  An escape of four digits needs a mark after it;
`opening` is the text from the opening quote on. -/
def readPieces (opening : List Mark) : List Mark → Reading (List Text.Piece)
  | [] => .error (.fault .unterminated opening)
  | .char '"' :: rest => .ok ([], rest)
  | [.char '\\'] => .error (.fault .unterminated opening)
  | .char '\\' :: .char 'u' :: a :: b :: c :: d :: e :: rest =>
    match hexUnit? a b c d with
    | some unit => prependPiece (.unit unit) (readPieces opening (e :: rest))
    | none => .error (.fault .unicodeEscape (.char 'u' :: a :: b :: c :: d :: e :: rest))
  | .char '\\' :: .char 'u' :: rest => .error (.fault .unicodeEscape (.char 'u' :: rest))
  | .char '\\' :: letter :: rest =>
    match letterChar? letter with
    | some c => prependPiece (.mark (.char c)) (readPieces opening rest)
    | none => .error (.fault .letterEscape (.char '\\' :: letter :: rest))
  | mark :: rest =>
    if mark.code < 0x20 then .error (.fault .controlCharacter (mark :: rest))
    else prependPiece (.mark mark) (readPieces opening rest)

def readText (opening : List Mark) : Reading Text :=
  match readPieces opening opening.tail with
  | .ok (pieces, rest) => .ok (⟨Text.joined pieces⟩, rest)
  | .error stop => .error stop

def maxIntegerDigits : Nat := 4300

/-- The digits after a point, if a digit follows the point, and the rest. -/
def fractionPart : List Char → Option (List Char) × List Char
  | '.' :: d :: rest =>
    if isAsciiDigit d then
      (some (d :: rest.takeWhile isAsciiDigit), rest.dropWhile isAsciiDigit)
    else (none, '.' :: d :: rest)
  | cs => (none, cs)

/-- The number that characters start with, unless there is none, and the characters after it: an
integer when it has neither a fraction nor an exponent. -/
def numberPart (start : List Char) : Except Excess (Option Number × List Char) :=
  let (negative, unsigned) := match start with
    | '-' :: rest => (true, rest)
    | rest => (false, rest)
  let (whole, afterWhole) := match unsigned with
    | '0' :: rest => (['0'], rest)
    | rest => (rest.takeWhile isAsciiDigit, rest.dropWhile isAsciiDigit)
  if whole.isEmpty then .ok (none, start)
  else
    let (fraction, afterFraction) := fractionPart afterWhole
    let (exponent, rest) := Decimal.exponentPart afterFraction
    match fraction, exponent with
    | none, none =>
      if maxIntegerDigits < whole.length then .error (.digits whole.length)
      else .ok (some (.int (Decimal.signed negative (Decimal.digitsValue whole))), rest)
    | _, _ =>
      let places := fraction.getD []
      let size := (Decimal.Scaled.ofDigits whole places (exponent.getD 0)).nearest
      .ok (some (.real (if negative then -size else size)), rest)

def isNumberMark : Mark → Bool
  | .char c => isAsciiDigit c || c == '-' || c == '+' || c == '.' || c == 'e' || c == 'E'
  | .surrogate _ => false

def readNumber (start : List Mark) : Reading Number :=
  let cs := (start.takeWhile isNumberMark).map Mark.shown
  match numberPart cs with
  | .error excess => .error (.excess excess)
  | .ok (none, _) => .error (.fault .value start)
  | .ok (some n, rest) => .ok (n, start.drop (cs.length - rest.length))

def words : List (String × Json) := [
  ("null", .null), ("true", .bool true), ("false", .bool false),
  ("NaN", .num (.real Decimal.notANumber)), ("Infinity", .num (.real Decimal.infinity)),
  ("-Infinity", .num (.real (-Decimal.infinity)))]

def readWord? (marks : List Mark) : Option (Json × List Mark) :=
  words.findSome? fun (word, value) =>
    if (Text.ofString word).marks.isPrefixOf marks then some (value, marks.drop word.length)
    else none

mutual

/-- A value.  The first number bounds the calls, the second one says how much deeper values may be
nested. -/
def readValue : Nat → Nat → List Mark → Reading Json
  | 0, _, marks => .error (.fault .value marks)
  | fuel + 1, depth, marks =>
    match marks with
    | .char '"' :: _ =>
      match readText marks with
      | .ok (t, rest) => .ok (.str t, rest)
      | .error stop => .error stop
    | .char '{' :: rest =>
      match depth with
      | 0 => .error (.excess (.nesting false))
      | depth + 1 =>
        match skipSpace rest with
        | .char '}' :: after => .ok (.obj [], after)
        | members =>
          match readMembers fuel depth members with
          | .ok (read, after) => .ok (.obj (Assoc.settle read), after)
          | .error stop => .error stop
    | .char '[' :: rest =>
      match depth with
      | 0 => .error (.excess (.nesting true))
      | depth + 1 =>
        match skipSpace rest with
        | .char ']' :: after => .ok (.arr [], after)
        | items =>
          match readItems fuel depth items with
          | .ok (read, after) => .ok (.arr read, after)
          | .error stop => .error stop
    | _ =>
      match readWord? marks with
      | some (word, rest) => .ok (word, rest)
      | none =>
        match readNumber marks with
        | .ok (n, rest) => .ok (.num n, rest)
        | .error stop => .error stop

def readItems : Nat → Nat → List Mark → Reading (List Json)
  | 0, _, marks => .error (.fault .value marks)
  | fuel + 1, depth, marks =>
    match readValue fuel depth marks with
    | .error stop => .error stop
    | .ok (item, after) =>
      match skipSpace after with
      | .char ']' :: rest => .ok ([item], rest)
      | .char ',' :: rest =>
        match readItems fuel depth (skipSpace rest) with
        | .ok (items, left) => .ok (item :: items, left)
        | .error stop => .error stop
      | other => .error (.fault .comma other)

def readMembers : Nat → Nat → List Mark → Reading (List (Text × Json))
  | 0, _, marks => .error (.fault .value marks)
  | fuel + 1, depth, marks =>
    match marks with
    | .char '"' :: _ =>
      match readText marks with
      | .error stop => .error stop
      | .ok (key, afterKey) =>
        match skipSpace afterKey with
        | .char ':' :: beforeValue =>
          match readValue fuel depth (skipSpace beforeValue) with
          | .error stop => .error stop
          | .ok (value, after) =>
            match skipSpace after with
            | .char '}' :: rest => .ok ([(key, value)], rest)
            | .char ',' :: rest =>
              match readMembers fuel depth (skipSpace rest) with
              | .ok (members, left) => .ok ((key, value) :: members, left)
              | .error stop => .error stop
            | other => .error (.fault .comma other)
        | other => .error (.fault .colon other)
    | other => .error (.fault .propertyName other)

end

/-- A whole text: one value between spaces, nested no deeper than it may be. -/
def readAll (deepest : Nat) (marks : List Mark) : Except Stop Json :=
  match readValue (2 * marks.length + 2) deepest (skipSpace marks) with
  | .error stop => .error stop
  | .ok (value, after) =>
    match skipSpace after with
    | [] => .ok value
    | rest => .error (.fault .extraData rest)

/-- Why a text cannot be read: it is no JSON, with the place of the fault, its offset, its line and its
column; or it is too large. -/
inductive ReadError where
  | malformed (fault : Fault) (offset line column : Nat)
  | excessive (excess : Excess)
deriving DecidableEq

/-- The place that `offset` marks of the text lie before. -/
def ReadError.at (fault : Fault) (marks : List Mark) (offset : Nat) : ReadError :=
  let before := marks.take offset
  .malformed fault offset (before.count (.char '\n') + 1)
    ((before.reverse.takeWhile (· != .char '\n')).length + 1)

def ReadError.message : ReadError → String
  | .malformed fault offset line column =>
    fault.message ++ ": line " ++ toString line ++ " column " ++ toString column ++
      " (char " ++ toString offset ++ ")"
  | .excessive excess => excess.message

def readMarks (deepest : Nat) (marks : List Mark) : Except ReadError Json :=
  match readAll deepest marks with
  | .ok value => .ok value
  | .error (.fault fault rest) => .error (.at fault marks (marks.length - rest.length))
  | .error (.excess excess) => .error (.excessive excess)

/-- Reads a JSON text, which no byte order mark may open. -/
def read (deepest : Nat) (text : Text) : Except ReadError Json :=
  match text.marks with
  | .char '\uFEFF' :: _ => .error (.at .byteOrderMark text.marks 0)
  | marks => readMarks deepest marks

inductive BytesError where
  | undecodable (fault : Text.DecodeFault)
  | unreadable (error : ReadError)
deriving DecidableEq

def BytesError.message : BytesError → String
  | .undecodable fault => fault.message
  | .unreadable error => error.message

def readBytes (deepest : Nat) (bytes : Text.Bytes) : Except BytesError Json :=
  match Text.decode bytes with
  | .error fault => .error (.undecodable fault)
  | .ok text => (readMarks deepest text.marks).mapError .unreadable

end SpatialQuery.Json
