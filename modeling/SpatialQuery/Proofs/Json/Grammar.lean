import SpatialQuery.Json.Reader

/-!
# The grammar of JSON

What counts as JSON without any lenience: no infinity and no value that is not a number, no limit on
digits or nesting.  A derivation says which value a text stands for.  As for the reader, the last of
several members with one key counts, and units that make a pair write one character.
-/

set_option autoImplicit false

namespace SpatialQuery.Json

open Decimal (isAsciiDigit)

/-! ## Numbers -/

structure Power where
  letter : Char
  sign : List Char
  digits : List Char

namespace Power

structure IsProper (p : Power) : Prop where
  letter : p.letter = 'e' ∨ p.letter = 'E'
  sign : p.sign = [] ∨ p.sign = ['+'] ∨ p.sign = ['-']
  digits : ∀ c ∈ p.digits, isAsciiDigit c = true
  someDigit : p.digits ≠ []

def chars (p : Power) : List Char := p.letter :: p.sign ++ p.digits

def value (p : Power) : Int := Decimal.signed (p.sign == ['-']) (Decimal.digitsValue p.digits)

end Power

structure Numeral where
  negative : Bool
  whole : List Char
  fraction : Option (List Char)
  power : Option Power

namespace Numeral

structure IsProper (n : Numeral) : Prop where
  digits : ∀ c ∈ n.whole, isAsciiDigit c = true
  someDigit : n.whole ≠ []
  /-- No zero stands in front of another digit. -/
  noLeadingZero : ∀ rest, n.whole = '0' :: rest → rest = []
  fraction : ∀ digits ∈ n.fraction, (∀ c ∈ digits, isAsciiDigit c = true) ∧ digits ≠ []
  power : ∀ p ∈ n.power, p.IsProper

def fractionChars (n : Numeral) : List Char :=
  match n.fraction with
  | none => []
  | some digits => '.' :: digits

def powerChars (n : Numeral) : List Char :=
  match n.power with
  | none => []
  | some p => p.chars

def chars (n : Numeral) : List Char :=
  (if n.negative then ['-'] else []) ++ (n.whole ++ (n.fractionChars ++ n.powerChars))

def size (n : Numeral) : Decimal.Scaled :=
  .ofDigits n.whole (n.fraction.getD []) ((n.power.map Power.value).getD 0)

/-- An integer when there is neither a fraction nor a power of ten, the nearest double otherwise. -/
def value (n : Numeral) : Number :=
  if n.fraction.isNone ∧ n.power.isNone then
    .int (Decimal.signed n.negative (Decimal.digitsValue n.whole))
  else .real (if n.negative then -n.size.nearest else n.size.nearest)

end Numeral

/-! ## Strings -/

/-- The marks between two quotes, with the pieces that they write. -/
inductive Characters : List Mark → List Text.Piece → Prop
  | nil : Characters [] []
  | plain {m : Mark} {marks : List Mark} {pieces : List Text.Piece} (printable : 0x20 ≤ m.code)
      (notQuote : m ≠ .char '"') (notBackslash : m ≠ .char '\\') (rest : Characters marks pieces) :
      Characters (m :: marks) (.mark m :: pieces)
  | letter {m : Mark} {c : Char} {marks : List Mark} {pieces : List Text.Piece}
      (escape : letterChar? m = some c) (rest : Characters marks pieces) :
      Characters (.char '\\' :: m :: marks) (.mark (.char c) :: pieces)
  | unit {a b c d : Mark} {u : UInt16} {marks : List Mark} {pieces : List Text.Piece}
      (digits : hexUnit? a b c d = some u) (rest : Characters marks pieces) :
      Characters (.char '\\' :: .char 'u' :: a :: b :: c :: d :: marks) (.unit u :: pieces)

inductive Quotation : List Mark → Text → Prop
  | quoted {marks : List Mark} {pieces : List Text.Piece} (characters : Characters marks pieces) :
      Quotation (.char '"' :: marks ++ [.char '"']) ⟨Text.joined pieces⟩

/-! ## Values -/

def IsBlank (marks : List Mark) : Prop := ∀ m ∈ marks, isSpace m = true

def wordMarks (word : String) : List Mark := word.toList.map .char

/-- What a derivation is about: a value, a value between blanks, items or members between commas. -/
inductive Part where
  | value (j : Json)
  | element (j : Json)
  | items (items : List Json)
  | member (key : Text) (j : Json)
  | members (members : List (Text × Json))

/-- The marks write that part. -/
inductive Spells : Part → List Mark → Prop
  | null : Spells (.value .null) (wordMarks "null")
  | yes : Spells (.value (.bool true)) (wordMarks "true")
  | no : Spells (.value (.bool false)) (wordMarks "false")
  | number {n : Numeral} (proper : n.IsProper) : Spells (.value (.num n.value)) (n.chars.map .char)
  | string {marks : List Mark} {t : Text} (quotation : Quotation marks t) :
      Spells (.value (.str t)) marks
  | emptyArray {blank : List Mark} (isBlank : IsBlank blank) :
      Spells (.value (.arr [])) (.char '[' :: blank ++ [.char ']'])
  | array {items : List Json} {marks : List Mark} (inner : Spells (.items items) marks) :
      Spells (.value (.arr items)) (.char '[' :: marks ++ [.char ']'])
  | emptyObject {blank : List Mark} (isBlank : IsBlank blank) :
      Spells (.value (.obj [])) (.char '\x7b' :: blank ++ [.char '\x7d'])
  | object {members : List (Text × Json)} {marks : List Mark}
      (inner : Spells (.members members) marks) :
      Spells (.value (.obj (Assoc.settle members))) (.char '\x7b' :: marks ++ [.char '\x7d'])
  | element {j : Json} {before marks after : List Mark} (isBlankBefore : IsBlank before)
      (inner : Spells (.value j) marks) (isBlankAfter : IsBlank after) :
      Spells (.element j) (before ++ (marks ++ after))
  | lastItem {j : Json} {marks : List Mark} (item : Spells (.element j) marks) :
      Spells (.items [j]) marks
  | nextItem {j : Json} {items : List Json} {marks rest : List Mark}
      (item : Spells (.element j) marks) (others : Spells (.items items) rest) :
      Spells (.items (j :: items)) (marks ++ .char ',' :: rest)
  | member {key : Text} {j : Json} {before keyMarks after marks : List Mark}
      (isBlankBefore : IsBlank before) (quotation : Quotation keyMarks key)
      (isBlankAfter : IsBlank after) (inner : Spells (.element j) marks) :
      Spells (.member key j) (before ++ (keyMarks ++ (after ++ .char ':' :: marks)))
  | lastMember {key : Text} {j : Json} {marks : List Mark} (member : Spells (.member key j) marks) :
      Spells (.members [(key, j)]) marks
  | nextMember {key : Text} {j : Json} {members : List (Text × Json)} {marks rest : List Mark}
      (member : Spells (.member key j) marks) (others : Spells (.members members) rest) :
      Spells (.members ((key, j) :: members)) (marks ++ .char ',' :: rest)

/-- The text is JSON and stands for the value. -/
def Denotes (text : Text) (j : Json) : Prop := Spells (.element j) text.marks

end SpatialQuery.Json
