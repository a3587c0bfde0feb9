import SpatialQuery.Json.Basic
import SpatialQuery.Text.Hex
import SpatialQuery.Text.Unit

/-!
# Writing JSON

One value has four written forms: spaced for responses made of rows, compact with sorted keys for
keys, indented for the eyes of a language model, and compact with all characters for the small bodies of
the service.  The first three are printable ASCII.  Doubles are written with the fewest digits that read back.
-/

set_option autoImplicit false

namespace SpatialQuery.Json

/-- The blanks that tell the one-line forms in printable ASCII apart. -/
structure Style where
  afterComma : List Char
  afterColon : List Char

def spaced : Style := ⟨[' '], [' ']⟩

def compact : Style := ⟨[], []⟩

def unicodeEscape (n : Nat) : List Char := '\\' :: 'u' :: Text.hexDigits 4 n

def shortEscape? (n : Nat) : Option Char :=
  if n = 0x22 then some '"'
  else if n = 0x5C then some '\\'
  else if n = 0x0A then some 'n'
  else if n = 0x0D then some 'r'
  else if n = 0x09 then some 't'
  else if n = 0x0C then some 'f'
  else if n = 0x08 then some 'b'
  else none

def unitChars (u : UInt16) : List Char :=
  match shortEscape? u.toNat with
  | some letter => ['\\', letter]
  | none =>
    if 0x20 ≤ u.toNat ∧ u.toNat < 0x7F then [Char.ofNat u.toNat] else unicodeEscape u.toNat

def quoted (t : Text) : List Char :=
  '"' :: (t.marks.flatMap Text.units).flatMap unitChars ++ ['"']

def numberChars (n : Number) : List Char := n.chars Decimal.jsonLayout

mutual

def Style.chars (style : Style) : Json → List Char
  | .null => ['n', 'u', 'l', 'l']
  | .bool true => ['t', 'r', 'u', 'e']
  | .bool false => ['f', 'a', 'l', 's', 'e']
  | .num n => numberChars n
  | .str t => quoted t
  | .arr items => '[' :: style.itemChars items
  | .obj members => '{' :: style.memberChars members

def Style.itemChars (style : Style) : List Json → List Char
  | [] => [']']
  | [last] => style.chars last ++ [']']
  | item :: next :: rest =>
    style.chars item ++ ',' :: style.afterComma ++ style.itemChars (next :: rest)

def Style.memberChars (style : Style) : List (Text × Json) → List Char
  | [] => ['}']
  | [(key, value)] =>
    quoted key ++ ':' :: style.afterColon ++ style.chars value ++ ['}']
  | (key, value) :: next :: rest =>
    quoted key ++ ':' :: style.afterColon ++ style.chars value ++
      ',' :: style.afterComma ++ style.memberChars (next :: rest)

end

def Style.render (style : Style) (j : Json) : String := String.ofList (style.chars j)

def lineBreak (level : Nat) : List Char := '\n' :: List.replicate (2 * level) ' '

mutual

def indentedChars (level : Nat) : Json → List Char
  | .arr [] => ['[', ']']
  | .arr (item :: rest) => '[' :: indentedItems (level + 1) (item :: rest) ++ lineBreak level ++ [']']
  | .obj [] => ['{', '}']
  | .obj (m :: rest) => '{' :: indentedMembers (level + 1) (m :: rest) ++ lineBreak level ++ ['}']
  | .null => spaced.chars .null
  | .bool b => spaced.chars (.bool b)
  | .num n => spaced.chars (.num n)
  | .str t => spaced.chars (.str t)

def indentedItems (level : Nat) : List Json → List Char
  | [] => []
  | [last] => lineBreak level ++ indentedChars level last
  | item :: next :: rest =>
    lineBreak level ++ indentedChars level item ++ ',' :: indentedItems level (next :: rest)

def indentedMembers (level : Nat) : List (Text × Json) → List Char
  | [] => []
  | [(key, value)] =>
    lineBreak level ++ quoted key ++ [':', ' '] ++ indentedChars level value
  | (key, value) :: next :: rest =>
    lineBreak level ++ quoted key ++ [':', ' '] ++ indentedChars level value ++
      ',' :: indentedMembers level (next :: rest)

end

def renderIndented (j : Json) : String := String.ofList (indentedChars 0 j)

mutual

def sorted : Json → Json
  | .arr items => .arr (allSorted items)
  | .obj members => .obj ((membersSorted members).mergeSort fun a b => a.1.precedes b.1)
  | j => j

def allSorted : List Json → List Json
  | [] => []
  | j :: rest => sorted j :: allSorted rest

def membersSorted : List (Text × Json) → List (Text × Json)
  | [] => []
  | (key, j) :: rest => (key, sorted j) :: membersSorted rest

end

/-- The form that depends on the value alone and not on the order of its members. -/
def canonical (j : Json) : String := compact.render (sorted j)

/-! ## With all characters -/

/-- A mark inside a string where only quotes, backslashes and controls are escaped. -/
def openMarks (mark : Mark) : List Mark :=
  match shortEscape? mark.code with
  | some letter => [.char '\\', .char letter]
  | none => if mark.code < 0x20 then (unicodeEscape mark.code).map .char else [mark]

def openQuoted (t : Text) : List Mark :=
  .char '"' :: t.marks.flatMap openMarks ++ [.char '"']

mutual

/-- The compact form that keeps all characters, surrogates among them. -/
def openForm : Json → List Mark
  | .null => (compact.chars .null).map .char
  | .bool b => (compact.chars (.bool b)).map .char
  | .num n => (numberChars n).map .char
  | .str t => openQuoted t
  | .arr items => .char '[' :: openItems items
  | .obj members => .char '{' :: openMembers members

def openItems : List Json → List Mark
  | [] => [.char ']']
  | [last] => openForm last ++ [.char ']']
  | item :: next :: rest => openForm item ++ .char ',' :: openItems (next :: rest)

def openMembers : List (Text × Json) → List Mark
  | [] => [.char '}']
  | [(key, value)] => openQuoted key ++ .char ':' :: openForm value ++ [.char '}']
  | (key, value) :: next :: rest =>
    openQuoted key ++ .char ':' :: openForm value ++ .char ',' :: openMembers (next :: rest)

end

def renderOpen (j : Json) : Text := ⟨openForm j⟩

end SpatialQuery.Json
