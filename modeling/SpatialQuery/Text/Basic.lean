/-!
# Texts

A text is a sequence of code points.  Nearly all of them are characters.  A surrogate is a code point
that is none: escapes in JSON can write it, and no encoding of characters can hold it.  Texts keep lone
surrogates, so that what was read can be written again, and `Text.toString?` tells which texts are
ordinary strings.
-/

set_option autoImplicit false

namespace SpatialQuery

inductive Mark where
  | char (c : Char)
  /-- A surrogate, by its distance from the first of them. -/
  | surrogate (offset : Fin 0x800)
deriving DecidableEq

namespace Mark

def code : Mark → Nat
  | .char c => c.toNat
  | .surrogate offset => 0xD800 + offset.val

def char? : Mark → Option Char
  | .char c => some c
  | .surrogate _ => none

/-- The character, or the replacement character in the place of a surrogate. -/
def shown : Mark → Char
  | .char c => c
  | .surrogate _ => '\uFFFD'

def isSurrogate : Mark → Bool
  | .char _ => false
  | .surrogate _ => true

end Mark

structure Text where
  marks : List Mark
deriving DecidableEq, Inhabited

namespace Text

def ofChars (cs : List Char) : Text := ⟨cs.map .char⟩

def ofString (s : String) : Text := ofChars s.toList

instance : Coe String Text := ⟨ofString⟩

instance : Append Text := ⟨fun a b => ⟨a.marks ++ b.marks⟩⟩

theorem append_assoc (a b c : Text) : a ++ b ++ c = a ++ (b ++ c) :=
  congrArg Text.mk (List.append_assoc a.marks b.marks c.marks)

theorem append_empty (a : Text) : a ++ ofString "" = a := congrArg Text.mk (List.append_nil a.marks)

theorem ofString_append (a b : String) : ofString (a ++ b) = ofString a ++ ofString b := by
  change (⟨_⟩ : Text) = ⟨_ ++ _⟩
  rw [String.toList_append, List.map_append]
  rfl

def toString? (t : Text) : Option String := (t.marks.mapM Mark.char?).map String.ofList

/-- The characters of the text, with the replacement character for each surrogate.  A surrogate is no
letter, no digit and no blank, and neither is what replaces it. -/
def shown (t : Text) : List Char := t.marks.map Mark.shown

def intercalate (separator : Text) : List Text → Text
  | [] => ""
  | [last] => last
  | part :: next :: rest => part ++ separator ++ intercalate separator (next :: rest)

def concat (parts : List Text) : Text := parts.foldr (· ++ ·) ""

/-- The order of a dictionary, by code points: the first comes first, or the two are the same. -/
def marksPrecede : List Mark → List Mark → Bool
  | [], _ => true
  | _ :: _, [] => false
  | a :: as, b :: bs => a.code < b.code || (a == b && marksPrecede as bs)

def precedes (a b : Text) : Bool := marksPrecede a.marks b.marks

def occursIn (part : List Mark) : List Mark → Bool
  | [] => part.isEmpty
  | mark :: rest => part.isPrefixOf (mark :: rest) || occursIn part rest

def contains (text part : Text) : Bool := occursIn part.marks text.marks

end Text

end SpatialQuery
