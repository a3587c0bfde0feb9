import SpatialQuery.Text.LetterCase
import SpatialQuery.Text.WordChar

/-!
# Phrases

A phrase is looked for in a message between two edges of words, and letters match in either case.
-/

set_option autoImplicit false

namespace SpatialQuery.Chat

inductive Piece where
  | letter (c : Char)
  | optional (c : Char)
  | either (first second : Char)
deriving DecidableEq

abbrev Phrase := List Piece

def Phrase.literal (text : String) : Phrase := text.toList.map .letter

def Phrase.orPlural (text : String) : Phrase := Phrase.literal text ++ [.optional 's']

/-- Two words with a hyphen or a blank between them. -/
def Phrase.compound (first second : String) : Phrase :=
  Phrase.literal first ++ .either '-' ' ' :: Phrase.literal second

namespace Phrase

/-- The pieces fit the characters from here on and an edge follows; `before` is the last character
that was passed. -/
def fits : Phrase → Option Char → List Char → Bool
  | [], before, rest => Text.isEdge before rest.head?
  | .letter c :: more, _, rest =>
    match rest with
    | [] => false
    | d :: rest => Text.sameLetter c d && fits more (some d) rest
  | .either a b :: more, _, rest =>
    match rest with
    | [] => false
    | d :: rest => (d == a || d == b) && fits more (some d) rest
  | .optional c :: more, before, rest =>
    (match rest with
      | [] => false
      | d :: rest => Text.sameLetter c d && fits more (some d) rest) || fits more before rest

/-- The phrase stands at an edge somewhere from here on. -/
def occursFrom (phrase : Phrase) (before : Option Char) : List Char → Bool
  | [] => Text.isEdge before none && phrase.fits before []
  | c :: rest =>
    (Text.isEdge before (some c) && phrase.fits before (c :: rest)) ||
      occursFrom phrase (some c) rest

def occursIn (phrase : Phrase) (message : Text) : Bool := phrase.occursFrom none message.shown

end Phrase

end SpatialQuery.Chat
