import SpatialQuery.Text.Basic

/-!
# An object in a reply

A language model surrounds the object that it was asked for with words.  The object is the text from
the first opening brace that is closed again up to the brace that closes it.  Braces inside quoted
strings do not count, and a backslash inside a string takes away the meaning of the next character.
-/

set_option autoImplicit false

namespace SpatialQuery.Chat

inductive Position where
  | outside
  | inString
  | afterBackslash
deriving DecidableEq

/-- The text up to the brace that takes the depth back to zero, that brace included. -/
def upToClosing : Nat → Position → List Mark → Option (List Mark)
  | _, _, [] => none
  | depth, .afterBackslash, mark :: rest => (upToClosing depth .inString rest).map (mark :: ·)
  | depth, .inString, mark :: rest =>
    let next : Position :=
      if mark = .char '\\' then .afterBackslash
      else if mark = .char '"' then .outside
      else .inString
    (upToClosing depth next rest).map (mark :: ·)
  | depth, .outside, mark :: rest =>
    if mark = .char '"' then (upToClosing depth .inString rest).map (mark :: ·)
    else if mark = .char '\x7b' then (upToClosing (depth + 1) .outside rest).map (mark :: ·)
    else if mark = .char '\x7d' then
      if depth ≤ 1 then some [mark] else (upToClosing (depth - 1) .outside rest).map (mark :: ·)
    else (upToClosing depth .outside rest).map (mark :: ·)

/-- The first object of a text.  An opening brace that is never closed is passed over. -/
def firstObject? : List Mark → Option (List Mark)
  | [] => none
  | mark :: rest =>
    if mark = .char '\x7b' then
      match upToClosing 0 .outside (mark :: rest) with
      | some object => some object
      | none => firstObject? rest
    else firstObject? rest

def objectText? (reply : Text) : Option Text := (firstObject? reply.marks).map Text.mk

end SpatialQuery.Chat
