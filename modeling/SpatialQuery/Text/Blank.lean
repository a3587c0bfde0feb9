import SpatialQuery.Text.Basic

/-!
# Blank characters

The characters that count as white space when the edges of a text are trimmed: the blanks of the
character database together with the four information separators and the next-line control.
-/

set_option autoImplicit false

namespace SpatialQuery.Text

/-- A character class given by ascending, inclusive ranges of code points. -/
def inRanges (ranges : List (Nat × Nat)) (c : Char) : Bool :=
  ranges.any fun range => range.1 ≤ c.toNat && c.toNat ≤ range.2

def blankRanges : List (Nat × Nat) := [
  (0x9, 0xD), (0x1C, 0x20), (0x85, 0x85), (0xA0, 0xA0), (0x1680, 0x1680), (0x2000, 0x200A),
  (0x2028, 0x2029), (0x202F, 0x202F), (0x205F, 0x205F), (0x3000, 0x3000)]

def isBlank (c : Char) : Bool := inRanges blankRanges c

/-- A blank that is none of the four information separators.  Only such blanks may surround a number. -/
def isMargin (c : Char) : Bool := isBlank c && !(0x1C ≤ c.toNat && c.toNat ≤ 0x1F)

def trimEnd (isTrimmed : Char → Bool) (cs : List Char) : List Char :=
  (cs.reverse.dropWhile isTrimmed).reverse

def trimMargins (cs : List Char) : List Char := trimEnd isMargin (cs.dropWhile isMargin)

def isAllBlank (t : Text) : Bool := t.shown.all isBlank

end SpatialQuery.Text
