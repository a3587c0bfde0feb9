import SpatialQuery.Text.Basic

/-!
# Units of sixteen bits

A character beyond the basic plane is written in two units, a leading and a trailing surrogate.  A unit
that is a surrogate and has no partner stands for itself.
-/

set_option autoImplicit false

namespace SpatialQuery.Text

def isLeading (u : UInt16) : Bool := 0xD800 ≤ u.toNat && u.toNat < 0xDC00

def isTrailing (u : UInt16) : Bool := 0xDC00 ≤ u.toNat && u.toNat < 0xE000

/-- One unit for a code point of the basic plane, a pair for any other. -/
def units (mark : Mark) : List UInt16 :=
  let n := mark.code
  if n < 0x10000 then [n.toUInt16]
  else [(0xD800 + (n - 0x10000) / 0x400).toUInt16, (0xDC00 + (n - 0x10000) % 0x400).toUInt16]

def pairedChar (leading trailing : UInt16) : Char :=
  Char.ofNat (0x10000 + (leading.toNat - 0xD800) * 0x400 + (trailing.toNat - 0xDC00))

/-- The code point with this number; of a number beyond them all, the replacement character. -/
def markOfCode (n : Nat) : Mark :=
  if valid : n.isValidChar then .char (Char.ofNatAux n valid)
  else if 0xD800 ≤ n ∧ n < 0xE000 then .surrogate (Fin.ofNat 0x800 (n - 0xD800))
  else .char '\uFFFD'

/-- A part of a text as it is written: a mark that stands for itself, or a unit. -/
inductive Piece where
  | mark (m : Mark)
  | unit (u : UInt16)

/-- The marks that pieces write.  Only units make pairs. -/
def joined : List Piece → List Mark
  | [] => []
  | .mark m :: rest => m :: joined rest
  | [.unit u] => [markOfCode u.toNat]
  | .unit u :: .mark m :: rest => markOfCode u.toNat :: m :: joined rest
  | .unit u :: .unit v :: rest =>
    if isLeading u && isTrailing v then .char (pairedChar u v) :: joined rest
    else markOfCode u.toNat :: joined (.unit v :: rest)

end SpatialQuery.Text
