import SpatialQuery.Text.Blank
import SpatialQuery.Text.Digit

/-!
# Reading integers

An integer may have blanks around it, a sign, and single underscores between its digits, which may be
of any script.
-/

set_option autoImplicit false

namespace SpatialQuery.Text

/-- The value of digits that follow a digit; `total` is the value so far. -/
def digitsFrom (total : Nat) : List Char → Option Nat
  | [] => some total
  | ['_'] => none
  | '_' :: c :: rest =>
    match digitValue? c with
    | some d => digitsFrom (total * 10 + d) rest
    | none => none
  | c :: rest =>
    match digitValue? c with
    | some d => digitsFrom (total * 10 + d) rest
    | none => none

def natural? : List Char → Option Nat
  | [] => none
  | c :: rest => (digitValue? c).bind fun d => digitsFrom d rest

def signed? : List Char → Option Int
  | '-' :: rest => (natural? rest).map fun n => -(n : Int)
  | '+' :: rest => (natural? rest).map Int.ofNat
  | cs => (natural? cs).map Int.ofNat

def integer? (cs : List Char) : Option Int := signed? (trimMargins cs)

end SpatialQuery.Text
