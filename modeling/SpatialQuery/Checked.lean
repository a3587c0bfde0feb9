import SpatialQuery.Issue

/-!
# Checked values

A value that has been checked, or everything that is wrong with it.  What is wrong with independent
parts adds up in the order of the parts.
-/

set_option autoImplicit false

namespace SpatialQuery

/-- Something wrong, with the steps that lead to it. -/
structure Violation where
  path : List Text
  message : Text
deriving DecidableEq

abbrev Checked (α : Type) := Except (List Violation) α

namespace Checked

variable {α β : Type}

def refuse (message : Text) : Checked α := .error [⟨[], message⟩]

def under (step : Text) : Checked α → Checked α
  | .ok a => .ok a
  | .error violations => .error (violations.map fun v => ⟨step :: v.path, v.message⟩)

def map (f : α → β) : Checked α → Checked β
  | .ok a => .ok (f a)
  | .error violations => .error violations

/-- Applies a function that was checked to an argument that was checked; violations add up. -/
def ap (f : Checked (α → β)) (a : Checked α) : Checked β :=
  match f, a with
  | .ok f, .ok a => .ok (f a)
  | .ok _, .error found => .error found
  | .error found, .ok _ => .error found
  | .error found, .error more => .error (found ++ more)

def ensure (a : Checked α) (fault? : α → Option Text) : Checked α :=
  match a with
  | .error found => .error found
  | .ok a =>
    match fault? a with
    | none => .ok a
    | some message => refuse message

def toIssues : Checked α → Except (List Issue) α
  | .ok a => .ok a
  | .error violations => .error (violations.map fun v => ⟨Issue.pathOf v.path, v.message⟩)

def allFrom {γ : Type} (item : γ → Checked α) : Nat → List γ → Checked (List α)
  | _, [] => .ok []
  | index, c :: rest =>
    Checked.ap (((item c).under (toString index : String)).map List.cons) (allFrom item (index + 1) rest)

end Checked

end SpatialQuery
