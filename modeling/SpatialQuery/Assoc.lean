/-!
# Association lists in the order of insertion

A key stands at the place where it was first set, with the value that was set last.
-/

set_option autoImplicit false

namespace SpatialQuery.Assoc

variable {α β : Type} [DecidableEq α]

/-- Sets a key: a key that is present keeps its place, a new one goes to the end. -/
def insert (key : α) (value : β) : List (α × β) → List (α × β)
  | [] => [(key, value)]
  | m :: rest => if m.1 = key then (key, value) :: rest else m :: insert key value rest

/-- Of equal keys the last value, at the first place. -/
def settle (members : List (α × β)) : List (α × β) :=
  members.foldl (fun settled m => insert m.1 m.2 settled) []

def get? (key : α) : List (α × β) → Option β
  | [] => none
  | m :: rest => if m.1 = key then some m.2 else get? key rest

def erase (key : α) (members : List (α × β)) : List (α × β) :=
  members.filter fun m => m.1 ≠ key

end SpatialQuery.Assoc
