import SpatialQuery.Assoc
import SpatialQuery.Number
import SpatialQuery.Text.Basic

/-!
# JSON values

Objects keep the order of their members, and integers stay apart from doubles.  Doubles include the
infinities and the value that is not a number, which lenient texts can write.
-/

set_option autoImplicit false

namespace SpatialQuery

inductive Json where
  | null
  | bool (b : Bool)
  | num (n : Number)
  | str (t : Text)
  | arr (items : List Json)
  | obj (members : List (Text × Json))

namespace Json

instance : Inhabited Json := ⟨.null⟩

def int (n : Int) : Json := .num (.int n)

def real (x : Float) : Json := .num (.real x)

def texts (ts : List Text) : Json := .arr (ts.map str)

def present (members : List (Text × Option Json)) : Json :=
  .obj (members.filterMap fun m => m.2.map (m.1, ·))

def member? (members : List (Text × Json)) (key : Text) : Option Json :=
  Assoc.get? key members

def get? : Json → Text → Option Json
  | .obj members, key => member? members key
  | _, _ => none

/-- Null, false, zero, or empty. -/
def isVoid : Json → Bool
  | .null => true
  | .bool b => !b
  | .num n => n.sameValue (.int 0)
  | .str t => t.marks.isEmpty
  | .arr items => items.isEmpty
  | .obj members => members.isEmpty

mutual

def isFinite : Json → Bool
  | .num n => n.isFinite
  | .arr items => areFinite items
  | .obj members => membersAreFinite members
  | _ => true

def areFinite : List Json → Bool
  | [] => true
  | j :: rest => isFinite j && areFinite rest

def membersAreFinite : List (Text × Json) → Bool
  | [] => true
  | (_, j) :: rest => isFinite j && membersAreFinite rest

end

mutual

def depth : Json → Nat
  | .arr items => itemDepth items + 1
  | .obj members => memberDepth members + 1
  | _ => 0

def itemDepth : List Json → Nat
  | [] => 0
  | j :: rest => max (depth j) (itemDepth rest)

def memberDepth : List (Text × Json) → Nat
  | [] => 0
  | (_, j) :: rest => max (depth j) (memberDepth rest)

end

mutual

/-- Every number that is not finite replaced by null, at any depth. -/
def finiteOrNull : Json → Json
  | .num n => if n.isFinite then .num n else .null
  | .arr items => .arr (allFiniteOrNull items)
  | .obj members => .obj (membersFiniteOrNull members)
  | j => j

def allFiniteOrNull : List Json → List Json
  | [] => []
  | j :: rest => finiteOrNull j :: allFiniteOrNull rest

def membersFiniteOrNull : List (Text × Json) → List (Text × Json)
  | [] => []
  | (key, j) :: rest => (key, finiteOrNull j) :: membersFiniteOrNull rest

end

end Json

end SpatialQuery
