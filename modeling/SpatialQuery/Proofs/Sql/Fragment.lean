import SpatialQuery.Sql.Written

/-!
# Text with names and parameters

The text of a statement as a row of fragments: fixed text, names, and values.  Here the numbers of the
placeholders are those of the values in the order of the text.
-/

set_option autoImplicit false

namespace SpatialQuery.Sql

inductive Fragment where
  | text (text : String)
  | name (identifier : Text)
  | value (value : FilterValue)
deriving DecidableEq

/-- The written text, the placeholders counted from `count + 1` on. -/
def writtenFrom : Nat → List Fragment → List Mark
  | _, [] => []
  | count, .text text :: rest => (Text.ofString text).marks ++ writtenFrom count rest
  | count, .name identifier :: rest => quotedMarks identifier ++ writtenFrom count rest
  | count, .value _ :: rest => (placeholder (count + 1)).marks ++ writtenFrom (count + 1) rest

def values : List Fragment → List FilterValue
  | [] => []
  | .value value :: rest => value :: values rest
  | _ :: rest => values rest

def joined (separator : String) : List (List Fragment) → List Fragment
  | [] => []
  | [last] => last
  | part :: next :: rest => part ++ .text separator :: joined separator (next :: rest)

def written (fragments : List Fragment) : Written :=
  ⟨⟨writtenFrom 0 fragments⟩, values fragments⟩

/-! ## Fragments one after the other -/

theorem values_append (first rest : List Fragment) :
    values (first ++ rest) = values first ++ values rest := by
  induction first with
  | nil => rfl
  | cons fragment more ih => cases fragment <;> simp [values, ih]

theorem values_joined (separator : String) :
    ∀ parts : List (List Fragment), values (joined separator parts) = parts.flatMap values
  | [] => rfl
  | [last] => by simp [joined]
  | part :: next :: rest => by
    have others := values_joined separator (next :: rest)
    simp only [joined, values_append, values, others, List.flatMap_cons]

theorem writtenFrom_append (first rest : List Fragment) (count : Nat) :
    writtenFrom count (first ++ rest) =
      writtenFrom count first ++ writtenFrom (count + (values first).length) rest := by
  induction first generalizing count with
  | nil => rfl
  | cons fragment more ih =>
    cases fragment with
    | text text => simp only [List.cons_append, writtenFrom, values, ih, List.append_assoc]
    | name identifier => simp only [List.cons_append, writtenFrom, values, ih, List.append_assoc]
    | value value =>
      have shift : count + 1 + (values more).length = count + ((values more).length + 1) := by omega
      simp only [List.cons_append, writtenFrom, values, ih, List.length_cons, shift,
        List.append_assoc]

end SpatialQuery.Sql
