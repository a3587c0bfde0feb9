import SpatialQuery.Query.Basic

/-!
# What is handed to the database

A name is written in quotes with each quote in it doubled, so that it cannot end early.  A value is
never written: a placeholder stands in its place, and the values are handed over beside the text in the
order of the placeholders.
-/

set_option autoImplicit false

namespace SpatialQuery.Sql

/-- A quote inside a name is written twice. -/
def escapeQuotes : List Mark → List Mark
  | [] => []
  | mark :: rest =>
    if mark = .char '"' then .char '"' :: .char '"' :: escapeQuotes rest
    else mark :: escapeQuotes rest

def quotedMarks (identifier : Text) : List Mark :=
  .char '"' :: escapeQuotes identifier.marks ++ [.char '"']

def quoteIdentifier (identifier : Text) : Text := ⟨quotedMarks identifier⟩

def placeholder (number : Nat) : Text := .ofChars ('$' :: Decimal.digitChars number)

/-- A statement, and the values for its placeholders. -/
structure Written where
  text : Text
  values : List FilterValue
deriving DecidableEq

end SpatialQuery.Sql
