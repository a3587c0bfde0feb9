import SpatialQuery.Feature.Cell

/-!
# Room for nesting

Every level of a nested value takes room on the stack of the program, where the value is read and where it
is written, and so does what is done with a value that is not nested itself.  How much room there is depends
on what the program runs on and on where it is at the time, so it is given from outside.
-/

set_option autoImplicit false

namespace SpatialQuery

/-- Where the program is when it reads a JSON text. -/
inductive Stack.Place where
  | body
  | reply
  | completion
  | listField
  | manifest
  | setting

/-- The room for nesting.  It is never so small that what the service says of itself would not fit. -/
class Stack where
  /-- How deep the JSON texts may be nested that are read. -/
  reading : Stack.Place → Nat
  /-- How deep a cell may stand that is searched for numbers that are not finite. -/
  searching : Cell → Nat
  /-- How deep a cell may stand that is written. -/
  writing : Cell → Nat
  reading_ample (place : Stack.Place) : 16 ≤ reading place
  searching_ample (cell : Cell) : 16 ≤ searching cell
  writing_ample (cell : Cell) : 16 ≤ writing cell

namespace Stack

theorem le_reading [Stack] {n : Nat} (small : n ≤ 16) (place : Place) : n ≤ reading place :=
  Nat.le_trans small (reading_ample place)

end Stack

namespace Stack.Usual

/-- The room of a program that has just been started. -/
scoped instance usual : Stack where
  reading _ := 985
  searching _ := 493
  writing _ := 989
  reading_ample _ := by decide
  searching_ample _ := by decide
  writing_ample _ := by decide

end Stack.Usual

end SpatialQuery
