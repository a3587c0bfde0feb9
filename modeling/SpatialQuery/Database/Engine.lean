import SpatialQuery.Feature.Cell

/-!
# Database engines

What is needed of a database: it is opened at a path, its spatial functions are loaded, cursors run
statements, and it is closed.  Each of these steps may fail.  An engine is given by these steps on a
state of its own, so that a real database and a script are used in the same way.
-/

set_option autoImplicit false

namespace SpatialQuery.Database

inductive ErrorKind where
  | binder
  | catalog
  | other (name : Text)
deriving DecidableEq

def ErrorKind.ofName (name : Text) : ErrorKind :=
  if name = "BinderException" then .binder
  else if name = "CatalogException" then .catalog
  else .other name

def ErrorKind.name : ErrorKind → Text
  | .binder => "BinderException"
  | .catalog => "CatalogException"
  | .other name => name

structure EngineError where
  kind : ErrorKind
  message : Text
deriving DecidableEq

/-- What a statement yields; statements without a result have no columns. -/
structure Table where
  columns : Option (List Text)
  rows : List (List Cell)

/-- The first cell of each row; none if a row has no cell. -/
def Table.firstCells? (t : Table) : Option (List Cell) := t.rows.mapM List.head?

inductive DescribeFault where
  | engine (error : EngineError)
  /-- A row of the description has no cell. -/
  | emptyRow
  /-- What stands in the place of a name is no text. -/
  | unnamed
deriving DecidableEq

/-- A step on a state that may fail; the state goes on in either case. -/
abbrev Action (σ α : Type) := σ → Except EngineError α × σ

structure Engine (σ : Type) where
  connect : Text → Action σ Unit
  loadExtension : Action σ Unit
  openCursor : Action σ Unit
  /-- Runs a statement and fetches its rows.  The values are absent when none are bound. -/
  run : Text → Option (List Json) → Action σ Table
  closeCursor : σ → σ
  close : σ → σ

/-- Whether the data or the program is at fault when a statement fails. -/
inductive ExecutionKind where
  | unsupportedData
  | internal
deriving DecidableEq

def ExecutionKind.name : ExecutionKind → String
  | .unsupportedData => "unsupported_data"
  | .internal => "internal"

structure ExecutionError where
  kind : ExecutionKind
  message : Text
deriving DecidableEq

/-- Parts of messages that tell of something the data does not have. -/
def dataMarkers : List Text :=
  ["Referenced column", "does not exist", "not found in FROM clause"]

def EngineError.isDataProblem (e : EngineError) : Bool :=
  e.kind == .binder || e.kind == .catalog ||
    dataMarkers.any fun marker => e.message.contains marker

def EngineError.classify (e : EngineError) : ExecutionError :=
  ⟨if e.isDataProblem then .unsupportedData else .internal, e.message⟩

/-- The cells of a row under the names of its columns.  Of columns with one name the last value counts,
at the first place. -/
def Table.rowCells (columns : List Text) (cells : List Cell) : Row :=
  Assoc.settle (columns.zip cells)

def Table.toRows (t : Table) : List Row := t.rows.map (Table.rowCells (t.columns.getD []))

end SpatialQuery.Database
