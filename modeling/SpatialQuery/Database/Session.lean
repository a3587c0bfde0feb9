import SpatialQuery.Database.Engine
import SpatialQuery.Layer.Catalog
import SpatialQuery.Sql.Written

/-!
# Sessions

A session opens its database when it is first needed and keeps it open.  A database whose spatial
functions could not be loaded is not kept.  Each call uses a cursor of its own, which is closed when
the call ends, whether or not it failed.
-/

set_option autoImplicit false

namespace SpatialQuery.Database

structure Session (σ : Type) where
  path : Text
  isOpen : Bool
  state : σ

namespace Session

variable {σ : Type}

def atPath (path : Text) (state : σ) : Session σ := ⟨path, false, state⟩

def connect (engine : Engine σ) : Action (Session σ) Unit := fun session =>
  if session.isOpen then (.ok (), session)
  else
    match engine.connect session.path session.state with
    | (.error e, state) => (.error e, { session with state })
    | (.ok (), state) =>
      match engine.loadExtension state with
      | (.error e, state) => (.error e, { session with state })
      | (.ok (), state) => (.ok (), { session with isOpen := true, state })

def close (engine : Engine σ) (session : Session σ) : Session σ :=
  if session.isOpen then { session with isOpen := false, state := engine.close session.state }
  else session

def openCursor (engine : Engine σ) : Action (Session σ) Unit := fun session =>
  match connect engine session with
  | (.error e, session) => (.error e, session)
  | (.ok (), session) =>
    let (result, state) := engine.openCursor session.state
    (result, { session with state })

def run (engine : Engine σ) (text : Text) (values : Option (List Json)) :
    Action (Session σ) Table := fun session =>
  let (result, state) := engine.run text values session.state
  (result, { session with state })

def closeCursor (engine : Engine σ) (session : Session σ) : Session σ :=
  { session with state := engine.closeCursor session.state }

def execute (engine : Engine σ) (text : Text) (values : List Json) (session : Session σ) :
    Except ExecutionError (List Row) × Session σ :=
  match openCursor engine session with
  | (.error e, session) => (.error ⟨.internal, "Database unavailable: " ++ e.message⟩, session)
  | (.ok (), session) =>
    match run engine text (some values) session with
    | (.error e, session) => (.error e.classify, closeCursor engine session)
    | (.ok table, session) => (.ok table.toRows, closeCursor engine session)

/-- What the first cells of the rows of a description are; nothing when there is no such table or no
database. -/
def describe (engine : Engine σ) (table : Text) (session : Session σ) :
    Except DescribeFault (List Cell) × Session σ :=
  match openCursor engine session with
  | (.error _, session) => (.ok [], session)
  | (.ok (), session) =>
    match run engine ("DESCRIBE " ++ Sql.quoteIdentifier table) none session with
    | (.ok found, session) =>
      (match found.firstCells? with
        | some cells => .ok cells
        | none => .error .emptyRow, closeCursor engine session)
    | (.error e, session) =>
      (if e.kind = .catalog then .ok [] else .error (.engine e), closeCursor engine session)

end Session

end SpatialQuery.Database
