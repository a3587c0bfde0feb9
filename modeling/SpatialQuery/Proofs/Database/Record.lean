import SpatialQuery.Database.Loading

/-!
# A record of what is asked of a database

Beside the state of an engine stands a record of its steps and of how they ended.  A session does with a
record what it does without one.  What a call may come to is told by its course: how a cursor was asked for,
what was run on it, and what the caller got.
-/

set_option autoImplicit false

namespace SpatialQuery.Database

inductive Event where
  | connect (path : Text) (ended : Except EngineError Unit)
  | loadExtension (ended : Except EngineError Unit)
  | openCursor (ended : Except EngineError Unit)
  | run (text : Text) (values : Option (List Json)) (ended : Except EngineError Table)
  | closeCursor
  | close

variable {σ : Type}

def noted {α : Type} (event : Except EngineError α → Event) (step : Action σ α) :
    Action (σ × List Event) α := fun outside =>
  ((step outside.1).1, (step outside.1).2, outside.2 ++ [event (step outside.1).1])

/-- The same engine with a record of its steps. -/
def Engine.recorded (engine : Engine σ) : Engine (σ × List Event) where
  connect path := noted (.connect path) (engine.connect path)
  loadExtension := noted .loadExtension engine.loadExtension
  openCursor := noted .openCursor engine.openCursor
  run text values := noted (.run text values) (engine.run text values)
  closeCursor outside := (engine.closeCursor outside.1, outside.2 ++ [.closeCursor])
  close outside := (engine.close outside.1, outside.2 ++ [.close])

namespace Session

def recording (session : Session σ) (record : List Event) : Session (σ × List Event) :=
  { session with state := (session.state, record) }

def unrecorded (session : Session (σ × List Event)) : Session σ :=
  { session with state := session.state.1 }

end Session

/-! ## Jobs -/

/-- A declared layer in a file of an allowed coordinate system. -/
structure Loading where
  layer : Text
  path : Text
  stated : Scalar
  srid : Int
  isDeclared : (Catalog.schema? layer).isSome
  isAllowed : allowedSrid? stated = some srid

inductive Job where
  | execute (text : Text) (values : List Json)
  | describe (table : Text)
  | load (loading : Loading)

inductive Move where
  | ask (job : Job)
  | close

inductive Reply where
  | rows (rows : List Row)
  | cells (cells : List Cell)
  | count (count : Cell)
  | failure (error : ExecutionError)
  /-- An error of the engine as it came. -/
  | raw (error : EngineError)
  | fault (error : LoadError)
  | undescribed (fault : DescribeFault)
  | done

namespace Reply

def ofExecute : Except ExecutionError (List Row) → Reply
  | .ok found => .rows found
  | .error error => .failure error

def ofDescribe : Except DescribeFault (List Cell) → Reply
  | .ok found => .cells found
  | .error (.engine error) => .raw error
  | .error reason => .undescribed reason

def ofLoad : Except LoadError Cell → Reply
  | .ok counted => .count counted
  | .error (.failed layer error) => .failure ⟨.internal, (LoadError.failed layer error).message⟩
  | .error (.unavailable error) => .raw error
  | .error error => .fault error

end Reply

namespace Session

def ask (engine : Engine σ) (session : Session σ) : Job → Reply × Session σ
  | .execute text values => (session.execute engine text values).map .ofExecute id
  | .describe table => (describe engine table session).map .ofDescribe id
  | .load loading =>
    (session.loadLayer engine loading.layer loading.path loading.stated).map .ofLoad id

def perform (engine : Engine σ) (session : Session σ) : Move → Reply × Session σ
  | .ask job => session.ask engine job
  | .close => (.done, session.close engine)

end Session

/-! ## Courses -/

/-- How a cursor is asked for: whether the database was open, the steps, how they ended, and whether the
database is open then. -/
inductive Opening (path : Text) : Bool → List Event → Except EngineError Unit → Bool → Prop
  | again (ended : Except EngineError Unit) : Opening path true [.openCursor ended] ended true
  | noDatabase (e : EngineError) : Opening path false [.connect path (.error e)] (.error e) false
  | noExtension (e : EngineError) :
    Opening path false [.connect path (.ok ()), .loadExtension (.error e)] (.error e) false
  | first (ended : Except EngineError Unit) : Opening path false
    [.connect path (.ok ()), .loadExtension (.ok ()), .openCursor ended] ended true

def describeText (table : Text) : Text := "DESCRIBE " ++ Sql.quoteIdentifier table

def Table.firstCell? (table : Table) : Option Cell := table.rows.head?.bind List.head?

inductive Work : Job → List Event → Reply → Prop
  | refused {text : Text} {values : List Json} (e : EngineError) :
    Work (.execute text values) [.run text (some values) (.error e)] (.failure e.classify)
  | executed {text : Text} {values : List Json} (table : Table) :
    Work (.execute text values) [.run text (some values) (.ok table)] (.rows table.toRows)
  | missing {table : Text} (e : EngineError) (isMissing : e.kind = .catalog) :
    Work (.describe table) [.run (describeText table) none (.error e)] (.cells [])
  | undescribed {table : Text} (e : EngineError) (other : e.kind ≠ .catalog) :
    Work (.describe table) [.run (describeText table) none (.error e)] (.raw e)
  | described {table : Text} (found : Table) {cells : List Cell}
    (first : found.firstCells? = some cells) :
    Work (.describe table) [.run (describeText table) none (.ok found)] (.cells cells)
  | unlisted {table : Text} (found : Table) (bare : found.firstCells? = none) :
    Work (.describe table) [.run (describeText table) none (.ok found)] (.undescribed .emptyRow)
  | notCreated {loading : Loading} (e : EngineError) :
    Work (.load loading) [.run (createText loading.layer loading.path loading.srid) none (.error e)]
      (.failure ⟨.internal, (LoadError.failed loading.layer e).message⟩)
  | notCounted {loading : Loading} (created : Table) (e : EngineError) :
    Work (.load loading) [.run (createText loading.layer loading.path loading.srid) none (.ok created),
        .run (countText loading.layer) none (.error e)]
      (.failure ⟨.internal, (LoadError.failed loading.layer e).message⟩)
  | uncounted {loading : Loading} (created found : Table)
    (bare : found.firstCell? = none) :
    Work (.load loading) [.run (createText loading.layer loading.path loading.srid) none (.ok created),
      .run (countText loading.layer) none (.ok found)]
      (.fault (if found.rows.isEmpty then .noCountRow else .emptyCountRow))
  | counted {loading : Loading} (created found : Table) {count : Cell}
    (first : found.firstCell? = some count) :
    Work (.load loading) [.run (createText loading.layer loading.path loading.srid) none (.ok created),
      .run (countText loading.layer) none (.ok found)] (.count count)

def Job.unserved (e : EngineError) : Job → Reply
  | .execute _ _ => .failure ⟨.internal, "Database unavailable: " ++ e.message⟩
  | .describe _ => .cells []
  | .load _ => .raw e

/-- The steps of a move, its reply, and whether the database is open before and after. -/
inductive Course (path : Text) : Move → Bool → List Event → Reply → Bool → Prop
  | unserved {job : Job} {before after : Bool} {opening : List Event} {e : EngineError}
    (opens : Opening path before opening (.error e) after) :
    Course path (.ask job) before opening (job.unserved e) after
  | served {job : Job} {before after : Bool} {opening statements : List Event} {reply : Reply}
    (opens : Opening path before opening (.ok ()) after) (works : Work job statements reply) :
    Course path (.ask job) before (opening ++ (statements ++ [.closeCursor])) reply after
  | closed : Course path .close true [.close] .done false
  | idle : Course path .close false [] .done false

namespace Session

variable (engine : Engine σ) (session : Session σ) (record : List Event)

theorem openCursor_opening : ∃ events ended after,
    Opening session.path session.isOpen events ended after.isOpen ∧
      openCursor engine session = (ended, after) ∧ after.path = session.path ∧
      openCursor engine.recorded (session.recording record) =
        (ended, after.recording (record ++ events)) := by
  obtain ⟨path, isOpen, state⟩ := session
  cases isOpen with
  | true => exact ⟨_, _, ⟨path, true, _⟩, .again _, rfl, rfl, rfl⟩
  | false =>
    simp only [openCursor, connect, recording, Engine.recorded, noted, Bool.false_eq_true, if_false]
    rcases engine.connect path state with ⟨e | _, opened⟩
    · exact ⟨_, _, ⟨path, false, opened⟩, .noDatabase e, rfl, rfl, rfl⟩
    · dsimp only
      rcases engine.loadExtension opened with ⟨e | _, ready⟩
      · refine ⟨_, _, ⟨path, false, ready⟩, .noExtension e, rfl, rfl, ?_⟩
        simp only [List.append_assoc]
        rfl
      · refine ⟨_, _, ⟨path, true, _⟩, .first _, rfl, rfl, ?_⟩
        simp only [List.append_assoc]
        rfl

theorem run_recorded (text : Text) (values : Option (List Json)) : ∃ ended state,
    run engine text values session = (ended, { session with state }) ∧
      run engine.recorded text values (session.recording record) =
        (ended, recording { session with state } (record ++ [.run text values ended])) :=
  ⟨_, _, rfl, rfl⟩

def serve (engine : Engine σ) (session : Session σ) : Job → Reply × Session σ
  | .execute text values =>
    match run engine text (some values) session with
    | (.error e, session) => (.failure e.classify, session)
    | (.ok table, session) => (.rows table.toRows, session)
  | .describe table =>
    match run engine (describeText table) none session with
    | (.error e, session) => (if e.kind = .catalog then .cells [] else .raw e, session)
    | (.ok found, session) =>
      (found.firstCells?.elim (.undescribed .emptyRow) .cells, session)
  | .load loading => (fill engine loading.layer loading.path loading.srid session).map .ofLoad id

theorem ask_eq (job : Job) : session.ask engine job =
    match openCursor engine session with
    | (.error e, after) => (job.unserved e, after)
    | (.ok (), after) =>
      ((after.serve engine job).1, closeCursor engine (after.serve engine job).2) := by
  cases job with
  | execute text values =>
    simp only [ask, execute, serve]
    rcases openCursor engine session with ⟨e | _, opened⟩
    · rfl
    · dsimp only
      rcases run engine text (some values) opened with ⟨e | table, after⟩ <;> rfl
  | describe table =>
    simp only [ask, describe, serve, describeText]
    rcases openCursor engine session with ⟨e | _, opened⟩
    · rfl
    · dsimp only
      rcases run engine _ none opened with ⟨e | found, after⟩
      · dsimp only
        split <;> rfl
      · dsimp only
        cases found.firstCells? <;> rfl
  | load loading =>
    have declared : ¬ (Catalog.schema? loading.layer).isNone = true := by
      rw [Option.isNone_iff_eq_none]
      exact Option.isSome_iff_ne_none.mp loading.isDeclared
    simp only [ask, loadLayer, if_neg declared, loading.isAllowed, serve]
    rcases openCursor engine session with ⟨e | _, opened⟩ <;> rfl

/-- On an open cursor a job only runs its statements. -/
theorem serve_work (job : Job) : ∃ statements reply state, Work job statements reply ∧
    session.serve engine job = (reply, { session with state }) ∧
      (session.recording record).serve engine.recorded job =
        (reply, recording { session with state } (record ++ statements)) := by
  cases job with
  | execute text values =>
    obtain ⟨ended, state, plain, noted⟩ := run_recorded engine session record text (some values)
    simp only [serve, plain, noted]
    rcases ended with e | table
    · exact ⟨_, _, state, .refused e, rfl, rfl⟩
    · exact ⟨_, _, state, .executed table, rfl, rfl⟩
  | describe table =>
    obtain ⟨ended, state, plain, noted⟩ := run_recorded engine session record (describeText table) none
    simp only [serve, plain, noted]
    rcases ended with e | found
    · dsimp only
      by_cases isMissing : e.kind = .catalog
      · rw [if_pos isMissing]
        exact ⟨_, _, state, .missing e isMissing, rfl, rfl⟩
      · rw [if_neg isMissing]
        exact ⟨_, _, state, .undescribed e isMissing, rfl, rfl⟩
    · cases first : found.firstCells? with
      | none =>
        refine ⟨_, _, state, .unlisted found first, ?_, ?_⟩ <;> simp only [first] <;> rfl
      | some cells =>
        refine ⟨_, _, state, .described found first, ?_, ?_⟩ <;> simp only [first] <;> rfl
  | load loading =>
    obtain ⟨ended, state, plain, noted⟩ := run_recorded engine session record
      (createText loading.layer loading.path loading.srid) none
    simp only [serve, fill, plain, noted]
    rcases ended with e | created
    · exact ⟨_, _, state, .notCreated e, rfl, rfl⟩
    · obtain ⟨ended, state, plain, noted⟩ := run_recorded engine { session with state }
        (record ++ [.run (createText loading.layer loading.path loading.srid) none (.ok created)])
        (countText loading.layer) none
      simp only [plain, noted, List.append_assoc, List.singleton_append]
      rcases ended with e | found
      · exact ⟨_, _, state, .notCounted created e, rfl, rfl⟩
      · obtain ⟨columns, _ | ⟨_ | ⟨count, cells⟩, rows⟩⟩ := found
        · exact ⟨_, _, state, .uncounted created ⟨columns, []⟩ rfl, rfl, rfl⟩
        · exact ⟨_, _, state, .uncounted created ⟨columns, [] :: rows⟩ rfl, rfl, rfl⟩
        · exact ⟨_, _, state, .counted created ⟨columns, (count :: cells) :: rows⟩ rfl, rfl, rfl⟩

/-- Every move has its course, and with a record it is the same. -/
theorem perform_course (move : Move) : ∃ events reply after,
    Course session.path move session.isOpen events reply after.isOpen ∧
      session.perform engine move = (reply, after) ∧ after.path = session.path ∧
      (session.recording record).perform engine.recorded move =
        (reply, after.recording (record ++ events)) := by
  cases move with
  | ask job =>
    obtain ⟨opening, ended, opened, opens, plain, samePath, noted⟩ :=
      openCursor_opening engine session record
    simp only [perform, ask_eq, plain, noted]
    rcases ended with e | _
    · exact ⟨opening, _, opened, .unserved opens, rfl, samePath, rfl⟩
    · obtain ⟨statements, reply, state, works, plain, noted⟩ :=
        serve_work engine opened (record ++ opening) job
      simp only [plain, noted]
      refine ⟨_, reply, closeCursor engine { opened with state }, .served opens works, rfl, samePath, ?_⟩
      simp only [closeCursor, recording, Engine.recorded, List.append_assoc]
  | close =>
    obtain ⟨path, isOpen, state⟩ := session
    cases isOpen with
    | true => exact ⟨_, _, ⟨path, false, engine.close state⟩, .closed, rfl, rfl, rfl⟩
    | false =>
      refine ⟨_, _, ⟨path, false, state⟩, .idle, rfl, rfl, ?_⟩
      rw [List.append_nil]
      rfl

end Session

end SpatialQuery.Database
