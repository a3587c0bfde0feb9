import Mathlib.Data.List.Forall2
import SpatialQuery.Proofs.Database.Record

/-!
# The contract of a session

Whatever the steps of an engine come to, and whatever was asked before, a cursor that a call obtains is
closed once, at its end, and a database that a session opens itself is only kept with its spatial functions.
Statements end in rows or in a failure that is told apart by the error, tables are described and layers are
counted, except for what two of the calls let through: an error of a description that is no error of the
catalog, an error of the database before a load has its cursor, and what an engine answers that no database
would: a description with rows that are empty or start with no text, or a count without a cell.
-/

set_option autoImplicit false

namespace SpatialQuery.Database

/-! ## Turns -/

structure Turn where
  move : Move
  events : List Event
  reply : Reply

variable {σ : Type}

namespace Session

def turn (engine : Engine σ) (move : Move) (session : Session σ) : Turn × Session σ :=
  let (reply, after) := (session.recording []).perform engine.recorded move
  (⟨move, after.state.2, reply⟩, after.unrecorded)

def turns (engine : Engine σ) : List Move → Session σ → List Turn × Session σ
  | [], session => ([], session)
  | move :: rest, session =>
    let (first, session) := session.turn engine move
    let (others, session) := session.turns engine rest
    (first :: others, session)

def replies (engine : Engine σ) : List Move → Session σ → List Reply × Session σ
  | [], session => ([], session)
  | move :: rest, session =>
    let (first, session) := session.perform engine move
    let (others, session) := session.replies engine rest
    (first :: others, session)

theorem turn_course (engine : Engine σ) (move : Move) (session : Session σ) :
    ∃ events reply after, session.turn engine move = (⟨move, events, reply⟩, after) ∧
      Course session.path move session.isOpen events reply after.isOpen ∧
      session.perform engine move = (reply, after) ∧ after.path = session.path := by
  obtain ⟨events, reply, after, course, plain, samePath, noted⟩ := perform_course engine session [] move
  refine ⟨events, reply, after, ?_, course, plain, samePath⟩
  rw [turn, noted]
  rfl

end Session

/-! ## Events -/

namespace Event

/-- The error with which the database or a cursor was refused. -/
def refusal? : Event → Option EngineError
  | .connect _ (.error e) | .loadExtension (.error e) | .openCursor (.error e) => some e
  | _ => none

def IsFailure : Event → Prop
  | .run _ _ (.error _) => True
  | event => event.refusal? ≠ none

def concernsCursor : Event → Bool
  | .openCursor (.ok _) | .closeCursor => true
  | _ => false

def concernsDatabase : Event → Bool
  | .connect _ _ | .loadExtension _ | .close => true
  | _ => false

end Event

/-- No cursor is obtained, or one is, which is closed at the end. -/
inductive ClosesCursor : List Event → Prop
  | none {events : List Event} (without : ∀ event ∈ events, event.concernsCursor = false) :
    ClosesCursor events
  | one {before statements : List Event}
    (without : ∀ event ∈ before ++ statements, event.concernsCursor = false) :
    ClosesCursor (before ++ .openCursor (.ok ()) :: (statements ++ [.closeCursor]))

/-- A database that was given, or that was opened and whose spatial functions were loaded, and with which
nothing was done since. -/
inductive IsKept (path : Text) (given : Bool) : List Event → Prop
  | given {events : List Event} (isGiven : given = true)
    (since : ∀ event ∈ events, event.concernsDatabase = false) : IsKept path given events
  | opened (before : List Event) {after : List Event}
    (since : ∀ event ∈ after, event.concernsDatabase = false) :
    IsKept path given (before ++ .connect path (.ok ()) :: .loadExtension (.ok ()) :: after)

/-- The error says that the data have something not. -/
def EngineError.TellsOfData (e : EngineError) : Prop :=
  e.kind = .binder ∨ e.kind = .catalog ∨ ∃ marker ∈ dataMarkers, e.message.contains marker = true

/-- What a job should come to, by its steps. -/
def Job.IsAnswered (events : List Event) (reply : Reply) : Job → Prop
  | .execute text values =>
    (∃ table, .run text (some values) (.ok table) ∈ events ∧ reply = .rows table.toRows) ∨
      ∃ error, reply = .failure error ∧ (∃ event ∈ events, event.IsFailure) ∧
        (error.kind = .unsupportedData ↔
          ∃ e, .run text (some values) (.error e) ∈ events ∧ e.TellsOfData)
  | .describe table =>
    ∃ names : List Text, reply = .cells (names.map .text) ∧
      ((∃ event ∈ events, event.IsFailure) → names = []) ∧
      ∀ found, .run (describeText table) none (.ok found) ∈ events →
        List.Forall₂ (fun row name => row.head? = some (.text name)) found.rows names
  | .load loading =>
    (∃ found count, .run (countText loading.layer) none (.ok found) ∈ events ∧
      found.firstCell? = some count ∧ reply = .count count) ∨
      ∃ text e, .run text none (.error e) ∈ events ∧
        reply = .failure ⟨.internal, (LoadError.failed loading.layer e).message⟩

/-- What a job lets through. -/
inductive Job.Lapse (events : List Event) : Job → Reply → Prop
  | undescribed {table : Text} {e : EngineError}
    (ran : .run (describeText table) none (.error e) ∈ events) (other : e.kind ≠ .catalog) :
    Lapse events (.describe table) (.raw e)
  | unlisted {table : Text} {found : Table}
    (ran : .run (describeText table) none (.ok found) ∈ events) (bare : [] ∈ found.rows) :
    Lapse events (.describe table) (.undescribed .emptyRow)
  /-- A description whose rows start with cells that are not all texts: they are told as they are. -/
  | unnamed {table : Text} {found : Table} {cells : List Cell}
    (ran : .run (describeText table) none (.ok found) ∈ events)
    (first : List.Forall₂ (fun row cell => row.head? = some cell) found.rows cells)
    (odd : ∃ cell ∈ cells, cell.text? = none) : Lapse events (.describe table) (.cells cells)
  | unserved {loading : Loading} {event : Event} {e : EngineError} (member : event ∈ events)
    (refused : event.refusal? = some e) : Lapse events (.load loading) (.raw e)
  /-- A count without a row, or without a cell in it. -/
  | uncounted {loading : Loading} {found : Table}
    (ran : .run (countText loading.layer) none (.ok found) ∈ events)
    (bare : found.firstCell? = none) :
    Lapse events (.load loading) (.fault (if found.rows.isEmpty then .noCountRow else .emptyCountRow))

/-- A cursor is closed; a job that lets nothing through is answered. -/
structure Turn.IsSound (turn : Turn) : Prop where
  cursor : ClosesCursor turn.events
  answered : ∀ job, turn.move = .ask job → (∀ reply, ¬ job.Lapse turn.events reply) →
    job.IsAnswered turn.events turn.reply
  lapses : ∀ job, turn.move = .ask job → ∀ reply, job.Lapse turn.events reply → turn.reply = reply

/-! ## What courses come to -/

section

variable {path : Text} {before after : Bool} {opening statements : List Event} {reply : Reply}
  {e : EngineError} {job : Job}

theorem kind_classify : e.classify.kind = .unsupportedData ↔ e.TellsOfData := by
  have said : e.isDataProblem = true ↔ e.TellsOfData := by
    simp [EngineError.isDataProblem, EngineError.TellsOfData, or_assoc]
  rw [← said, EngineError.classify]
  cases e.isDataProblem <;> simp

theorem Table.firstCells?_eq_some_iff {t : Table} {cells : List Cell} :
    t.firstCells? = some cells ↔
      List.Forall₂ (fun row cell => row.head? = some cell) t.rows cells := by
  unfold firstCells?
  induction t.rows generalizing cells with
  | nil =>
    rw [List.mapM_nil, List.forall₂_nil_left_iff]
    exact ⟨fun same => (Option.some.inj same).symm, fun same => congrArg some same.symm⟩
  | cons row rest ih =>
    rw [List.mapM_cons, List.forall₂_cons_left_iff]
    constructor
    · intro success
      obtain ⟨cell, first, later⟩ := Option.bind_eq_some_iff.mp success
      obtain ⟨others, following, last⟩ := Option.bind_eq_some_iff.mp later
      exact ⟨cell, others, first, ih.mp following, (Option.some.inj last).symm⟩
    · rintro ⟨cell, others, first, following, rfl⟩
      rw [first, ih.mpr following]
      rfl

theorem Table.firstCells?_eq_none_iff {t : Table} : t.firstCells? = none ↔ [] ∈ t.rows := by
  unfold firstCells?
  induction t.rows with
  | nil => simp
  | cons row rest ih =>
    rw [List.mapM_cons, List.mem_cons]
    cases row with
    | nil => simp
    | cons cell cells =>
      cases following : rest.mapM List.head? with
      | none =>
        simp only [List.head?_cons, Option.bind_eq_bind, Option.bind_some, Option.bind_none,
          ih.mp following, or_true]
      | some others =>
        have absent : [] ∉ rest := fun member => by
          rw [ih.mpr member] at following
          cases following
        simp [absent]

theorem exists_names {cells : List Cell} (texts : ¬ ∃ cell ∈ cells, cell.text? = none) :
    ∃ names : List Text, cells = names.map .text := by
  induction cells with
  | nil => exact ⟨[], rfl⟩
  | cons cell rest ih =>
    obtain ⟨names, rfl⟩ := ih fun ⟨odd, member, isOdd⟩ =>
      texts ⟨odd, List.mem_cons_of_mem _ member, isOdd⟩
    cases cell with
    | text t => exact ⟨t :: names, rfl⟩
    | _ => exact absurd ⟨_, List.mem_cons_self, rfl⟩ texts

theorem Opening.refused (opens : Opening path before opening (.error e) after) :
    (∀ event ∈ opening, event.concernsCursor = false) ∧
      (∀ text values ended, .run text values ended ∉ opening) ∧
      (∃ event ∈ opening, event.refusal? = some e) ∧
      ∀ event ∈ opening, ∀ other, event.refusal? = some other → other = e := by
  cases opens <;> simp [Event.concernsCursor, Event.refusal?]

theorem Opening.granted (opens : Opening path before opening (.ok ()) after) :
    ∃ connecting, opening = connecting ++ [.openCursor (.ok ())] ∧
      (∀ event ∈ connecting, event.concernsCursor = false) ∧
      (∀ text values ended, .run text values ended ∉ opening) ∧
      ∀ event ∈ opening, event.refusal? = none := by
  cases opens with
  | again => exact ⟨[], by simp [Event.refusal?]⟩
  | first =>
    exact ⟨[.connect path (.ok ()), .loadExtension (.ok ())],
      by simp [Event.refusal?, Event.concernsCursor]⟩

theorem Work.onlyRuns (works : Work job statements reply) :
    ∀ event ∈ statements, ∃ text values ended, event = .run text values ended := by
  cases works <;> simp

theorem createText_ne_countText (layer path : Text) (srid : Int) (other : Text) :
    createText layer path srid ≠ countText other := by
  intro same
  have first : (createText layer path srid).marks.head? = some (.char '\n') := rfl
  rw [same] at first
  have second : (countText other).marks.head? = some (.char 'S') := rfl
  rw [second] at first
  cases first

theorem Event.isFailure_iff {event : Event} : event.IsFailure ↔
    (∃ text values e, event = .run text values (.error e)) ∨ event.refusal? ≠ none := by
  rcases event with ⟨_, _ | _⟩ | _ | _ | ⟨_, _, _ | _⟩ | _ | _ <;>
    simp [Event.IsFailure, Event.refusal?]

/-- The steps of a job that was served: beside its statements nothing is run, and nothing is refused. -/
structure Serves (statements events : List Event) : Prop where
  ran : ∀ text values ended, .run text values ended ∈ events ↔ .run text values ended ∈ statements
  unrefused : ∀ event ∈ events, event.refusal? = none

theorem Opening.serves (opens : Opening path before opening (.ok ()) after)
    (works : Work job statements reply) :
    Serves statements (opening ++ (statements ++ [.closeCursor])) := by
  obtain ⟨connecting, _, _, noRun, unrefused⟩ := opens.granted
  constructor
  · intro text values ended
    simp [noRun]
  · intro event member
    simp only [List.mem_append, List.mem_singleton] at member
    rcases member with opened | ran | rfl
    · exact unrefused event opened
    · obtain ⟨text, values, ended, rfl⟩ := works.onlyRuns event ran
      rfl
    · rfl

section

variable {events : List Event} (serves : Serves statements events)

include serves

theorem Serves.failed_iff : (∃ event ∈ events, event.IsFailure) ↔
    ∃ text values e, .run text values (.error e) ∈ statements := by
  constructor
  · rintro ⟨event, member, failed⟩
    rcases Event.isFailure_iff.mp failed with ⟨text, values, e, rfl⟩ | refused
    · exact ⟨text, values, e, (serves.ran _ _ _).mp member⟩
    · exact absurd (serves.unrefused event member) refused
  · rintro ⟨text, values, e, member⟩
    exact ⟨_, (serves.ran _ _ _).mpr member, trivial⟩

theorem Work.lapses (works : Work job statements reply) {other : Reply}
    (lapse : job.Lapse events other) : reply = other := by
  cases lapse with
  | undescribed ran isOther =>
    have ran := (serves.ran _ _ _).mp ran
    cases works <;> simp_all
  | unlisted ran bare =>
    have ran := (serves.ran _ _ _).mp ran
    have unlisted := Table.firstCells?_eq_none_iff.mpr bare
    cases works <;> simp_all
  | unnamed ran first odd =>
    have ran := (serves.ran _ _ _).mp ran
    have listed := Table.firstCells?_eq_some_iff.mpr first
    cases works <;> simp_all
  | unserved member refused =>
    rw [serves.unrefused _ member] at refused
    cases refused
  | uncounted ran bare =>
    have ran := (serves.ran _ _ _).mp ran
    cases works <;> simp_all [(createText_ne_countText _ _ _ _).symm]

theorem Work.answered (works : Work job statements reply)
    (noLapse : ∀ other, ¬ job.Lapse events other) : job.IsAnswered events reply := by
  cases works with
  | refused e =>
    refine .inr ⟨_, rfl, serves.failed_iff.mpr ⟨_, _, e, List.mem_singleton_self _⟩, ?_⟩
    simp [serves.ran, kind_classify]
  | executed table => exact .inl ⟨table, (serves.ran _ _ _).mpr (List.mem_singleton_self _), rfl⟩
  | missing e isMissing => exact ⟨[], rfl, fun _ => rfl, by simp [serves.ran]⟩
  | undescribed e other =>
    exact absurd (.undescribed ((serves.ran _ _ _).mpr (List.mem_singleton_self _)) other) (noLapse _)
  | @described table found cells first =>
    have ran := (serves.ran _ _ _).mpr (List.mem_singleton_self _)
    have listed := Table.firstCells?_eq_some_iff.mp first
    obtain ⟨names, rfl⟩ := exists_names fun odd => noLapse _ (.unnamed ran listed odd)
    refine ⟨names, rfl, ?_, fun other ran => ?_⟩
    · rw [serves.failed_iff]
      simp
    · have same : other = found := by simpa [serves.ran] using ran
      rw [same]
      simpa only [List.forall₂_map_right_iff] using listed
  | unlisted found bare =>
    exact absurd (.unlisted ((serves.ran _ _ _).mpr (List.mem_singleton_self _))
      (Table.firstCells?_eq_none_iff.mp bare)) (noLapse _)
  | notCreated e =>
    exact .inr ⟨_, e, (serves.ran _ _ _).mpr (List.mem_singleton_self _), rfl⟩
  | notCounted created e =>
    exact .inr ⟨_, e, (serves.ran _ _ _).mpr (List.mem_cons_of_mem _ (List.mem_singleton_self _)), rfl⟩
  | uncounted created found bare =>
    refine absurd (.uncounted ((serves.ran _ _ _).mpr ?_) bare) (noLapse _)
    exact List.mem_cons_of_mem _ (List.mem_singleton_self _)
  | counted created found first =>
    refine .inl ⟨found, _, (serves.ran _ _ _).mpr ?_, first, rfl⟩
    exact List.mem_cons_of_mem _ (List.mem_singleton_self _)

end

theorem Job.answered_unserved (opens : Opening path before opening (.error e) after)
    (noLapse : ∀ other, ¬ job.Lapse opening other) : job.IsAnswered opening (job.unserved e) := by
  obtain ⟨_, noRun, ⟨event, member, refused⟩, _⟩ := opens.refused
  have failed : ∃ event ∈ opening, event.IsFailure :=
    ⟨event, member, Event.isFailure_iff.mpr (.inr (by simp [refused]))⟩
  cases job with
  | execute text values => exact .inr ⟨_, rfl, failed, by simp [noRun]⟩
  | describe table => exact ⟨[], rfl, fun _ => rfl, fun found ran => absurd ran (noRun _ _ _)⟩
  | load loading => exact absurd (.unserved member refused) (noLapse _)

theorem Job.lapses_unserved (opens : Opening path before opening (.error e) after) {other : Reply}
    (lapse : job.Lapse opening other) : job.unserved e = other := by
  obtain ⟨_, noRun, _, sole⟩ := opens.refused
  cases lapse with
  | undescribed ran | unlisted ran | unnamed ran => exact absurd ran (noRun _ _ _)
  | unserved member refused =>
    rw [sole _ member _ refused]
    rfl
  | uncounted ran => exact absurd ran (noRun _ _ _)

variable {move : Move} {events : List Event}

theorem Course.closesCursor (course : Course path move before events reply after) :
    ClosesCursor events := by
  cases course with
  | unserved opens => exact .none opens.refused.1
  | @served _ _ _ _ statements _ opens works =>
    obtain ⟨connecting, rfl, without, _⟩ := opens.granted
    have one : ClosesCursor (connecting ++ .openCursor (.ok ()) :: (statements ++ [.closeCursor])) := by
      refine .one fun event member => ?_
      rcases List.mem_append.mp member with earlier | ran
      · exact without event earlier
      · obtain ⟨_, _, _, rfl⟩ := works.onlyRuns event ran
        rfl
    rwa [List.append_assoc]
  | closed => exact .none (by simp [Event.concernsCursor])
  | idle => exact .none (by simp)

theorem Course.isSound (course : Course path move before events reply after) :
    Turn.IsSound ⟨move, events, reply⟩ := by
  refine ⟨course.closesCursor, ?_, ?_⟩
  · rintro job rfl noLapse
    cases course with
    | unserved opens => exact Job.answered_unserved opens noLapse
    | served opens works => exact works.answered (opens.serves works) noLapse
  · rintro job rfl other lapse
    cases course with
    | unserved opens => exact Job.lapses_unserved opens lapse
    | served opens works => exact works.lapses (opens.serves works) lapse

/-! ## What is kept -/

variable {given : Bool} {earlier later : List Event}

theorem IsKept.append (kept : IsKept path given earlier)
    (since : ∀ event ∈ later, event.concernsDatabase = false) : IsKept path given (earlier ++ later) := by
  cases kept with
  | given isGiven before => exact .given isGiven (List.forall_mem_append.mpr ⟨before, since⟩)
  | opened first before =>
    rw [List.append_assoc, List.cons_append, List.cons_append]
    exact .opened first (List.forall_mem_append.mpr ⟨before, since⟩)

theorem Opening.keeps {ended : Except EngineError Unit} (opens : Opening path before opening ended after)
    (kept : before = true → IsKept path given earlier) (isOpen : after = true) :
    IsKept path given (earlier ++ opening) := by
  cases opens with
  | again => exact (kept rfl).append (by simp [Event.concernsDatabase])
  | noDatabase | noExtension => cases isOpen
  | first => exact .opened earlier (by simp [Event.concernsDatabase])

/-- A move only leaves a database open that was so before, or that it opened with its functions. -/
theorem Course.keeps (course : Course path move before events reply after)
    (kept : before = true → IsKept path given earlier) (isOpen : after = true) :
    IsKept path given (earlier ++ events) := by
  cases course with
  | unserved opens => exact opens.keeps kept isOpen
  | served opens works =>
    -- What follows the opening of a cursor leaves the database alone.
    rw [← List.append_assoc]
    refine (opens.keeps kept isOpen).append fun event member => ?_
    rcases List.mem_append.mp member with ran | closed
    · obtain ⟨_, _, _, rfl⟩ := works.onlyRuns event ran
      rfl
    · cases List.mem_singleton.mp closed
      rfl
  | closed | idle => cases isOpen

end

namespace Session

variable (engine : Engine σ)

theorem turns_sound (moves : List Move) (session : Session σ) :
    ∀ turn ∈ (session.turns engine moves).1, turn.IsSound := by
  induction moves generalizing session with
  | nil => exact fun _ member => absurd member List.not_mem_nil
  | cons move rest ih =>
    obtain ⟨events, reply, after, turned, course, _⟩ := turn_course engine move session
    simp only [turns, turned]
    exact List.forall_mem_cons.mpr ⟨course.isSound, ih after⟩

theorem turns_keep {given : Bool} (moves : List Move) (session : Session σ) (earlier : List Event)
    (kept : session.isOpen = true → IsKept session.path given earlier)
    (isOpen : (session.turns engine moves).2.isOpen = true) :
    IsKept session.path given (earlier ++ (session.turns engine moves).1.flatMap (·.events)) := by
  -- A database may be kept from any earlier move on, so all that went before is part of the invariant.
  induction moves generalizing session earlier with
  | nil =>
    rw [turns, List.flatMap_nil, List.append_nil]
    exact kept isOpen
  | cons move rest ih =>
    obtain ⟨events, reply, after, turned, course, _, samePath⟩ := turn_course engine move session
    simp only [turns, turned] at isOpen ⊢
    rw [List.flatMap_cons, ← List.append_assoc, ← samePath]
    refine ih after _ (fun stillOpen => ?_) isOpen
    rw [samePath]
    exact course.keeps kept stillOpen

theorem turns_replies (moves : List Move) (session : Session σ) :
    (session.turns engine moves).1.map (·.move) = moves ∧
      ((session.turns engine moves).1.map (·.reply), (session.turns engine moves).2) =
        session.replies engine moves := by
  induction moves generalizing session with
  | nil => exact ⟨rfl, rfl⟩
  | cons move rest ih =>
    obtain ⟨events, reply, after, turned, _, plain, _⟩ := turn_course engine move session
    obtain ⟨sameMoves, sameReplies⟩ := ih after
    simp only [turns, replies, turned, plain, List.map_cons, sameMoves, ← sameReplies, true_and]

/-- Whatever is asked one after the other, each move closes the cursor that it obtains and is answered as
it should be, unless it lets an error through, and what is open at the end was given or opened with its
spatial functions. -/
theorem turns_keep_contract (moves : List Move) (session : Session σ) :
    ((session.turns engine moves).1.map (·.move) = moves ∧
      ((session.turns engine moves).1.map (·.reply), (session.turns engine moves).2) =
        session.replies engine moves) ∧
    (∀ turn ∈ (session.turns engine moves).1, turn.IsSound) ∧
    ((session.turns engine moves).2.isOpen = true → IsKept session.path session.isOpen
      ((session.turns engine moves).1.flatMap (·.events))) :=
  ⟨turns_replies engine moves session, turns_sound engine moves session,
    turns_keep engine moves session [] fun isOpen => .given isOpen (by simp)⟩

/-! ## What is let through -/

def unreadable : EngineError := ⟨.other "IOException", "could not open file"⟩

/-- An engine that opens its database and fails at once, with the cursor or with what runs on it. -/
def failing (hasCursor : Bool) : Engine Unit where
  connect _ _ := (.ok (), ())
  loadExtension _ := (.ok (), ())
  openCursor _ := (if hasCursor then .ok () else .error unreadable, ())
  run _ _ _ := (.error unreadable, ())
  closeCursor := id
  close := id

def parcelLoading : Loading where
  layer := "parcels"
  path := "data/parcels.parquet"
  stated := .num (.int 4326)
  srid := 4326
  isDeclared := rfl
  isAllowed := rfl

theorem raw_errors_are_let_through :
    ((atPath ":memory:" ()).replies (failing false) [.ask (.load parcelLoading)]).1 =
      [.raw unreadable] ∧
    ((atPath ":memory:" ()).replies (failing true) [.ask (.describe "parcels")]).1 =
      [.raw unreadable] :=
  ⟨rfl, rfl⟩

end Session

end SpatialQuery.Database
