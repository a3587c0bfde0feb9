import SpatialQuery.Chat.Prompt
import SpatialQuery.Service.Plan

/-!
# The stages of a request

A request goes from stage to stage.  Each step reads or writes at most one of the things that requests
share: the registry, which is read once and kept, the parses, the results, the model, or the database.
Between two steps other requests and reloads may take theirs.
-/

set_option autoImplicit false

namespace SpatialQuery.Service

inductive Request where
  /-- A structured query, bare or wrapped. -/
  | structured (body : Json)
  | chat (message : Text)

inductive Stage where
  | received (request : Request)
  /-- The message fits the registry.  Its parse is looked up next, under its key. -/
  | screened (registry : Registry) (message key : Text) (assessment : Chat.Assessment)
  | asking (registry : Registry) (message key : Text) (assessment : Chat.Assessment)
  /-- The model gave an intent, which is kept next. -/
  | understood (registry : Registry) (key : Text) (assessment : Chat.Assessment)
      (intent : Chat.Intent) (milliseconds : Number)
  | planned (origin : Origin) (plan : Plan)
  | executing (origin : Origin) (plan : Plan) (statement : Sql.Written)
  | computed (origin : Origin) (plan : Plan) (result : StoredResult)
  | finished (outcome : Except Failure Text)

namespace Stage

variable {τ : Type}

def failed (failure : Failure) : Stage := .finished (.error failure)

def ofQuery (registry : Registry) (origin : Origin) (q : Query) : Stage :=
  match Plan.ofQuery registry q with
  | .ok plan => .planned origin plan
  | .error failure => failed failure

/-- The registry in force is read here and nowhere else. -/
def receive (s : Service τ) : Request → Stage
  | .structured body =>
    let (payload, wrapping) := Query.payload body
    match Query.ofJson payload with
    | .ok q => ofQuery s.registry (.structured wrapping) q
    | .error issues => failed (.illFormed issues)
  | .chat message =>
    if s.hasParser then
      let assessment := Chat.assess Chat.Concept.builtIn message s.registry.loadedNames
      if assessment.isUnsupported then failed (.ungroundable assessment)
      else
        match messageKey message with
        | .ok key => .screened s.registry message key assessment
        | .error fault => failed (.unencodable fault)
    else failed .noParser

def millisecondsBetween (start stop : Number) : Number := (stop.sub start).mul (.int 1000)

def ask [Stack] (backend : Backend τ) (registry : Registry) (message key : Text)
    (assessment : Chat.Assessment) (s : Service τ) : Stage × Service τ :=
  let (start, s) := s.watch backend
  let (completion, s) := s.complete backend (Chat.prompt registry message)
  match completion with
  | .error e => (failed (.model e), s)
  | .ok reply =>
    match Chat.intentOfReply reply registry with
    | .error fault => (failed (.reply fault reply), s)
    | .ok intent =>
      let (stop, s) := s.watch backend
      (.understood registry key assessment intent (millisecondsBetween start stop), s)

def execute [Stack] (backend : Backend τ) (origin : Origin) (plan : Plan) (statement : Sql.Written)
    (s : Service τ) : Stage × Service τ :=
  let (start, s) := s.watch backend
  let (rows, s) := s.execute backend statement.text (statement.values.map FilterValue.wire)
  match rows with
  | .error e => (failed (plan.executionFailure e), s)
  | .ok rows =>
    let (stop, s) := s.watch backend
    match plan.result rows (millisecondsBetween start stop) with
    | .ok result => (.computed origin plan result, s)
    | .error failure => (failed failure, s)

/-- One step.  A finished request stays as it is. -/
def next [Stack] (backend : Backend τ) : Stage → Service τ → Stage × Service τ
  | .received request, s => (receive s request, s)
  | .screened registry message key assessment, s =>
    match s.remembered backend key with
    | (some intent, s) => (ofQuery registry (.chat intent assessment true (.real 0)) intent.query, s)
    | (none, s) => (.asking registry message key assessment, s)
  | .asking registry message key assessment, s => ask backend registry message key assessment s
  | .understood registry key assessment intent milliseconds, s =>
    (ofQuery registry (.chat intent assessment false milliseconds) intent.query,
      s.remember backend key intent)
  | .planned origin plan, s =>
    match s.find backend plan.key with
    | (some result, s) => (.finished (plan.answer origin true result), s)
    | (none, s) =>
      match plan.statement with
      | .ok statement => (.executing origin plan statement, s)
      | .error failure => (failed failure, s)
  | .executing origin plan statement, s => execute backend origin plan statement s
  | .computed origin plan result, s =>
    (.finished (plan.answer origin false result), s.store backend plan.key result)
  | .finished outcome, s => (.finished outcome, s)

def remaining : Stage → Nat
  | .received _ => 7
  | .screened _ _ _ _ => 6
  | .asking _ _ _ _ => 5
  | .understood _ _ _ _ _ => 4
  | .planned _ _ => 3
  | .executing _ _ _ => 2
  | .computed _ _ _ => 1
  | .finished _ => 0

theorem remaining_ofQuery (registry : Registry) (origin : Origin) (q : Query) :
    (ofQuery registry origin q).remaining ≤ 3 := by
  unfold ofQuery
  split <;> simp [remaining, failed]

theorem remaining_receive (s : Service τ) (request : Request) :
    (receive s request).remaining ≤ 6 := by
  cases request with
  | structured body =>
    simp only [receive]
    split
    · exact Nat.le_trans (remaining_ofQuery ..) (by decide)
    · simp [remaining, failed]
  | chat message =>
    simp only [receive]
    split
    · split
      · simp [remaining, failed]
      · split <;> simp [remaining, failed]
    · simp [remaining, failed]

theorem remaining_ask [Stack] (backend : Backend τ) (registry : Registry) (message key : Text)
    (assessment : Chat.Assessment) (s : Service τ) :
    (ask backend registry message key assessment s).1.remaining ≤ 4 := by
  simp only [ask]
  split
  · simp [remaining, failed]
  · split <;> simp [remaining, failed]

theorem remaining_execute [Stack] (backend : Backend τ) (origin : Origin) (plan : Plan)
    (statement : Sql.Written) (s : Service τ) :
    (execute backend origin plan statement s).1.remaining ≤ 1 := by
  simp only [execute]
  split
  · simp [remaining, failed]
  · split <;> simp [remaining, failed]

/-- Each step brings a request nearer to its end. -/
theorem remaining_next [Stack] (backend : Backend τ) (stage : Stage) (s : Service τ)
    (unfinished : 0 < stage.remaining) :
    (next backend stage s).1.remaining < stage.remaining := by
  cases stage with
  | received request => exact Nat.lt_succ_of_le (remaining_receive s request)
  | screened registry message key assessment =>
    simp only [next]
    split
    · exact Nat.lt_of_le_of_lt (remaining_ofQuery ..) (by simp [remaining])
    · simp [remaining]
  | asking registry message key assessment =>
    exact Nat.lt_succ_of_le (remaining_ask backend registry message key assessment s)
  | understood registry key assessment intent milliseconds =>
    exact Nat.lt_succ_of_le (remaining_ofQuery ..)
  | planned origin plan =>
    simp only [next]
    split
    · simp [remaining]
    · split <;> simp [remaining, failed]
  | executing origin plan statement =>
    exact Nat.lt_succ_of_le (remaining_execute backend origin plan statement s)
  | computed origin plan result => simp [next, remaining]
  | finished outcome => simp [remaining] at unfinished

def outcome? : Stage → Option (Except Failure Text)
  | .finished outcome => some outcome
  | _ => none

theorem remaining_pos {stage : Stage} (unfinished : stage.outcome? = none) :
    0 < stage.remaining := by
  cases stage <;> simp_all [outcome?, remaining]

/-- Takes every step that is left, with no other step between. -/
def run [Stack] (backend : Backend τ) (stage : Stage) (s : Service τ) :
    Except Failure Text × Service τ :=
  match _unfinished : stage.outcome? with
  | some outcome => (outcome, s)
  | none =>
    let r := next backend stage s
    run backend r.1 r.2
termination_by stage.remaining
decreasing_by exact remaining_next backend stage s (remaining_pos _unfinished)

end Stage

variable {τ : Type}

def serve [Stack] (backend : Backend τ) (request : Request) (s : Service τ) :
    Except Failure Text × Service τ :=
  (Stage.received request).run backend s

end SpatialQuery.Service
