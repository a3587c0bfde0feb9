import SpatialQuery.Proofs.Service.Record
import SpatialQuery.Proofs.Service.Transparent

/-!
# The courses of requests

Requests take their steps in any order, while registries are put in force, results are cleared and the
outside changes as it likes.  A course keeps to the registry that was in force at its start: what it has
asked of the outside, at whatever stage it stands, is at most the prompt of its message and then at most the
statement of its query, as that registry has them.
-/

set_option autoImplicit false

namespace SpatialQuery.Service

variable [Stack] {τ : Type}

/-! ## Courses -/

def Request.query? : Request → Option Query
  | .structured body => (Query.ofJson (Query.payload body).1).toOption
  | .chat _ => none

/-- A request on its way, with notes on which nothing depends. -/
structure Course where
  request : Request
  /-- The registry in force when the request came. -/
  snapshot : Registry
  stage : Stage
  /-- Its query, once it is known: the one in the body, or that of the parse. -/
  query? : Option Query
  calls : List Call

def Course.executions (course : Course) : List (Text × List Json) :=
  course.calls.filterMap Call.statement?

/-- The query as it is known after the next step. -/
def Course.queryAfter (backend : Backend τ) (s : Service τ) (course : Course) : Option Query :=
  match course.stage with
  | .screened _ _ key _ => (s.remembered backend key).1.map (·.query)
  | .understood _ _ _ intent _ => some intent.query
  | _ => course.query?

structure Traffic (τ : Type) where
  service : Service τ
  courses : List Course

inductive Move (τ : Type) where
  /-- A request comes and reads the registry in force. -/
  | enter (request : Request)
  | advance (index : Nat)
  | swap (registry : Registry)
  | clear
  /-- Something else happens outside. -/
  | drift (outside : τ)

namespace Traffic

def start (s : Service τ) : Traffic τ :=
  ⟨{ s with parses := s.parses.clear, results := s.results.clear }, []⟩

def advance (backend : Backend τ) (traffic : Traffic τ) (index : Nat) (course : Course) : Traffic τ :=
  let (stage, service) := course.stage.next backend.recorded (traffic.service.recording [])
  { service := service.unrecorded
    courses := traffic.courses.set index { course with
      stage
      query? := course.queryAfter backend traffic.service
      calls := course.calls ++ service.outside.2 } }

/-- A move; one that is not possible changes nothing. -/
def act (backend : Backend τ) (traffic : Traffic τ) : Move τ → Traffic τ
  | .enter request =>
    { traffic with courses := traffic.courses ++
        [⟨request, traffic.service.registry, Stage.receive traffic.service request, request.query?, []⟩] }
  | .advance index =>
    match traffic.courses[index]? with
    | some course => traffic.advance backend index course
    | none => traffic
  | .swap registry => { traffic with service := traffic.service.swap registry }
  | .clear => { traffic with service := traffic.service.clearResults }
  | .drift outside => { traffic with service := { traffic.service with outside } }

def run (backend : Backend τ) (traffic : Traffic τ) (moves : List (Move τ)) : Traffic τ :=
  moves.foldl (act backend) traffic

/-- A reload that nothing comes between: the outside is asked, and a registry is put in force before the
results are cleared. -/
theorem run_reload (backend : Backend τ) (traffic : Traffic τ) {registry : Registry} {after : Service τ}
    (reloaded : traffic.service.reload backend = (.ok registry, after)) :
    traffic.run backend [.drift after.outside, .swap registry, .clear] =
      { traffic with service := after } := by
  unfold Service.reload Service.build at reloaded
  rcases built : buildRegistry backend traffic.service.outside with ⟨fault | again, outside⟩
  · rw [built] at reloaded
    cases reloaded
  · rw [built] at reloaded
    cases reloaded
    rfl

end Traffic

/-! ## What a course has asked for -/

section

variable (snapshot : Registry) (request : Request)

/-- The request is a message that the snapshot supports. -/
def IsSupported (message : Text) : Prop :=
  request = .chat message ∧
    (Chat.assess Chat.Concept.builtIn message snapshot.loadedNames).isUnsupported = false

/-- The query is well formed: the body holds it, or a reply of the model does, in which case the message
is supported. -/
inductive Asks : Query → Prop
  | structured {body : Json} {q : Query} (isStructured : request = .structured body)
      (read : Query.ofJson (Query.payload body).1 = .ok q) : Asks q
  | chat {message reply : Text} {q : Query} (isSupported : IsSupported snapshot request message)
      (understood : Chat.queryOfReply reply = .ok q) : Asks q

/-- Nothing but at most one prompt, that of a supported message. -/
inductive Prompts : List Call → Prop
  | none : Prompts []
  | once {message : Text} (isSupported : IsSupported snapshot request message) :
      Prompts [.complete (Chat.prompt snapshot message)]

/-- Nothing but at most one prompt and then at most one statement, that of the plan. -/
inductive Runs (plan : Plan) : List Call → Prop
  | none {calls : List Call} (prompts : Prompts snapshot request calls) : Runs plan calls
  | once {calls : List Call} {statement : Sql.Written} (prompts : Prompts snapshot request calls)
      (compiled : plan.statement = .ok statement) :
      Runs plan (calls ++ [.execute statement.text (statement.values.map FilterValue.wire)])

/-- Where a known query has got to, and the calls that were made for the request. -/
inductive Pursues (q : Query) : Stage → List Call → Prop
  | planned {origin : Origin} {plan : Plan} {calls : List Call}
      (planned : Plan.ofQuery snapshot q = .ok plan) (prompts : Prompts snapshot request calls) :
      Pursues q (.planned origin plan) calls
  | executing {origin : Origin} {plan : Plan} {statement : Sql.Written} {calls : List Call}
      (planned : Plan.ofQuery snapshot q = .ok plan) (prompts : Prompts snapshot request calls)
      (compiled : plan.statement = .ok statement) : Pursues q (.executing origin plan statement) calls
  | computed {origin : Origin} {plan : Plan} {result : StoredResult} {calls : List Call}
      (planned : Plan.ofQuery snapshot q = .ok plan) (runs : Runs snapshot request plan calls) :
      Pursues q (.computed origin plan result) calls
  | finished {outcome : Except Failure Text} {plan : Plan} {calls : List Call}
      (planned : Plan.ofQuery snapshot q = .ok plan) (runs : Runs snapshot request plan calls) :
      Pursues q (.finished outcome) calls
  /-- The snapshot refuses the query. -/
  | refused {failure : Failure} {calls : List Call} (refused : Plan.ofQuery snapshot q = .error failure)
      (prompts : Prompts snapshot request calls) : Pursues q (.finished (.error failure)) calls

/-- Where a course stands, with its query as far as it is known and the calls that were made. -/
inductive Proceeds : Stage → Option Query → List Call → Prop
  | screened {message key : Text} {assessment : Chat.Assessment}
      (isSupported : IsSupported snapshot request message) :
      Proceeds (.screened snapshot message key assessment) none []
  | asking {message key : Text} {assessment : Chat.Assessment}
      (isSupported : IsSupported snapshot request message) :
      Proceeds (.asking snapshot message key assessment) none []
  | understood {message key reply : Text} {assessment : Chat.Assessment} {intent : Chat.Intent}
      {milliseconds : Number} (isSupported : IsSupported snapshot request message)
      (understood : Chat.queryOfReply reply = .ok intent.query) :
      Proceeds (.understood snapshot key assessment intent milliseconds) none
        [.complete (Chat.prompt snapshot message)]
  | known {q : Query} {stage : Stage} {calls : List Call} (asks : Asks snapshot request q)
      (pursues : Pursues snapshot request q stage calls) : Proceeds stage (some q) calls
  | illFormed {body : Json} {issues : List Issue} (isStructured : request = .structured body)
      (unread : Query.ofJson (Query.payload body).1 = .error issues) :
      Proceeds (.finished (.error (.illFormed issues))) none []
  | unread {message : Text} {failure : Failure} {calls : List Call}
      (isChat : request = .chat message) (prompts : Prompts snapshot request calls) :
      Proceeds (.finished (.error failure)) none calls

end

/-! ## Steps -/

/-- Each parse that is kept was read from a reply. -/
def KeepsReplies (s : Service τ) : Prop :=
  ∀ e ∈ s.parses.entries, ∃ reply, Chat.queryOfReply reply = .ok e.2.value.query

variable {snapshot : Registry} {request : Request} {backend : Backend τ} {s : Service τ}

omit [Stack] in
theorem pursues_ofQuery (origin : Origin) (q : Query) {calls : List Call}
    (prompts : Prompts snapshot request calls) :
    Pursues snapshot request q (Stage.ofQuery snapshot origin q) calls := by
  unfold Stage.ofQuery
  split
  · rename_i plan planned
    exact .planned planned prompts
  · rename_i failure refused
    exact .refused refused prompts

/-- What is found among the results ends the course; otherwise only the statement of the plan is run. -/
theorem pursues_planned {origin : Origin} {q : Query} {plan : Plan} {calls : List Call}
    (planned : Plan.ofQuery snapshot q = .ok plan) (prompts : Prompts snapshot request calls) :
    Pursues snapshot request q (Stage.next backend (.planned origin plan) s).1 calls := by
  simp only [Stage.next]
  split
  · exact .finished planned (.none prompts)
  · split
    · rename_i statement compiled
      exact .executing planned prompts compiled
    · exact .finished planned (.none prompts)

theorem pursues_executing {origin : Origin} {q : Query} {plan : Plan} {statement : Sql.Written}
    {calls : List Call} (planned : Plan.ofQuery snapshot q = .ok plan)
    (prompts : Prompts snapshot request calls) (compiled : plan.statement = .ok statement) :
    Pursues snapshot request q (Stage.execute backend origin plan statement s).1
      (calls ++ [.execute statement.text (statement.values.map FilterValue.wire)]) := by
  rcases Stage.execute_stage backend origin plan statement s with ⟨failure, failed⟩ | ⟨result, computed⟩
  · rw [failed]
    exact .finished planned (.once prompts compiled)
  · rw [computed]
    exact .computed planned (.once prompts compiled)

theorem pursues_next {q : Query} {stage : Stage} {calls : List Call}
    (pursues : Pursues snapshot request q stage calls) (s : Service τ) :
    Pursues snapshot request q (stage.next backend s).1 (calls ++ stage.calls) := by
  cases pursues with
  | planned planned prompts =>
    simp only [Stage.calls, List.append_nil]
    exact pursues_planned planned prompts
  | executing planned prompts compiled => exact pursues_executing planned prompts compiled
  | computed planned runs =>
    simp only [Stage.calls, List.append_nil]
    exact .finished planned runs
  | finished planned runs =>
    simp only [Stage.calls, List.append_nil]
    exact .finished planned runs
  | refused refused prompts =>
    simp only [Stage.calls, List.append_nil]
    exact .refused refused prompts

theorem proceeds_receive (s : Service τ) (request : Request) :
    Proceeds s.registry request (Stage.receive s request) request.query? [] := by
  cases request with
  | structured body =>
    simp only [Stage.receive, Request.query?]
    cases read : Query.ofJson (Query.payload body).1 with
    | error issues => exact .illFormed rfl read
    | ok q => exact .known (.structured rfl read) (pursues_ofQuery _ q .none)
  | chat message =>
    simp only [Stage.receive, Request.query?]
    split
    · split
      · exact .unread rfl .none
      · rename_i supported
        split
        · exact .screened ⟨rfl, Bool.not_eq_true _ ▸ supported⟩
        · exact .unread rfl .none
    · exact .unread rfl .none

theorem proceeds_screened (kept : KeepsReplies s) {message key : Text} {assessment : Chat.Assessment}
    (isSupported : IsSupported snapshot request message) :
    Proceeds snapshot request (Stage.next backend (.screened snapshot message key assessment) s).1
      ((s.remembered backend key).1.map (·.query)) [] := by
  simp only [Stage.next]
  rcases looked : s.remembered backend key with ⟨_ | intent, after⟩
  · exact .asking isSupported
  · have found : (s.remembered backend key).1 = some intent := congrArg Prod.fst looked
    obtain ⟨entry, held, rfl⟩ := Cache.mem_of_get_eq_some found
    obtain ⟨reply, understood⟩ := kept _ held
    exact .known (.chat isSupported understood) (pursues_ofQuery _ _ .none)

theorem proceeds_asking {message key : Text} {assessment : Chat.Assessment}
    (isSupported : IsSupported snapshot request message) (s : Service τ) :
    Proceeds snapshot request (Stage.ask backend snapshot message key assessment s).1 none
      [.complete (Chat.prompt snapshot message)] := by
  rcases Stage.ask_stage backend snapshot message key assessment s with
    ⟨failure, failed⟩ | ⟨reply, intent, milliseconds, read, understood⟩
  · rw [failed]
    exact .unread isSupported.1 (.once isSupported)
  · rw [understood]
    exact .understood isSupported (query_of_intentOfReply read)

theorem proceeds_next (kept : KeepsReplies s) {course : Course}
    (proceeds : Proceeds course.snapshot course.request course.stage course.query? course.calls) :
    Proceeds course.snapshot course.request (course.stage.next backend s).1
      (course.queryAfter backend s) (course.calls ++ course.stage.calls) := by
  obtain ⟨request, snapshot, stage, query?, calls⟩ := course
  dsimp only at proceeds ⊢
  cases proceeds with
  | screened isSupported => exact proceeds_screened kept isSupported
  | asking isSupported => exact proceeds_asking isSupported s
  | understood isSupported understood =>
    exact .known (.chat isSupported understood) (pursues_ofQuery _ _ (.once isSupported))
  | @known q stage calls asks pursues =>
    have still : Course.queryAfter backend s ⟨request, snapshot, stage, some q, calls⟩ = some q := by
      cases pursues <;> rfl
    rw [still]
    exact .known asks (pursues_next pursues s)
  | illFormed isStructured unread => exact .illFormed isStructured unread
  | unread isChat prompts =>
    simp only [Stage.calls, List.append_nil]
    exact .unread isChat prompts

theorem parses_next_of_pursues {q : Query} {stage : Stage} {calls : List Call}
    (pursues : Pursues snapshot request q stage calls) (s : Service τ) :
    (stage.next backend s).2.parses = s.parses := by
  cases pursues with
  | planned planned prompts =>
    rw [Stage.next_planned_service]
    rfl
  | @executing origin plan statement calls planned prompts compiled =>
    obtain ⟨outside, elsewhere⟩ := Stage.execute_elsewhere backend origin plan statement s
    simp only [Stage.next, elsewhere]
  | computed planned runs => rfl
  | finished planned runs => rfl
  | refused refused prompts => rfl

theorem keepsReplies_next (kept : KeepsReplies s) {course : Course}
    (proceeds : Proceeds course.snapshot course.request course.stage course.query? course.calls) :
    KeepsReplies (course.stage.next backend s).2 := by
  obtain ⟨request, snapshot, stage, query?, calls⟩ := course
  dsimp only at proceeds ⊢
  cases proceeds with
  | screened isSupported =>
    intro e member
    rw [Stage.next_screened_service] at member
    exact kept e (Cache.entries_get_subset member)
  | @asking message key assessment isSupported =>
    obtain ⟨outside, elsewhere⟩ := Stage.ask_elsewhere backend snapshot message key assessment s
    simp only [Stage.next, elsewhere]
    exact kept
  | understood isSupported understood =>
    intro e member
    rcases Cache.mem_entries_set member with old | rfl
    · exact kept e old
    · exact ⟨_, understood⟩
  | known asks pursues =>
    unfold KeepsReplies
    rw [parses_next_of_pursues pursues]
    exact kept
  | illFormed isStructured unread => exact kept
  | unread isChat prompts => exact kept

/-! ## Runs -/

namespace Traffic

variable {traffic : Traffic τ}

/-- Every course is where it may be, whatever the others did. -/
structure IsSound (traffic : Traffic τ) : Prop where
  kept : traffic.service.KeepsReplies
  courses : ∀ course ∈ traffic.courses,
    Proceeds course.snapshot course.request course.stage course.query? course.calls

theorem isSound_start (s : Service τ) : (start s).IsSound := by
  constructor
  · intro e member
    exact absurd member List.not_mem_nil
  · intro course member
    exact absurd member List.not_mem_nil

theorem advance_eq (backend : Backend τ) (traffic : Traffic τ) (index : Nat) (course : Course) :
    traffic.advance backend index course =
      { service := (course.stage.next backend traffic.service).2
        courses := traffic.courses.set index { course with
          stage := (course.stage.next backend traffic.service).1
          query? := course.queryAfter backend traffic.service
          calls := course.calls ++ course.stage.calls } } := by
  simp only [advance, next_recorded]
  rfl

theorem isSound_advance (sound : traffic.IsSound) {index : Nat} {course : Course}
    (isCourse : traffic.courses[index]? = some course) :
    (traffic.advance backend index course).IsSound := by
  have proceeds := sound.courses course (List.mem_of_getElem? isCourse)
  rw [advance_eq]
  refine ⟨keepsReplies_next sound.kept proceeds, ?_⟩
  intro other member
  rcases List.mem_or_eq_of_mem_set member with old | rfl
  · exact sound.courses other old
  · exact proceeds_next sound.kept proceeds

theorem isSound_act (sound : traffic.IsSound) (move : Move τ) : (traffic.act backend move).IsSound := by
  cases move with
  | enter request =>
    refine ⟨sound.kept, ?_⟩
    intro course member
    rcases List.mem_append.mp member with old | new
    · exact sound.courses course old
    · rw [List.mem_singleton.mp new]
      exact proceeds_receive traffic.service request
  | advance index =>
    simp only [act]
    split
    · rename_i course isCourse
      exact isSound_advance sound isCourse
    · exact sound
  | swap registry => exact ⟨sound.kept, sound.courses⟩
  | clear => exact ⟨sound.kept, sound.courses⟩
  | drift outside => exact ⟨sound.kept, sound.courses⟩

theorem isSound_run (sound : traffic.IsSound) (moves : List (Move τ)) :
    (traffic.run backend moves).IsSound := by
  induction moves generalizing traffic with
  | nil => exact sound
  | cons move rest ih => exact ih (isSound_act sound move)

theorem exists_course_act (backend : Backend τ) {index : Nat} {course : Course}
    (isCourse : traffic.courses[index]? = some course) (move : Move τ) :
    ∃ later, (traffic.act backend move).courses[index]? = some later ∧
      later.request = course.request ∧ later.snapshot = course.snapshot := by
  cases move with
  | enter request =>
    have within := (List.getElem?_eq_some_iff.mp isCourse).1
    exact ⟨course, (List.getElem?_append_left within).trans isCourse, rfl, rfl⟩
  | advance other =>
    simp only [act]
    split
    · rename_i moved isMoved
      by_cases same : other = index
      · subst same
        obtain rfl : course = moved := Option.some.inj (isCourse.symm.trans isMoved)
        have within := (List.getElem?_eq_some_iff.mp isCourse).1
        exact ⟨_, List.getElem?_set_self within, rfl, rfl⟩
      · exact ⟨course, (List.getElem?_set_ne same).trans isCourse, rfl, rfl⟩
    · exact ⟨course, isCourse, rfl, rfl⟩
  | swap registry => exact ⟨course, isCourse, rfl, rfl⟩
  | clear => exact ⟨course, isCourse, rfl, rfl⟩
  | drift outside => exact ⟨course, isCourse, rfl, rfl⟩

theorem exists_course_run (backend : Backend τ) {index : Nat} {course : Course}
    (isCourse : traffic.courses[index]? = some course) (moves : List (Move τ)) :
    ∃ later, (traffic.run backend moves).courses[index]? = some later ∧
      later.request = course.request ∧ later.snapshot = course.snapshot := by
  induction moves generalizing traffic course with
  | nil => exact ⟨course, isCourse, rfl, rfl⟩
  | cons move rest ih =>
    obtain ⟨next, isNext, sameRequest, sameSnapshot⟩ := exists_course_act backend isCourse move
    obtain ⟨later, isLater, laterRequest, laterSnapshot⟩ := ih isNext
    exact ⟨later, isLater, laterRequest.trans sameRequest, laterSnapshot.trans sameSnapshot⟩

end Traffic

end SpatialQuery.Service
