import SpatialQuery.Proofs.Service.Courses

/-!
# Only what is grounded is run

A request runs at most one statement, that of its own query, and only after the query passed every check
against the registry that was in force when the request came.  What was kept from before, and what is put in
force later, lets nothing past these checks.
-/

set_option autoImplicit false

namespace SpatialQuery.Service

variable {τ : Type} {snapshot : Registry} {request : Request}

/-! ## What a course may do -/

/-- The statement that a query comes to, as it was normalized and bounded, after a registry refused no part
of it. -/
def IsStatementOf (registry : Registry) (q : Query) (execution : Text × List Json) : Prop :=
  ∃ normal notes statement, q.normalize .builtIn = .ok (normal, notes) ∧
    normal.groundingIssues registry = [] ∧
    Sql.compile registry (normal.limited registry).query (.real (normal.limited registry).tolerance) =
      .ok statement ∧
    execution = (statement.text, statement.values.map FilterValue.wire)

def Course.Failed (course : Course) (failure : Failure) : Prop :=
  course.stage = .finished (.error failure)

/-- All that a course may do, by the snapshot that it began with. -/
structure Course.IsGrounded [Stack] (course : Course) : Prop where
  once : course.executions.length ≤ 1
  /-- What is run is the statement of the query. -/
  compiled : ∀ execution ∈ course.executions, ∃ q, course.query? = some q ∧
    Asks course.snapshot course.request q ∧ IsStatementOf course.snapshot q execution
  illFormed : ∀ body issues, course.request = .structured body →
    Query.ofJson (Query.payload body).1 = .error issues →
      course.Failed (.illFormed issues) ∧ course.calls = []
  wellFormed : ∀ body q, course.request = .structured body →
    Query.ofJson (Query.payload body).1 = .ok q → course.query? = some q
  unsupported : ∀ q issues, course.query? = some q → q.normalize .builtIn = .error issues →
    course.Failed (.unsupported issues) ∧ course.executions = []
  ungrounded : ∀ q normal notes, course.query? = some q → q.normalize .builtIn = .ok (normal, notes) →
    normal.groundingIssues course.snapshot ≠ [] →
      course.Failed (.ungrounded (normal.groundingIssues course.snapshot)
        (Query.suggestions course.snapshot (normal.groundingIssues course.snapshot)) notes) ∧
      course.executions = []
  /-- As long as no query is known there is nothing to run, and nothing to answer. -/
  unread : course.query? = none → course.executions = [] ∧
    ∀ outcome, course.stage = .finished outcome → ∃ failure, outcome = .error failure
  /-- Of a message that the snapshot does not support, not even the model is asked. -/
  ungroundable : ∀ message, course.request = .chat message →
    (Chat.assess Chat.Concept.builtIn message course.snapshot.loadedNames).isUnsupported = true →
      (∃ failure, course.Failed failure) ∧ course.calls = []

theorem statements_of_prompts {calls : List Call} (prompts : Prompts snapshot request calls) :
    calls.filterMap Call.statement? = [] := by
  cases prompts with
  | none => rfl
  | once isSupported => rfl

theorem statements_of_runs {plan : Plan} {calls : List Call} (runs : Runs snapshot request plan calls) :
    calls.filterMap Call.statement? = [] ∨ ∃ statement, plan.statement = .ok statement ∧
      calls.filterMap Call.statement? =
        [(statement.text, statement.values.map FilterValue.wire)] := by
  cases runs with
  | none prompts => exact Or.inl (statements_of_prompts prompts)
  | @once calls statement prompts compiled =>
    refine Or.inr ⟨statement, compiled, ?_⟩
    rw [List.filterMap_append, statements_of_prompts prompts]
    rfl

theorem isStatementOf_plan {q : Query} {plan : Plan} {statement : Sql.Written}
    (planned : Plan.ofQuery snapshot q = .ok plan) (compiled : plan.statement = .ok statement) :
    IsStatementOf snapshot q (statement.text, statement.values.map FilterValue.wire) := by
  obtain ⟨normal, notes, normalized, grounded, rfl⟩ := Plan.exists_of_ofQuery planned
  exact ⟨normal, notes, statement, normalized, grounded, mapError_eq_ok_iff.mp compiled, rfl⟩

section

variable {stage : Stage} {query? : Option Query} {calls : List Call}

theorem statements_of_pursues {q : Query} (pursues : Pursues snapshot request q stage calls) :
    calls.filterMap Call.statement? = [] ∨
      ∃ execution, IsStatementOf snapshot q execution ∧ calls.filterMap Call.statement? = [execution] := by
  have ran : ∀ {plan : Plan}, Plan.ofQuery snapshot q = .ok plan → Runs snapshot request plan calls →
      calls.filterMap Call.statement? = [] ∨ ∃ execution, IsStatementOf snapshot q execution ∧
        calls.filterMap Call.statement? = [execution] := by
    intro plan planned runs
    rcases statements_of_runs runs with none | ⟨statement, compiled, one⟩
    · exact Or.inl none
    · exact Or.inr ⟨_, isStatementOf_plan planned compiled, one⟩
  cases pursues with
  | planned planned prompts => exact Or.inl (statements_of_prompts prompts)
  | executing planned prompts compiled => exact Or.inl (statements_of_prompts prompts)
  | computed planned runs => exact ran planned runs
  | finished planned runs => exact ran planned runs
  | refused refused prompts => exact Or.inl (statements_of_prompts prompts)

/-- A query that the snapshot refuses has failed as soon as it is known. -/
theorem failed_of_refused {q : Query} {failure : Failure}
    (pursues : Pursues snapshot request q stage calls)
    (refused : Plan.ofQuery snapshot q = .error failure) :
    stage = .finished (.error failure) ∧ calls.filterMap Call.statement? = [] := by
  cases pursues with
  | planned planned prompts => exact absurd (planned.symm.trans refused) nofun
  | executing planned prompts compiled => exact absurd (planned.symm.trans refused) nofun
  | computed planned runs => exact absurd (planned.symm.trans refused) nofun
  | finished planned runs => exact absurd (planned.symm.trans refused) nofun
  | refused alsoRefused prompts =>
    obtain rfl := Except.error.inj (alsoRefused.symm.trans refused)
    exact ⟨rfl, statements_of_prompts prompts⟩

theorem failed_of_unread [Stack] (proceeds : Proceeds snapshot request stage none calls) :
    calls.filterMap Call.statement? = [] ∧
      ∀ outcome, stage = .finished outcome → ∃ failure, outcome = .error failure := by
  cases proceeds with
  | screened isSupported => exact ⟨rfl, nofun⟩
  | asking isSupported => exact ⟨rfl, nofun⟩
  | understood isSupported understood => exact ⟨rfl, nofun⟩
  | illFormed isStructured unread =>
    exact ⟨rfl, fun outcome same => ⟨_, (Stage.finished.inj same).symm⟩⟩
  | unread isChat prompts =>
    exact ⟨statements_of_prompts prompts, fun outcome same => ⟨_, (Stage.finished.inj same).symm⟩⟩

theorem pursues_of_known [Stack] {q : Query} (proceeds : Proceeds snapshot request stage (some q) calls) :
    Asks snapshot request q ∧ Pursues snapshot request q stage calls := by
  cases proceeds with
  | known asks pursues => exact ⟨asks, pursues⟩

theorem statements_of_proceeds [Stack] (proceeds : Proceeds snapshot request stage query? calls) :
    calls.filterMap Call.statement? = [] ∨
      ∃ q execution, query? = some q ∧ Asks snapshot request q ∧ IsStatementOf snapshot q execution ∧
        calls.filterMap Call.statement? = [execution] := by
  cases query? with
  | none => exact Or.inl (failed_of_unread proceeds).1
  | some q =>
    obtain ⟨asks, pursues⟩ := pursues_of_known proceeds
    rcases statements_of_pursues pursues with none | ⟨execution, isStatement, one⟩
    · exact Or.inl none
    · exact Or.inr ⟨q, execution, rfl, asks, isStatement, one⟩

theorem structured_of_proceeds [Stack] {body : Json}
    (proceeds : Proceeds snapshot (.structured body) stage query? calls) :
    (∃ q, Query.ofJson (Query.payload body).1 = .ok q ∧ query? = some q) ∨
      ∃ issues, Query.ofJson (Query.payload body).1 = .error issues ∧
        stage = .finished (.error (.illFormed issues)) ∧ calls = [] := by
  cases proceeds with
  | screened isSupported => cases isSupported.1
  | asking isSupported => cases isSupported.1
  | understood isSupported understood => cases isSupported.1
  | known asks pursues =>
    cases asks with
    | structured isStructured read =>
      cases isStructured
      exact Or.inl ⟨_, read, rfl⟩
    | chat isSupported understood => cases isSupported.1
  | illFormed isStructured unread =>
    cases isStructured
    exact Or.inr ⟨_, unread, rfl, rfl⟩
  | unread isChat prompts => cases isChat

theorem not_isSupported {message other : Text}
    (isUnsupported : (Chat.assess Chat.Concept.builtIn message snapshot.loadedNames).isUnsupported = true) :
    ¬ IsSupported snapshot (.chat message) other := by
  rintro ⟨same, supported⟩
  cases same
  rw [supported] at isUnsupported
  cases isUnsupported

theorem failed_of_unsupported [Stack] {message : Text}
    (proceeds : Proceeds snapshot (.chat message) stage query? calls)
    (isUnsupported : (Chat.assess Chat.Concept.builtIn message snapshot.loadedNames).isUnsupported = true) :
    (∃ failure, stage = .finished (.error failure)) ∧ calls = [] := by
  cases proceeds with
  | screened isSupported => exact absurd isSupported (not_isSupported isUnsupported)
  | asking isSupported => exact absurd isSupported (not_isSupported isUnsupported)
  | understood isSupported understood => exact absurd isSupported (not_isSupported isUnsupported)
  | known asks pursues =>
    cases asks with
    | structured isStructured read => cases isStructured
    | chat isSupported understood => exact absurd isSupported (not_isSupported isUnsupported)
  | illFormed isStructured unread => cases isStructured
  | unread isChat prompts =>
    cases prompts with
    | none => exact ⟨⟨_, rfl⟩, rfl⟩
    | once isSupported => exact absurd isSupported (not_isSupported isUnsupported)

end

theorem isGrounded_of_proceeds [Stack] {course : Course}
    (proceeds : Proceeds course.snapshot course.request course.stage course.query? course.calls) :
    course.IsGrounded := by
  obtain ⟨request, snapshot, stage, query?, calls⟩ := course
  dsimp only at proceeds
  constructor
  case once =>
    rcases statements_of_proceeds proceeds with none | ⟨q, execution, _, _, _, one⟩
    · exact Nat.le_trans (Nat.le_of_eq (congrArg List.length none)) (Nat.zero_le 1)
    · exact Nat.le_of_eq (congrArg List.length one)
  case compiled =>
    intro execution member
    unfold Course.executions at member
    rcases statements_of_proceeds proceeds with none | ⟨q, only, known, asks, isStatement, one⟩
    · rw [none] at member
      cases member
    · rw [one] at member
      exact ⟨q, known, asks, List.mem_singleton.mp member ▸ isStatement⟩
  case illFormed =>
    rintro body issues rfl unread
    rcases structured_of_proceeds proceeds with ⟨q, read, _⟩ | ⟨others, alsoUnread, failed, none⟩
    · exact absurd (read.symm.trans unread) nofun
    · obtain rfl := Except.error.inj (alsoUnread.symm.trans unread)
      exact ⟨failed, none⟩
  case wellFormed =>
    rintro body q rfl read
    rcases structured_of_proceeds proceeds with ⟨other, alsoRead, known⟩ | ⟨issues, unread, _⟩
    · obtain rfl := Except.ok.inj (alsoRead.symm.trans read)
      exact known
    · exact absurd (read.symm.trans unread) nofun
  case unsupported =>
    rintro q issues rfl isUnsupported
    refine failed_of_refused (pursues_of_known proceeds).2 ?_
    simp only [Plan.ofQuery, isUnsupported]
  case ungrounded =>
    rintro q normal notes rfl normalized flawed
    refine failed_of_refused (pursues_of_known proceeds).2 ?_
    -- By `flawed` the list of issues is not the empty one.
    simp only [Plan.ofQuery, normalized]
  case unread =>
    rintro rfl
    exact failed_of_unread proceeds
  case ungroundable =>
    rintro message rfl isUnsupported
    exact failed_of_unsupported proceeds isUnsupported

namespace Traffic

/-- Whatever comes before and after, a request runs at most one statement, which is that of a query that
the registry in force at its start refused no part of; with a query that is refused it fails and runs
none, whatever is kept; and for a message that this registry does not support nothing is asked. -/
theorem only_grounded_is_executed [Stack] (backend : Backend τ) (s : Service τ) (before later : List (Move τ))
    (request : Request) :
    ∃ course,
      (((start s).run backend before).run backend (.enter request :: later)).courses[
        ((start s).run backend before).courses.length]? = some course ∧
      course.request = request ∧
      course.snapshot = ((start s).run backend before).service.registry ∧
      course.IsGrounded := by
  generalize reached : (start s).run backend before = traffic
  have sound : traffic.IsSound := reached ▸ isSound_run (isSound_start s) before
  have entered : (traffic.act backend (.enter request)).courses[traffic.courses.length]? =
      some ⟨request, traffic.service.registry, Stage.receive traffic.service request,
        request.query?, []⟩ := List.getElem?_concat_length
  obtain ⟨course, isCourse, sameRequest, sameSnapshot⟩ :=
    exists_course_run backend entered later
  have proceeds := (isSound_run (isSound_act sound (.enter request)) later).courses course
    (List.mem_of_getElem? isCourse)
  exact ⟨course, isCourse, sameRequest, sameSnapshot, isGrounded_of_proceeds proceeds⟩

/-- Parcels whose zoning is not among the columns. -/
def narrowRegistry : Registry := .ofLayers
  [⟨"parcels", "Polygon", [("zoning", "string")], [], [], [], true, none, none, none⟩] .null

def zoningMessage : Request := .chat "Which parcels are zoned R-1?"

/-- The message is parsed; then a registry is put in force whose parcels have no zoning. -/
def parsedBefore : List (Move Int) :=
  [.enter zoningMessage, .advance 0, .advance 0, .advance 0, .swap narrowRegistry]

/-- The parse is found for the same message, and only then is the statement of the first request run. -/
def foundLater : List (Move Int) := [.advance 1, .advance 0, .advance 0]

def parsedService (key : Text) (intent : Chat.Intent) : Service Int :=
  ⟨narrowRegistry, ⟨1, .int 60, [(key, ⟨intent, .int 3⟩)], 0, 1⟩, ⟨1, .int 900, [], 0, 0⟩, true, 4⟩

def askedCalls : List Call :=
  [.complete (Chat.prompt Query.parcelsRegistry "Which parcels are zoned R-1?")]

section

open Stack.Usual

theorem exists_run_parsedBefore : ∃ key intent origin plan,
    messageKey "Which parcels are zoned R-1?" = .ok key ∧
    intent.query = Query.zoningQuery (.str "R-1") ∧
    (∃ statement, plan.statement = .ok statement) ∧
    (start (strictService 0 0)).run (tickingBackend parcelsWorld) parsedBefore =
      ⟨parsedService key intent, [⟨zoningMessage, Query.parcelsRegistry, .planned origin plan,
        some (Query.zoningQuery (.str "R-1")), askedCalls⟩]⟩ := by
  obtain ⟨key, keyed⟩ : ∃ key, messageKey "Which parcels are zoned R-1?" = .ok key := ⟨_, rfl⟩
  have supported : (Chat.assess Chat.Concept.builtIn "Which parcels are zoned R-1?"
      Query.parcelsRegistry.loadedNames).isUnsupported = false := isSupported_zoning
  obtain ⟨reply, said, understood⟩ := exists_zoningReply
  obtain ⟨intent, read, isZoning⟩ : ∃ intent,
      Chat.intentOfReply reply Query.parcelsRegistry = .ok intent ∧
        intent.query = Query.zoningQuery (.str "R-1") := by
    simp only [Chat.intentOfReply, understood]
    exact ⟨_, rfl, rfl⟩
  obtain ⟨plan, statement, planned, compiled⟩ : ∃ plan statement,
      Plan.ofQuery Query.parcelsRegistry (Query.zoningQuery (.str "R-1")) = .ok plan ∧
      plan.statement = .ok statement := ⟨_, _, rfl, rfl⟩
  refine ⟨key, intent, .chat intent (Chat.assess Chat.Concept.builtIn "Which parcels are zoned R-1?"
    Query.parcelsRegistry.loadedNames) false (Stage.millisecondsBetween (.int 1) (.int 2)), plan, keyed,
    isZoning, ⟨statement, compiled⟩, ?_⟩
  simp [parsedBefore, run, act, advance_eq, start, strictService, zoningMessage, Stage.receive,
    supported, keyed, Stage.next, Service.remembered, Service.clock, tickingBackend, Cache.get,
    Cache.clear, Assoc.get?, Stage.ask, Service.watch, Service.complete, said, read, isZoning,
    Stage.ofQuery, planned, Service.remember, Cache.set, Cache.retained, Course.queryAfter,
    Stage.calls, Request.query?, Service.swap, parsedService, askedCalls]

theorem exists_run_foundLater {key : String} {intent : Chat.Intent} {origin : Origin} {plan : Plan}
    {statement : Sql.Written} (keyed : messageKey "Which parcels are zoned R-1?" = .ok key)
    (isZoning : intent.query = Query.zoningQuery (.str "R-1"))
    (compiled : plan.statement = .ok statement) : ∃ service stage failure,
    (⟨parsedService key intent, [⟨zoningMessage, Query.parcelsRegistry, .planned origin plan,
        some (Query.zoningQuery (.str "R-1")), askedCalls⟩]⟩ : Traffic Int).run
      (tickingBackend parcelsWorld) (.enter zoningMessage :: foundLater) =
    ⟨service, [
      ⟨zoningMessage, Query.parcelsRegistry, stage, some (Query.zoningQuery (.str "R-1")),
        askedCalls ++ [.execute statement.text (statement.values.map FilterValue.wire)]⟩,
      ⟨zoningMessage, narrowRegistry, .finished (.error failure),
        some (Query.zoningQuery (.str "R-1")), []⟩]⟩ := by
  have supported : (Chat.assess Chat.Concept.builtIn "Which parcels are zoned R-1?"
      narrowRegistry.loadedNames).isUnsupported = false := isSupported_zoning
  have current : Number.lt (.int 60) (.int 1) = false := by decide
  obtain ⟨failure, refused⟩ : ∃ failure,
      Plan.ofQuery narrowRegistry (Query.zoningQuery (.str "R-1")) = .error failure := ⟨_, rfl⟩
  have found : (⟨parsedService key intent, [⟨zoningMessage, Query.parcelsRegistry, .planned origin plan,
        some (Query.zoningQuery (.str "R-1")), askedCalls⟩]⟩ : Traffic Int).run
      (tickingBackend parcelsWorld) [.enter zoningMessage, .advance 1, .advance 0] =
    ⟨⟨narrowRegistry, ⟨1, .int 60, [(key, ⟨intent, .int 3⟩)], 1, 1⟩, ⟨1, .int 900, [], 0, 1⟩, true, 6⟩, [
      ⟨zoningMessage, Query.parcelsRegistry, .executing origin plan statement,
        some (Query.zoningQuery (.str "R-1")), askedCalls⟩,
      ⟨zoningMessage, narrowRegistry, .finished (.error failure),
        some (Query.zoningQuery (.str "R-1")), []⟩]⟩ := by
    simp [run, act, advance_eq, zoningMessage, Stage.receive, supported, keyed, parsedService,
      Stage.next, Service.remembered, Service.clock, tickingBackend, Cache.get, Assoc.get?, Assoc.erase,
      Cache.Entry.isExpired, Number.sub, current, isZoning, Stage.ofQuery, refused, Stage.failed,
      Course.queryAfter, Stage.calls, Request.query?, Service.find, compiled]
  have split : ∀ traffic : Traffic Int, traffic.run (tickingBackend parcelsWorld)
      (.enter zoningMessage :: foundLater) =
        (traffic.run (tickingBackend parcelsWorld) [.enter zoningMessage, .advance 1, .advance 0]).act
          (tickingBackend parcelsWorld) (.advance 0) := fun _ => rfl
  rw [split, found]
  simp only [act, List.getElem?_cons_zero, advance_eq]
  exact ⟨_, _, failure, rfl⟩

theorem only_grounded_is_executed_sample : ∃ first second : Course,
    (((start (strictService 0 0)).run (tickingBackend parcelsWorld) parsedBefore).run
      (tickingBackend parcelsWorld) (.enter zoningMessage :: foundLater)).courses = [first, second] ∧
    first.executions.length = 1 ∧
    second.snapshot = narrowRegistry ∧ second.query? = some (Query.zoningQuery (.str "R-1")) ∧
    (∃ failure, second.Failed failure) ∧ second.executions = [] := by
  obtain ⟨key, intent, origin, plan, keyed, isZoning, ⟨statement, compiled⟩, before⟩ :=
    exists_run_parsedBefore
  obtain ⟨service, stage, failure, later⟩ :=
    exists_run_foundLater keyed isZoning compiled
  obtain ⟨course, isCourse, -, snapshot, grounded⟩ := only_grounded_is_executed
    (tickingBackend parcelsWorld) (strictService 0 0) parsedBefore foundLater zoningMessage
  rw [before] at isCourse snapshot
  rw [later] at isCourse
  cases isCourse
  have normalized : (Query.zoningQuery (.str "R-1")).normalize .builtIn =
      .ok (Query.zoningQuery (.str "R-1"), []) := rfl
  have flawed : (Query.zoningQuery (.str "R-1")).groundingIssues narrowRegistry ≠ [] := by
    decide +kernel
  obtain ⟨failed, none⟩ := grounded.ungrounded _ _ _ rfl normalized flawed
  rw [before, later]
  exact ⟨_, _, rfl, rfl, snapshot, rfl, ⟨_, failed⟩, none⟩

end

end Traffic

end SpatialQuery.Service
