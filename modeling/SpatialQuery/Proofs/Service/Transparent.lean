import SpatialQuery.Proofs.Query.Key
import SpatialQuery.Proofs.Query.Planned
import SpatialQuery.Proofs.Service.Serving

/-!
# Stores change no answer

Requests that are served one after the other are answered as if nothing were ever found in a store, as
long as the keys of the texts that occur are apart and no query holds the two halves of a character for
neighbours.  Times and what is told about the stores are the only facts that may differ.
-/

set_option autoImplicit false

namespace SpatialQuery.Service

variable {τ : Type} {backend : Backend τ} {world : World} {registry : Registry}
  {requests : List Request} {request : Request}

/-! ## Keys -/

/-- Different texts that occur have different keys, be they messages or texts of planned queries. -/
structure KeysApart [Stack] (world : World) (registry : Registry) (requests : List Request) : Prop where
  messages : ∀ request ∈ requests, ∀ other ∈ requests, ∀ message text key assessment assessed,
    Screened registry request message key assessment →
      Screened registry other text key assessed → message = text
  plans : ∀ request ∈ requests, ∀ other ∈ requests, ∀ origin plan first again,
    world.asks registry request = .ok (origin, plan) → world.asks registry other = .ok (first, again) →
      plan.key = again.key →
        plan.limited.query.resultText plan.tolerance = again.limited.query.resultText again.tolerance

theorem query_of_intentOfReply [Stack] {reply : Text} {intent : Chat.Intent}
    (read : Chat.intentOfReply reply registry = .ok intent) :
    Chat.queryOfReply reply = .ok intent.query := by
  unfold Chat.intentOfReply at read
  split at read
  · rename_i q queried
    cases read
    exact queried
  · cases read

theorem admissible_of_queryOfReply [Stack] {reply : Text} {q : Query}
    (queried : Chat.queryOfReply reply = .ok q) : q.Admissible := by
  unfold Chat.queryOfReply at queried
  split at queried
  · cases queried
  · split at queried
    · cases queried
    · cases queried
    · split at queried
      · rename_i accepted
        cases queried
        exact Query.admissible_of_ofJson accepted
      · cases queried

theorem admissible_of_understand [Stack] {message : Text} {intent : Chat.Intent}
    (meant : world.understand registry message = .ok intent) : intent.query.Admissible := by
  unfold World.understand at meant
  split at meant
  · cases meant
  · split at meant
    · cases meant
    · rename_i read
      cases meant
      exact admissible_of_queryOfReply (query_of_intentOfReply read)

theorem exists_of_asks [Stack] {origin : Origin} {plan : Plan}
    (asked : world.asks registry request = .ok (origin, plan)) :
    ∃ q : Query, q.Admissible ∧ Plan.ofQuery registry q = .ok plan := by
  cases request with
  | structured body =>
    simp only [World.asks] at asked
    split at asked
    · cases asked
    · rename_i q accepted
      obtain ⟨_, planned, same⟩ := map_eq_ok_iff.mp asked
      cases same
      exact ⟨q, Query.admissible_of_ofJson accepted, planned⟩
  | chat message =>
    simp only [World.asks] at asked
    split at asked
    · cases asked
    · split at asked
      · cases asked
      · split at asked
        · cases asked
        · rename_i intent meant
          obtain ⟨_, planned, same⟩ := map_eq_ok_iff.mp asked
          cases same
          exact ⟨intent.query, admissible_of_understand meant, planned⟩

theorem compute_congr [Stack] {plan again : Plan} (sameRegistry : plan.registry = again.registry)
    (sameQuery : plan.limited.query = again.limited.query)
    (sameTolerance : plan.tolerance = again.tolerance) (milliseconds : Number) :
    world.compute plan milliseconds = world.compute again milliseconds := by
  have statements : plan.statement = again.statement := by
    unfold Plan.statement
    rw [sameRegistry, sameQuery, sameTolerance]
  have failures : ∀ e, plan.executionFailure e = again.executionFailure e := by
    intro e
    unfold Plan.executionFailure
    rw [sameRegistry]
  have results : ∀ rows, plan.result rows milliseconds = again.result rows milliseconds := by
    intro rows
    unfold Plan.result Plan.listFields
    rw [sameRegistry, sameQuery]
  simp only [World.compute, statements, failures, results]

theorem KeysApart.tell [Stack] (apart : KeysApart world registry requests)
    (whole : ∀ request ∈ requests, ∀ origin plan, world.asks registry request = .ok (origin, plan) →
      plan.limited.query.IsWhole) : KeysTell world registry requests := by
  refine ⟨apart.messages, ?_⟩
  intro request member other among origin plan first again asked alsoAsked sameKey
  obtain ⟨q, admissible, planned⟩ := exists_of_asks asked
  obtain ⟨r, alsoAdmissible, alsoPlanned⟩ := exists_of_asks alsoAsked
  obtain ⟨sameQuery, sameTolerance⟩ := Query.eq_of_resultText
    (Plan.admissible_of_ofQuery planned admissible)
    (Plan.admissible_of_ofQuery alsoPlanned alsoAdmissible)
    (whole request member origin plan asked) (whole other among first again alsoAsked)
    (apart.plans request member other among origin plan first again asked alsoAsked sameKey)
  have sameRegistry : plan.registry = again.registry :=
    (Plan.registry_of_ofQuery planned).trans (Plan.registry_of_ofQuery alsoPlanned).symm
  exact compute_congr sameRegistry sameQuery sameTolerance

/-- A single request cannot be taken for another. -/
theorem keysTell_singleton [Stack] (request : Request) : KeysTell world registry [request] := by
  constructor
  · intro one isOne other isOther message text key assessment assessed screened alsoScreened
    rw [List.mem_singleton.mp isOne] at screened
    rw [List.mem_singleton.mp isOther, screened.isChat] at alsoScreened
    cases alsoScreened.isChat
    rfl
  · intro one isOne other isOther origin plan first again asked alsoAsked _ milliseconds
    rw [List.mem_singleton.mp isOne] at asked
    rw [List.mem_singleton.mp isOther, asked] at alsoAsked
    cases alsoAsked
    rfl

/-! ## Runs -/

def serveAll [Stack] (backend : Backend τ) : List Request → Service τ → List (Except Failure Text)
  | [], _ => []
  | request :: rest, s =>
    let (outcome, s) := serve backend request s
    outcome :: serveAll backend rest s

def forget (s : Service τ) : Service τ :=
  { s with parses := s.parses.clear, results := s.results.clear }

def serveAllAfresh [Stack] (backend : Backend τ) : List Request → Service τ → List (Except Failure Text)
  | [], _ => []
  | request :: rest, s =>
    let (outcome, s) := serve backend request s.forget
    outcome :: serveAllAfresh backend rest s

theorem answers_serve [Stack] (follows : backend.Follows world) (tell : KeysTell world registry requests)
    (member : request ∈ requests) {s : Service τ} (kept : Kept world registry requests s) :
    Answers world registry request (serve backend request s).1 ∧
      Kept world registry requests (serve backend request s).2 :=
  Stage.answers_run follows tell member .received kept

theorem kept_forget [Stack] {s : Service τ} (inForce : s.registry = registry)
    (hasParser : s.hasParser = true) : Kept world registry requests s.forget := by
  refine ⟨inForce, hasParser, ?_, ?_⟩
  · intro e member
    exact absurd member List.not_mem_nil
  · intro e member
    exact absurd member List.not_mem_nil

theorem sameOutcome_serveAll [Stack] (follows : backend.Follows world)
    (tell : KeysTell world registry requests) {left : List Request} (among : left ⊆ requests)
    {s afresh : Service τ} (kept : Kept world registry requests s) (inForce : afresh.registry = registry)
    (hasParser : afresh.hasParser = true) :
    List.Forall₂ SameOutcome (serveAll backend left s) (serveAllAfresh backend left afresh) := by
  -- By induction on the requests that are left: the stores hold what is right for all of them, and in
  -- the other run for none but the present one.
  induction left generalizing s afresh with
  | nil => exact .nil
  | cons request rest ih =>
    obtain ⟨member, later⟩ := List.cons_subset.mp among
    obtain ⟨answers, kept⟩ := answers_serve follows tell member kept
    obtain ⟨others, forgotten⟩ := answers_serve follows (keysTell_singleton request)
      List.mem_cons_self (kept_forget inForce hasParser)
    exact .cons (answers.same others) (ih later kept forgotten.inForce forgotten.hasParser)

theorem kept_of_create? [Stack] {parseSize resultSize : Int} {parseLife resultLife : Number} {outside : τ}
    {s : Service τ}
    (created : create? registry parseSize resultSize parseLife resultLife outside = some s) :
    Kept world registry requests s := by
  simp only [create?, Option.bind_eq_bind, Option.bind_eq_some_iff, Option.pure_def,
    Option.some.injEq] at created
  obtain ⟨parses, createdParses, results, createdResults, rfl⟩ := created
  refine ⟨rfl, rfl, ?_, ?_⟩
  · intro e member
    rw [Cache.entries_of_create? createdParses] at member
    exact absurd member List.not_mem_nil
  · intro e member
    rw [Cache.entries_of_create? createdResults] at member
    exact absurd member List.not_mem_nil

/-- The stores are transparent: whatever their sizes, the lifetimes of entries, and the clocks. -/
theorem stores_change_no_answer [Stack] (follows : backend.Follows world) {parseSize resultSize : Int}
    {parseLife resultLife : Number} {outside : τ} {s : Service τ}
    (created : create? registry parseSize resultSize parseLife resultLife outside = some s)
    (apart : KeysApart world registry requests)
    (whole : ∀ request ∈ requests, ∀ origin plan, world.asks registry request = .ok (origin, plan) →
      plan.limited.query.IsWhole) :
    List.Forall₂ SameOutcome (serveAll backend requests s) (serveAllAfresh backend requests s) := by
  have kept : Kept world registry requests s := kept_of_create? created
  exact sameOutcome_serveAll follows (apart.tell whole) (fun _ member => member) kept kept.inForce
    kept.hasParser

def parcelsWorld : World where
  run _ _ := .ok [[("zoning", .text "R-1")]]
  complete _ := .ok ("\x7b\"selectLayer\": \"parcels\", \"attributeFilters\": [" ++
    "\x7b\"field\": \"zoning\", \"op\": \"eq\", \"value\": \"R-1\"\x7d]\x7d")

section

open Stack.Usual

theorem exists_zoningReply : ∃ reply, (∀ prompt, parcelsWorld.complete prompt = .ok reply) ∧
    Chat.queryOfReply reply = .ok (Query.zoningQuery (.str "R-1")) := by
  refine ⟨_, fun _ => rfl, eq_ok_of_toOption ?_⟩
  decide +kernel

theorem isSupported_zoning : (Chat.assess Chat.Concept.builtIn "Which parcels are zoned R-1?"
    Query.parcelsRegistry.loadedNames).isUnsupported = false := by
  decide +kernel

/-- The database and the model of a world, with clocks that tick whenever they are read. -/
def tickingBackend (world : World) : Backend Int where
  execute text values outside := (world.run text values, outside)
  describe _ outside := (.ok [], outside)
  complete prompt outside := (world.complete prompt, outside)
  isHealthy outside := (.ok true, outside)
  clock outside := (.int outside, outside + 1)
  watch outside := (.int outside, outside + 1)
  manifestFile _ := none
  present _ := ""

theorem tickingBackend_follows (world : World) : (tickingBackend world).Follows world :=
  ⟨fun _ _ _ => rfl, fun _ _ => rfl⟩

def zoningRequests : List Request := [
  .structured (Query.zoningRequest (.str "R-1")),
  .structured (.obj [("query", (Query.zoningQuery (.str "R-1")).wire)]),
  .chat "Which parcels are zoned R-1?",
  .chat "Which parcels are zoned R-1?"]

theorem understand_zoning {intent : Chat.Intent}
    (meant : parcelsWorld.understand Query.parcelsRegistry "Which parcels are zoned R-1?" = .ok intent) :
    intent.query = Query.zoningQuery (.str "R-1") := by
  obtain ⟨reply, said, queried⟩ := exists_zoningReply
  have read : Chat.intentOfReply reply Query.parcelsRegistry = .ok intent := by
    simp only [World.understand, said] at meant
    split at meant
    · cases meant
    · rename_i read
      cases meant
      exact read
  exact Except.ok.inj ((query_of_intentOfReply read).symm.trans queried)

/-- The later requests are answered with the result of the first one, and nobody can tell. -/
theorem stores_change_no_answer_sample :
    ∃ s, create? Query.parcelsRegistry 1 1 (.int 60) (.int 900) (0 : Int) = some s ∧
      List.Forall₂ SameOutcome (serveAll (tickingBackend parcelsWorld) zoningRequests s)
        (serveAllAfresh (tickingBackend parcelsWorld) zoningRequests s) := by
  obtain ⟨s, created⟩ :
      ∃ s, create? Query.parcelsRegistry 1 1 (.int 60) (.int 900) (0 : Int) = some s := ⟨_, rfl⟩
  obtain ⟨plan, made, first, second, bounded⟩ : ∃ plan,
      Plan.ofQuery Query.parcelsRegistry (Query.zoningQuery (.str "R-1")) = .ok plan ∧
      parcelsWorld.asks Query.parcelsRegistry (.structured (Query.zoningRequest (.str "R-1"))) =
        .ok (.structured .direct, plan) ∧
      parcelsWorld.asks Query.parcelsRegistry
          (.structured (.obj [("query", (Query.zoningQuery (.str "R-1")).wire)])) =
        .ok (.structured .wrapped, plan) ∧
      plan.limited.query = { Query.zoningQuery (.str "R-1") with limit := some 1500 } :=
    ⟨_, rfl, rfl, rfl, rfl⟩
  have inWords : ∀ origin again, parcelsWorld.asks Query.parcelsRegistry
      (.chat "Which parcels are zoned R-1?") = .ok (origin, again) → again = plan := by
    intro origin again asked
    simp only [World.asks] at asked
    split at asked
    · cases asked
    · split at asked
      · cases asked
      · split at asked
        · cases asked
        · rename_i intent meant
          rw [understand_zoning meant, made] at asked
          cases asked
          rfl
  have planned : ∀ request ∈ zoningRequests, ∀ origin again,
      parcelsWorld.asks Query.parcelsRegistry request = .ok (origin, again) → again = plan := by
    intro request member origin again asked
    simp only [zoningRequests, List.mem_cons, List.not_mem_nil, or_false] at member
    rcases member with rfl | rfl | rfl | rfl
    · rw [first] at asked
      cases asked
      rfl
    · rw [second] at asked
      cases asked
      rfl
    · exact inWords origin again asked
    · exact inWords origin again asked
  have whole : plan.limited.query.IsWhole := by
    rw [bounded]
    refine ⟨?_, List.forall_mem_nil _⟩
    intro f member
    rw [List.mem_singleton.mp member]
    exact Text.isWhole_ofString "R-1"
  have apart : KeysApart parcelsWorld Query.parcelsRegistry zoningRequests := by
    constructor
    · intro request member other among message text key assessment assessed screened alsoScreened
      simp only [zoningRequests, List.mem_cons, List.not_mem_nil, or_false, screened.isChat,
        alsoScreened.isChat, reduceCtorEq, Request.chat.injEq, false_or, or_self] at member among
      rw [member, among]
    · intro request member other among origin again first other asked alsoAsked _
      rw [planned _ member _ _ asked, planned _ among _ _ alsoAsked]
  refine ⟨s, created, stores_change_no_answer (tickingBackend_follows parcelsWorld) created apart ?_⟩
  intro request member origin again asked
  rw [planned request member origin again asked]
  exact whole

end

/-! ## Where the texts do not tell the queries apart -/

theorem Stage.receive_structured [Stack] {body : Json} {origin : Origin} {plan : Plan} {s : Service τ}
    (asked : world.asks s.registry (.structured body) = .ok (origin, plan)) :
    receive s (.structured body) = .planned origin plan := by
  simp only [World.asks] at asked
  simp only [receive]
  split at asked
  · cases asked
  · rename_i q read
    obtain ⟨_, planned, same⟩ := map_eq_ok_iff.mp asked
    cases same
    simp only [read, ofQuery, planned]

theorem serve_structured [Stack] {body : Json} {origin : Origin} {plan : Plan} {s : Service τ}
    (asked : world.asks s.registry (.structured body) = .ok (origin, plan)) :
    serve backend (.structured body) s = (Stage.planned origin plan).run backend s := by
  rw [serve, Stage.run_step rfl]
  simp only [Stage.next, Stage.receive_structured asked]

theorem answer_ne_execution [Stack] (plan : Plan) (origin : Origin) (hit : Bool) (result : StoredResult)
    (e : Database.ExecutionError) (hints : List Text) :
    plan.answer origin hit result ≠ .error (.execution e hints) := by
  have other : ∀ told : Except Feature.Fault Text,
      told.mapError Failure.feature ≠ .error (.execution e hints) := by
    intro told same
    cases told with
    | error fault => cases same
    | ok text => cases same
  exact other _

theorem eq_error_of_sameOutcome [Stack] {outcome : Except Failure Text} {failure : Failure}
    (same : SameOutcome outcome (.error failure)) : outcome = .error failure := by
  cases same
  rfl

def strictWorld : World where
  run _ values :=
    match values with
    | [.str t] =>
      if t = Query.faceHalves then .error ⟨.internal, "surrogates not allowed"⟩
      else .ok [[("zoning", .text t)]]
    | _ => .ok []
  complete _ := .error .notText

/-- Parcels by the character, and by its two halves. -/
def splitRequests : List Request := [
  .structured (Query.zoningRequest (.str Query.face)),
  .structured (Query.zoningRequest (.str Query.faceHalves))]

def surrogatesRefused : Failure := .execution ⟨.internal, "surrogates not allowed"⟩ []

section

open Stack.Usual

theorem split_plans : ∃ (plan other : Plan) (statement : Sql.Written) (features : Text),
    strictWorld.asks Query.parcelsRegistry (.structured (Query.zoningRequest (.str Query.face))) =
      .ok (.structured .direct, plan) ∧
    strictWorld.asks Query.parcelsRegistry
        (.structured (Query.zoningRequest (.str Query.faceHalves))) =
      .ok (.structured .direct, other) ∧
    plan.limited.query.resultText plan.tolerance = other.limited.query.resultText other.tolerance ∧
    plan.statement = .ok statement ∧
    strictWorld.run statement.text (statement.values.map FilterValue.wire) =
      .ok [[("zoning", .text Query.face)]] ∧
    plan.result [[("zoning", .text Query.face)]] (.int 1000) = .ok ⟨features, 1, .int 1000⟩ ∧
    strictWorld.compute other (.int 0) = .error surrogatesRefused :=
  ⟨_, _, _, _, rfl, rfl,
    congrArg (· ++ "|" ++ (Number.real _).text Decimal.plainLayout) (Query.canonical_halves (some 1500)),
    rfl, rfl, rfl, rfl⟩

/-- After so many look-ups in vain and so many readings of the clocks. -/
def strictService (misses : Nat) (readings : Int) : Service Int :=
  ⟨Query.parcelsRegistry, ⟨1, .int 60, [], 0, 0⟩, ⟨1, .int 900, [], 0, misses⟩, true, readings⟩

theorem split_apart : KeysApart strictWorld Query.parcelsRegistry splitRequests := by
  obtain ⟨plan, other, _, _, asked, otherAsked, sameText, _⟩ := split_plans
  have texts : ∀ request ∈ splitRequests, ∀ origin again,
      strictWorld.asks Query.parcelsRegistry request = .ok (origin, again) →
        again.limited.query.resultText again.tolerance =
          plan.limited.query.resultText plan.tolerance := by
    intro request member origin again asks
    simp only [splitRequests, List.mem_cons, List.not_mem_nil, or_false] at member
    rcases member with rfl | rfl
    · rw [asked] at asks
      cases asks
      rfl
    · rw [otherAsked] at asks
      cases asks
      exact sameText.symm
  constructor
  · intro request member _ _ message _ _ _ _ screened _
    simp [splitRequests, screened.isChat] at member
  · intro request member third among origin again first last asks alsoAsks _
    exact (texts request member origin again asks).trans (texts third among first last alsoAsks).symm

/-- The second request is answered with the result of the first one, although its own statement fails. -/
theorem halves_are_answered_with_character :
    ∃ s, create? Query.parcelsRegistry 1 1 (.int 60) (.int 900) (0 : Int) = some s ∧
      KeysApart strictWorld Query.parcelsRegistry splitRequests ∧
      ¬ List.Forall₂ SameOutcome (serveAll (tickingBackend strictWorld) splitRequests s)
        (serveAllAfresh (tickingBackend strictWorld) splitRequests s) := by
  refine ⟨strictService 0 0, rfl, split_apart, ?_⟩
  obtain ⟨plan, other, statement, features, asked, otherAsked, sameText, compiled, ran, computed,
    refused⟩ := split_plans
  have follows := tickingBackend_follows strictWorld
  have sameKey : other.key = plan.key :=
    congrArg (fun text => (Fingerprint.ofString text : Text)) sameText.symm
  have missed : (strictService 0 0).find (tickingBackend strictWorld) plan.key =
      (none, strictService 1 1) := rfl
  have executed : Stage.execute (tickingBackend strictWorld) (.structured .direct) plan statement
      (strictService 1 1) =
        (.computed (.structured .direct) plan ⟨features, 1, .int 1000⟩, strictService 1 3) := by
    simp only [Stage.execute, Service.execute, Service.watch, tickingBackend, strictService, ran,
      Stage.millisecondsBetween, Number.sub, Number.mul]
    rw [show ((1 + 1 : Int) - 1) * 1000 = 1000 from rfl, computed]
    rfl
  have first := Stage.run_planned_of_missed missed compiled executed
  rw [← serve_structured (s := strictService 0 0) asked] at first
  obtain ⟨later, found⟩ : ∃ later,
      ((strictService 1 3).store (tickingBackend strictWorld) plan.key
        ⟨features, 1, .int 1000⟩).find (tickingBackend strictWorld) other.key =
          (some ⟨features, 1, .int 1000⟩, later) := by
    have current : Number.lt (.int 900) (Number.sub (.int 4) (.int 3)) = false := by decide
    simp [sameKey, Service.find, Service.store, Service.clock, tickingBackend, strictService,
      Cache.get, Cache.set, Cache.retained, Assoc.get?, Cache.Entry.isExpired, current]
  have second := Stage.run_planned_of_found (.structured .direct) found
  rw [← serve_structured otherAsked] at second
  obtain ⟨_, kept⟩ := answers_serve follows
    (keysTell_singleton (.structured (Query.zoningRequest (.str Query.face)))) List.mem_cons_self
    (kept_forget (s := strictService 0 0) rfl rfl)
  obtain ⟨afresh, _⟩ := answers_serve follows
    (keysTell_singleton (.structured (Query.zoningRequest (.str Query.faceHalves))))
    List.mem_cons_self (kept_forget kept.inForce kept.hasParser)
  have failed := eq_error_of_sameOutcome (afresh.same (.failed otherAsked refused))
  intro same
  simp only [splitRequests, serveAll, serveAllAfresh, first, second] at same
  obtain _ | ⟨_, rest⟩ := same
  obtain _ | ⟨outcomes, _⟩ := rest
  rw [failed] at outcomes
  exact answer_ne_execution _ _ _ _ _ _ (eq_error_of_sameOutcome outcomes)

end

end SpatialQuery.Service
