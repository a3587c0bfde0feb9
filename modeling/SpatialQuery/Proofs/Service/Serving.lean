import SpatialQuery.Proofs.Service.Meaning
import SpatialQuery.Proofs.Service.Step

/-!
# Serving a request

At each stage a request holds what it comes to, whatever was found in a store on the way.  Each step keeps
this: what it puts into a store is right for the request, and what it takes out of one was put there for
a request of the same meaning.  That last step needs the keys to tell requests apart.
-/

set_option autoImplicit false

namespace SpatialQuery.Service

variable [Stack] {τ : Type} {backend : Backend τ} {world : World} {registry : Registry}
  {requests : List Request} {request : Request}

/-! ## What is right at each stage -/

/-- The message of a request that reaches the parses, with the key under which its own is looked up. -/
structure Screened (registry : Registry) (request : Request) (message key : Text)
    (assessment : Chat.Assessment) : Prop where
  isChat : request = .chat message
  assessed : Chat.assess Chat.Concept.builtIn message registry.loadedNames = assessment
  supported : assessment.isUnsupported = false
  keyed : ∃ written, messageKey message = .ok written ∧ key = written

/-- What a stage holds is what the request comes to. -/
inductive Stage.Serves (world : World) (registry : Registry) (request : Request) : Stage → Prop
  | received : Serves world registry request (.received request)
  | screened {message key : Text} {assessment : Chat.Assessment}
      (screened : Screened registry request message key assessment) :
      Serves world registry request (.screened registry message key assessment)
  | asking {message key : Text} {assessment : Chat.Assessment}
      (screened : Screened registry request message key assessment) :
      Serves world registry request (.asking registry message key assessment)
  | understood {message key : Text} {assessment : Chat.Assessment} {intent : Chat.Intent}
      {milliseconds : Number} (screened : Screened registry request message key assessment)
      (meant : world.understand registry message = .ok intent) :
      Serves world registry request (.understood registry key assessment intent milliseconds)
  | planned {first origin : Origin} {plan : Plan}
      (asked : world.asks registry request = .ok (first, plan)) (alike : first.Alike origin) :
      Serves world registry request (.planned origin plan)
  | executing {first origin : Origin} {plan : Plan} {statement : Sql.Written}
      (asked : world.asks registry request = .ok (first, plan)) (alike : first.Alike origin)
      (compiled : plan.statement = .ok statement) :
      Serves world registry request (.executing origin plan statement)
  | computed {first origin : Origin} {plan : Plan} {result : StoredResult}
      (asked : world.asks registry request = .ok (first, plan)) (alike : first.Alike origin)
      (computed : world.compute plan result.milliseconds = .ok result) :
      Serves world registry request (.computed origin plan result)
  | finished {outcome : Except Failure Text} (answers : Answers world registry request outcome) :
      Serves world registry request (.finished outcome)

/-- What is kept was right for one of the requests. -/
structure Kept (world : World) (registry : Registry) (requests : List Request) (s : Service τ) :
    Prop where
  inForce : s.registry = registry
  hasParser : s.hasParser = true
  parses : ∀ e ∈ s.parses.entries, ∃ request ∈ requests, ∃ message assessment,
    Screened registry request message e.1 assessment ∧
      world.understand registry message = .ok e.2.value
  results : ∀ e ∈ s.results.entries, ∃ request ∈ requests, ∃ origin plan,
    world.asks registry request = .ok (origin, plan) ∧ plan.key = e.1 ∧
      world.compute plan e.2.value.milliseconds = .ok e.2.value

/-- Under one key only what means the same is looked up. -/
structure KeysTell (world : World) (registry : Registry) (requests : List Request) : Prop where
  messages : ∀ request ∈ requests, ∀ other ∈ requests, ∀ message text key assessment assessed,
    Screened registry request message key assessment →
      Screened registry other text key assessed → message = text
  plans : ∀ request ∈ requests, ∀ other ∈ requests, ∀ origin plan first again,
    world.asks registry request = .ok (origin, plan) → world.asks registry other = .ok (first, again) →
      plan.key = again.key → ∀ milliseconds,
        world.compute plan milliseconds = world.compute again milliseconds

/-! ## What each access to a store keeps -/

namespace Kept

variable {s : Service τ}

theorem remembered (kept : Kept world registry requests s) (backend : Backend τ) (key : Text) :
    Kept world registry requests (s.remembered backend key).2 :=
  ⟨kept.inForce, kept.hasParser, fun e member => kept.parses e (Cache.entries_get_subset member),
    kept.results⟩

theorem find (kept : Kept world registry requests s) (backend : Backend τ) (key : Text) :
    Kept world registry requests (s.find backend key).2 :=
  ⟨kept.inForce, kept.hasParser, kept.parses,
    fun e member => kept.results e (Cache.entries_get_subset member)⟩

theorem remember (kept : Kept world registry requests s) (member : request ∈ requests)
    {message key : Text} {assessment : Chat.Assessment}
    (screened : Screened registry request message key assessment) {intent : Chat.Intent}
    (meant : world.understand registry message = .ok intent) :
    Kept world registry requests (s.remember backend key intent) := by
  refine ⟨kept.inForce, kept.hasParser, ?_, kept.results⟩
  intro e held
  rcases Cache.mem_entries_set held with old | rfl
  · exact kept.parses e old
  · exact ⟨request, member, message, assessment, screened, meant⟩

theorem store (kept : Kept world registry requests s) (member : request ∈ requests)
    {origin : Origin} {plan : Plan} (asked : world.asks registry request = .ok (origin, plan))
    {result : StoredResult} (computed : world.compute plan result.milliseconds = .ok result) :
    Kept world registry requests (s.store backend plan.key result) := by
  refine ⟨kept.inForce, kept.hasParser, kept.parses, ?_⟩
  intro e held
  rcases Cache.mem_entries_set held with old | rfl
  · exact kept.results e old
  · exact ⟨request, member, origin, plan, asked, rfl, computed⟩

theorem elsewhere (kept : Kept world registry requests s) (outside : τ) :
    Kept world registry requests { s with outside } :=
  ⟨kept.inForce, kept.hasParser, kept.parses, kept.results⟩

theorem understand_eq (kept : Kept world registry requests s) (tell : KeysTell world registry requests)
    (member : request ∈ requests) {message key : Text} {assessment : Chat.Assessment}
    (screened : Screened registry request message key assessment) {intent : Chat.Intent}
    (found : (s.remembered backend key).1 = some intent) :
    world.understand registry message = .ok intent := by
  obtain ⟨entry, held, rfl⟩ := Cache.mem_of_get_eq_some found
  obtain ⟨other, among, text, assessed, alsoScreened, meant⟩ := kept.parses _ held
  rw [tell.messages request member other among _ _ _ _ _ screened alsoScreened]
  exact meant

theorem compute_eq (kept : Kept world registry requests s) (tell : KeysTell world registry requests)
    (member : request ∈ requests) {origin : Origin} {plan : Plan}
    (asked : world.asks registry request = .ok (origin, plan)) {result : StoredResult}
    (found : (s.find backend plan.key).1 = some result) :
    world.compute plan result.milliseconds = .ok result := by
  obtain ⟨entry, held, rfl⟩ := Cache.mem_of_get_eq_some found
  obtain ⟨other, among, first, again, alsoAsked, key, computed⟩ := kept.results _ held
  rw [tell.plans request member other among _ _ _ _ asked alsoAsked key.symm]
  exact computed

end Kept

/-! ## One step -/

namespace Stage

theorem serves_failed {failure : Failure} (refused : world.asks registry request = .error failure) :
    Serves world registry request (Stage.failed failure) :=
  .finished (.unplanned refused)

theorem serves_ofQuery {first origin : Origin} {q : Query}
    (asked : world.asks registry request = (Plan.ofQuery registry q).map (first, ·))
    (alike : first.Alike origin) : Serves world registry request (ofQuery registry origin q) := by
  unfold ofQuery
  split
  · rename_i plan planned
    rw [planned] at asked
    exact .planned asked alike
  · rename_i failure refused
    rw [refused] at asked
    exact serves_failed asked

theorem asks_of_understood {message key : Text} {assessment : Chat.Assessment}
    (screened : Screened registry request message key assessment) {intent : Chat.Intent}
    (meant : world.understand registry message = .ok intent) :
    world.asks registry request =
      (Plan.ofQuery registry intent.query).map (.chat intent assessment false (.real 0), ·) := by
  obtain ⟨rfl, rfl, supported, written, keyed, rfl⟩ := screened
  simp only [World.asks, supported, keyed, meant, Bool.false_eq_true, if_false]

theorem asks_of_not_understood {message key : Text} {assessment : Chat.Assessment}
    (screened : Screened registry request message key assessment) {failure : Failure}
    (refused : world.understand registry message = .error failure) :
    world.asks registry request = .error failure := by
  obtain ⟨rfl, rfl, supported, written, keyed, rfl⟩ := screened
  simp only [World.asks, supported, keyed, refused, Bool.false_eq_true, if_false]

theorem serves_receive {s : Service τ} (kept : Kept world registry requests s) :
    Serves world registry request (receive s request) := by
  cases request with
  | structured body =>
    simp only [receive, kept.inForce]
    split
    · rename_i q read
      have planned : world.asks registry (.structured body) =
          (Plan.ofQuery registry q).map (.structured (Query.payload body).2, ·) := by
        simp only [World.asks, read]
      exact serves_ofQuery planned (.structured _)
    · rename_i issues refused
      refine serves_failed ?_
      simp only [World.asks, refused]
  | chat message =>
    simp only [receive, kept.inForce, kept.hasParser, if_true]
    split
    · rename_i unsupported
      refine serves_failed ?_
      simp only [World.asks, unsupported, if_true]
    · rename_i supported
      have isSupported := Bool.not_eq_true _ ▸ supported
      split
      · rename_i key keyed
        exact .screened ⟨rfl, rfl, isSupported, key, keyed, rfl⟩
      · rename_i fault unkeyed
        refine serves_failed ?_
        simp only [World.asks, isSupported, unkeyed, Bool.false_eq_true, if_false]

theorem serves_ask (follows : backend.Follows world) {message key : Text}
    {assessment : Chat.Assessment} (screened : Screened registry request message key assessment)
    (s : Service τ) :
    Serves world registry request (ask backend registry message key assessment s).1 := by
  have completed := follows.complete (Chat.prompt registry message) (s.watch backend).2.outside
  simp only [ask, Service.complete, completed]
  cases said : world.complete (Chat.prompt registry message) with
  | error e =>
    refine serves_failed (asks_of_not_understood screened ?_)
    simp only [World.understand, said]
  | ok reply =>
    dsimp only
    cases read : Chat.intentOfReply reply registry with
    | error fault =>
      refine serves_failed (asks_of_not_understood screened ?_)
      simp only [World.understand, said, read]
    | ok intent =>
      refine .understood screened ?_
      simp only [World.understand, said, read]

theorem serves_execute (follows : backend.Follows world) {first origin : Origin} {plan : Plan}
    {statement : Sql.Written} (asked : world.asks registry request = .ok (first, plan))
    (alike : first.Alike origin) (compiled : plan.statement = .ok statement) (s : Service τ) :
    Serves world registry request (execute backend origin plan statement s).1 := by
  have executed := follows.execute statement.text (statement.values.map FilterValue.wire)
    (s.watch backend).2.outside
  simp only [execute, Service.execute, executed]
  cases ran : world.run statement.text (statement.values.map FilterValue.wire) with
  | error e =>
    have failed : world.compute plan (.int 0) = .error (plan.executionFailure e) := by
      simp only [World.compute, compiled, ran]
    exact .finished (.failed asked failed)
  | ok rows =>
    dsimp only
    generalize millisecondsBetween _ _ = milliseconds
    have computes : world.compute plan milliseconds = plan.result rows milliseconds := by
      simp only [World.compute, compiled, ran]
    cases written : plan.result rows milliseconds with
    | error failure => exact .finished (.failed asked (computes.trans written))
    | ok result =>
      refine .computed asked alike ?_
      have lasted : result.milliseconds = milliseconds := by
        unfold Plan.result at written
        split at written
        · cases written
          rfl
        · cases written
      rw [lasted]
      exact computes.trans written

theorem serves_screened {message key : Text} {assessment : Chat.Assessment} {s : Service τ}
    (kept : Kept world registry requests s) (tell : KeysTell world registry requests)
    (member : request ∈ requests) (screened : Screened registry request message key assessment) :
    Serves world registry request
      (next backend (.screened registry message key assessment) s).1 := by
  simp only [next]
  split
  · rename_i intent s' found
    have meant := kept.understand_eq tell member screened (congrArg Prod.fst found)
    exact serves_ofQuery (asks_of_understood screened meant) (.chat ..)
  · exact .asking screened

theorem serves_planned {first origin : Origin} {plan : Plan} {s : Service τ}
    (kept : Kept world registry requests s) (tell : KeysTell world registry requests)
    (member : request ∈ requests) (asked : world.asks registry request = .ok (first, plan))
    (alike : first.Alike origin) :
    Serves world registry request (next backend (.planned origin plan) s).1 := by
  simp only [next]
  split
  · rename_i result s' found
    exact .finished (.answered asked alike (kept.compute_eq tell member asked (congrArg Prod.fst found)))
  · split
    · rename_i statement compiled
      exact .executing asked alike compiled
    · rename_i failure refused
      have failed : world.compute plan (.int 0) = .error failure := by
        simp only [World.compute, refused]
      exact .finished (.failed asked failed)

/-- One step keeps both what the stage holds and what the stores hold. -/
theorem serves_next (follows : backend.Follows world) (tell : KeysTell world registry requests)
    (member : request ∈ requests) {stage : Stage} (serves : Serves world registry request stage)
    {s : Service τ} (kept : Kept world registry requests s) :
    Serves world registry request (next backend stage s).1 ∧
      Kept world registry requests (next backend stage s).2 := by
  cases serves with
  | received => exact ⟨serves_receive kept, kept⟩
  | @screened message key assessment screened =>
    refine ⟨serves_screened kept tell member screened, ?_⟩
    rw [next_screened_service]
    exact kept.remembered backend key
  | @asking message key assessment screened =>
    obtain ⟨outside, elsewhere⟩ := ask_elsewhere backend registry message key assessment s
    exact ⟨serves_ask follows screened s, elsewhere ▸ kept.elsewhere outside⟩
  | understood screened meant =>
    exact ⟨serves_ofQuery (asks_of_understood screened meant) (.chat ..),
      kept.remember member screened meant⟩
  | @planned first origin plan asked alike =>
    refine ⟨serves_planned kept tell member asked alike, ?_⟩
    rw [next_planned_service]
    exact kept.find backend plan.key
  | @executing first origin plan statement asked alike compiled =>
    obtain ⟨outside, elsewhere⟩ := execute_elsewhere backend origin plan statement s
    exact ⟨serves_execute follows asked alike compiled s, elsewhere ▸ kept.elsewhere outside⟩
  | computed asked alike computed =>
    exact ⟨.finished (.answered asked alike computed), kept.store member asked computed⟩
  | finished answers => exact ⟨.finished answers, kept⟩

theorem answers_run (follows : backend.Follows world) (tell : KeysTell world registry requests)
    (member : request ∈ requests) {stage : Stage} (serves : Serves world registry request stage)
    {s : Service τ} (kept : Kept world registry requests s) :
    Answers world registry request (stage.run backend s).1 ∧
      Kept world registry requests (stage.run backend s).2 := by
  fun_induction run backend stage s with
  | case1 stage s outcome finished =>
    cases serves <;> simp only [outcome?, reduceCtorEq, Option.some.injEq] at finished
    subst finished
    exact ⟨by assumption, kept⟩
  | case2 stage s unfinished taken ih =>
    obtain ⟨serves, kept⟩ := serves_next follows tell member serves kept
    exact ih serves kept

end Stage

end SpatialQuery.Service
