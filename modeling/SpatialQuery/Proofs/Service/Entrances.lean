import SpatialQuery.Proofs.Feature.Facts
import SpatialQuery.Proofs.Query.Replay
import SpatialQuery.Proofs.Service.Transparent

/-!
# Two entrances to one query

A message whose parse is a query, and that query as it is told, are answered alike: they fail with one
failure, or their answers have the same features and, but for what is told about the origin, the same
facts.  Besides, they leave the same results behind.
-/

set_option autoImplicit false

namespace SpatialQuery

/-! ## Answers that agree -/

/-- The facts of an answer that do not depend on how its query came. -/
def Feature.sharedFacts : List Text :=
  ["count", "query", "queryHash", "sourceLayers", "truncated", "maxFeaturesApplied", "hardCap",
    "defaultLimitApplied", "simplifyToleranceDeg", "normalizationNotes"]

def Feature.queryHit? (facts : Json) : Option Json := (facts.get? "cache").bind (·.get? "queryHit")

/-- The database answers alike whenever it is asked alike, and the clock of the stores shows one time. -/
structure Backend.IsSteady {τ : Type} (backend : Backend τ)
    (run : Text → List Json → Except Database.ExecutionError (List Row)) (now : Number) : Prop where
  execute (text : Text) (values : List Json) (outside : τ) :
    (backend.execute text values outside).1 = run text values
  clock (outside : τ) : (backend.clock outside).1 = now

namespace Service

/-- The same failure, or answers with the same features and the same shared facts. -/
inductive SameReply [Stack] : Except Failure Text → Except Failure Text → Prop
  | failure (failure : Failure) : SameReply (.error failure) (.error failure)
  | answer {features text other : Text} {facts others : Json}
      (written : Feature.collection features facts = .ok text)
      (otherWritten : Feature.collection features others = .ok other)
      (shared : ∀ name ∈ Feature.sharedFacts,
        ∃ value, facts.get? name = some value ∧ others.get? name = some value)
      (hit : ∃ value, Feature.queryHit? facts = some value ∧ Feature.queryHit? others = some value) :
      SameReply (.ok text) (.ok other)

/-- The results that are kept, each under its key, but for times. -/
def keptResults {τ : Type} (s : Service τ) : List (Text × Text × Nat) :=
  s.results.entries.map fun e => (e.1, e.2.value.features, e.2.value.count)

/-- Services that answered alike and keep the same results. -/
structure Agree [Stack] {τ : Type} (one other : Except Failure Text × Service τ) : Prop where
  reply : SameReply one.1 other.1
  results : keptResults one.2 = keptResults other.2

theorem Origin.facts_unshared (origin : Origin) (count : Nat) :
    ∀ m ∈ origin.facts count, m.1 ∉ Feature.sharedFacts ∧ m.1 ≠ "cache" := by
  cases origin <;> simp only [Origin.facts, List.forall_mem_cons, List.not_mem_nil, false_implies,
    implies_true, and_true] <;> decide

variable {origin other : Origin}

theorem sameReply_answer [Stack] (plan : Plan) (origin other : Origin) (hit : Bool)
    (features : Text) (count : Nat) (milliseconds others : Number) :
    SameReply (plan.answer origin hit ⟨features, count, milliseconds⟩)
      (plan.answer other hit ⟨features, count, others⟩) := by
  have sharedApart : ∀ origin : Origin, ∀ name ∈ Feature.sharedFacts,
      ∀ m ∈ origin.facts count, m.1 ≠ name := by
    rintro origin name shared m member rfl
    exact (origin.facts_unshared count m member).1 shared
  have cacheApart : ∀ origin : Origin, ∀ m ∈ origin.facts count, m.1 ≠ "cache" :=
    fun origin m member => (origin.facts_unshared count m member).2
  have shared : ∀ name ∈ Feature.sharedFacts, ∃ value,
      (Feature.metadata count milliseconds plan.limited plan.notes ⟨origin.parseHit, hit⟩ []).get? name =
          some value ∧
        (Feature.metadata count others plan.limited plan.notes ⟨other.parseHit, hit⟩ []).get? name =
          some value := by
    simp only [Feature.sharedFacts, List.forall_mem_cons]
    exact ⟨⟨_, rfl, rfl⟩, ⟨_, rfl, rfl⟩, ⟨_, rfl, rfl⟩, ⟨_, rfl, rfl⟩, ⟨_, rfl, rfl⟩, ⟨_, rfl, rfl⟩,
      ⟨_, rfl, rfl⟩, ⟨_, rfl, rfl⟩, ⟨_, rfl, rfl⟩, ⟨_, rfl, rfl⟩, nofun⟩
  obtain ⟨text, told⟩ := plan.exists_answer origin hit ⟨features, count, milliseconds⟩
  obtain ⟨otherText, otherTold⟩ := plan.exists_answer other hit ⟨features, count, others⟩
  rw [told, otherTold]
  refine .answer (mapError_eq_ok_iff.mp told) (mapError_eq_ok_iff.mp otherTold) ?_ ⟨.bool hit, ?_, ?_⟩
  · intro name isShared
    rw [Feature.get?_metadata _ _ _ _ _ (sharedApart origin name isShared),
      Feature.get?_metadata _ _ _ _ _ (sharedApart other name isShared)]
    exact shared name isShared
  · rw [Feature.queryHit?, Feature.get?_metadata _ _ _ _ _ (cacheApart origin)]
    rfl
  · rw [Feature.queryHit?, Feature.get?_metadata _ _ _ _ _ (cacheApart other)]
    rfl

/-! ## Runs that agree -/

variable {τ : Type} {backend : Backend τ} {now : Number}
  {run : Text → List Json → Except Database.ExecutionError (List Row)}

theorem find_of_steady (steady : backend.IsSteady run now) (key : Text) (s : Service τ) :
    (s.find backend key).1 = (s.results.get key now).1 ∧
      (s.find backend key).2.results = (s.results.get key now).2 := by
  simp only [find, Service.clock, steady.clock, and_self]

theorem keptResults_store (steady : backend.IsSteady run now) {s t : Service τ}
    (same : s.results = t.results) (key features : Text) (count : Nat) (milliseconds others : Number) :
    keptResults (s.store backend key ⟨features, count, milliseconds⟩) =
      keptResults (t.store backend key ⟨features, count, others⟩) := by
  simp only [keptResults, store, Service.clock, steady.clock, Cache.set, Cache.retained, same,
    List.map_append, List.map_cons, List.map_nil]

namespace Stage

theorem exists_execute_of_steady [Stack] (steady : backend.IsSteady run now) (origin : Origin) (plan : Plan)
    (statement : Sql.Written) (s : Service τ) :
    ∃ milliseconds, (execute backend origin plan statement s).1 =
      match run statement.text (statement.values.map FilterValue.wire) with
      | .error e => failed (plan.executionFailure e)
      | .ok rows =>
        match plan.result rows milliseconds with
        | .ok result => .computed origin plan result
        | .error failure => failed failure := by
  have executed := steady.execute statement.text (statement.values.map FilterValue.wire)
    (s.watch backend).2.outside
  simp only [execute, Service.execute, executed]
  cases run statement.text (statement.values.map FilterValue.wire) with
  | error e => exact ⟨.int 0, rfl⟩
  | ok rows =>
    dsimp only
    generalize millisecondsBetween _ _ = milliseconds
    refine ⟨milliseconds, ?_⟩
    cases plan.result rows milliseconds with
    | error failure => rfl
    | ok result => rfl

theorem agree_executing [Stack] (steady : backend.IsSteady run now) (plan : Plan)
    (statement : Sql.Written) {s t : Service τ} (same : s.results = t.results) :
    Agree ((executing origin plan statement).run backend s)
      ((executing other plan statement).run backend t) := by
  obtain ⟨outside, elsewhere⟩ := execute_elsewhere backend origin plan statement s
  obtain ⟨otherOutside, otherElsewhere⟩ := execute_elsewhere backend other plan statement t
  obtain ⟨milliseconds, executed⟩ := exists_execute_of_steady steady origin plan statement s
  obtain ⟨others, otherExecuted⟩ := exists_execute_of_steady steady other plan statement t
  rw [run_step rfl s, run_step rfl t]
  simp only [next, executed, otherExecuted, elsewhere, otherElsewhere]
  have sameKept : keptResults { s with outside } = keptResults { t with outside := otherOutside } := by
    simp only [keptResults, same]
  cases run statement.text (statement.values.map FilterValue.wire) with
  | error e =>
    dsimp only [failed]
    rw [run_finished, run_finished]
    exact ⟨.failure _, sameKept⟩
  | ok rows =>
    dsimp only [Plan.result]
    cases Feature.allText plan.listFields rows with
    | error fault =>
      dsimp only [failed]
      rw [run_finished, run_finished]
      exact ⟨.failure _, sameKept⟩
    | ok features =>
      dsimp only
      rw [run_step rfl { s with outside }, run_step rfl { t with outside := otherOutside }]
      simp only [next, run_finished]
      exact ⟨sameReply_answer plan origin other false features rows.length _ _,
        keptResults_store (s := { s with outside }) (t := { t with outside := otherOutside }) steady
          same _ _ _ _ _⟩

theorem agree_planned [Stack] (steady : backend.IsSteady run now) (plan : Plan) {s t : Service τ}
    (same : s.results = t.results) :
    Agree ((planned origin plan).run backend s) ((planned other plan).run backend t) := by
  obtain ⟨found, after⟩ := find_of_steady steady plan.key s
  obtain ⟨otherFound, otherAfter⟩ := find_of_steady steady plan.key t
  rcases first : s.find backend plan.key with ⟨result?, s'⟩
  rcases second : t.find backend plan.key with ⟨other?, t'⟩
  rw [first] at found after
  rw [second, ← same] at otherFound otherAfter
  obtain rfl : result? = other? := found.trans otherFound.symm
  have sameAfter : s'.results = t'.results := after.trans otherAfter.symm
  have sameKept : keptResults s' = keptResults t' := by simp only [keptResults, sameAfter]
  cases result? with
  | some result =>
    rw [run_planned_of_found origin first, run_planned_of_found other second]
    exact ⟨sameReply_answer plan origin other true _ _ _ _, sameKept⟩
  | none =>
    rw [run_step rfl s, run_step rfl t]
    simp only [next, first, second]
    cases plan.statement with
    | error failure =>
      dsimp only [failed]
      rw [run_finished, run_finished]
      exact ⟨.failure _, sameKept⟩
    | ok statement => exact agree_executing steady plan statement sameAfter

theorem agree_ofQuery [Stack] (steady : backend.IsSteady run now) (origin other : Origin)
    (registry : Registry) (q : Query) {s t : Service τ} (same : s.results = t.results) :
    Agree ((ofQuery registry origin q).run backend s) ((ofQuery registry other q).run backend t) := by
  unfold ofQuery
  cases Plan.ofQuery registry q with
  | error failure =>
    dsimp only [failed]
    rw [run_finished, run_finished]
    exact ⟨.failure _, by simp only [keptResults, same]⟩
  | ok plan => exact agree_planned steady plan same

end Stage

/-! ## From a message, and from the query it means -/

/-- The parse of a message comes from a reply: the one that its kept parse was read from, or else the one
that the model gives now. -/
structure ParsedFrom [Stack] (backend : Backend τ) (s : Service τ) (message key reply : Text) : Prop where
  kept : ∀ intent, (s.remembered backend key).1 = some intent →
    ∃ registry, Chat.intentOfReply reply registry = .ok intent
  given : (s.remembered backend key).1 = none →
    (((s.remembered backend key).2.watch backend).2.complete backend
      (Chat.prompt s.registry message)).1 = .ok reply

theorem exists_serve_chat [Stack] {s : Service τ} {message reply : Text} {key : String} {q : Query}
    (hasParser : s.hasParser = true)
    (supported : (Chat.assess Chat.Concept.builtIn message s.registry.loadedNames).isUnsupported = false)
    (keyed : messageKey message = .ok key) (parsed : ParsedFrom backend s message key reply)
    (understood : Chat.queryOfReply reply = .ok q) :
    ∃ (origin : Origin) (after : Service τ), after.results = s.results ∧
      serve backend (.chat message) s = (Stage.ofQuery s.registry origin q).run backend after := by
  have screened : Stage.receive s (.chat message) = .screened s.registry message key
      (Chat.assess Chat.Concept.builtIn message s.registry.loadedNames) := by
    simp only [Stage.receive, hasParser, supported, keyed, if_true, Bool.false_eq_true, if_false]
  rw [serve, Stage.run_step rfl]
  simp only [Stage.next, screened]
  rw [Stage.run_step rfl]
  generalize Chat.assess Chat.Concept.builtIn message s.registry.loadedNames = assessment
  have untouched : (s.remembered backend key).2.results = s.results := rfl
  obtain ⟨kept, given⟩ := parsed
  rcases looked : s.remembered backend key with ⟨intent? | intent, missed⟩
  · -- Nothing is kept: the model is asked, and its reply holds the query.
    rw [looked] at untouched given
    have replied := given rfl
    have read : Chat.intentOfReply reply s.registry =
        .ok ⟨q, Chat.confidence q reply s.registry, reply⟩ := by
      simp only [Chat.intentOfReply, understood]
    obtain ⟨milliseconds, after, asked, sameResults⟩ : ∃ milliseconds after,
        Stage.ask backend s.registry message key assessment missed =
            (.understood s.registry key assessment ⟨q, Chat.confidence q reply s.registry, reply⟩
              milliseconds, after) ∧ after.results = missed.results := by
      simp only [Stage.ask, replied, read]
      exact ⟨_, _, rfl, rfl⟩
    refine ⟨.chat ⟨q, Chat.confidence q reply s.registry, reply⟩ assessment false milliseconds,
      after.remember backend key ⟨q, Chat.confidence q reply s.registry, reply⟩,
      sameResults.trans untouched, ?_⟩
    simp only [Stage.next, looked]
    rw [Stage.run_step rfl]
    simp only [Stage.next, asked]
    rw [Stage.run_step rfl]
    rfl
  · rw [looked] at untouched
    obtain ⟨registry, read⟩ := kept intent (congrArg Prod.fst looked)
    obtain rfl : q = intent.query :=
      Except.ok.inj (understood.symm.trans (query_of_intentOfReply read))
    refine ⟨.chat intent assessment true (.real 0), missed, untouched, ?_⟩
    simp only [Stage.next, looked]

theorem serve_structured_wire [Stack] {q : Query} (admissible : q.Admissible) (t : Service τ) :
    serve backend (.structured q.wire) t =
      (Stage.ofQuery t.registry (.structured .direct) q).run backend t := by
  rw [serve, Stage.run_step rfl]
  simp only [Stage.next, Stage.receive, Query.payload_wire, Query.ofJson_wire admissible]

/-- A message that cannot be encoded is refused at once: nothing is asked, and nothing changes. -/
theorem serve_chat_of_unkeyed [Stack] {s : Service τ} {message : Text} {fault : Text.SurrogateFault}
    (hasParser : s.hasParser = true)
    (supported : (Chat.assess Chat.Concept.builtIn message s.registry.loadedNames).isUnsupported = false)
    (unkeyed : messageKey message = .error fault) :
    serve backend (.chat message) s = (.error (.unencodable fault), s) := by
  have received : Stage.receive s (.chat message) = Stage.failed (.unencodable fault) := by
    simp only [Stage.receive, hasParser, supported, unkeyed, if_true, Bool.false_eq_true, if_false]
  rw [serve, Stage.run_step rfl]
  simp only [Stage.next, received, Stage.failed, Stage.run_finished]

/-- Whether it comes as a message or as it is told, a query has one answer, and leaves one result; but a
message that cannot be encoded is refused before anything is asked. -/
theorem chat_agrees_with_structured [Stack] (steady : backend.IsSteady run now) {s t : Service τ}
    (sameRegistry : t.registry = s.registry) (sameResults : t.results = s.results)
    (hasParser : s.hasParser = true) (message : Text)
    (supported :
      (Chat.assess Chat.Concept.builtIn message s.registry.loadedNames).isUnsupported = false) :
    (∀ (key : String) (reply : Text) (q : Query), messageKey message = .ok key →
      ParsedFrom backend s message key reply → Chat.queryOfReply reply = .ok q →
        SameReply (serve backend (.chat message) s).1 (serve backend (.structured q.wire) t).1 ∧
          keptResults (serve backend (.chat message) s).2 =
            keptResults (serve backend (.structured q.wire) t).2) ∧
    ∀ fault, messageKey message = .error fault →
      serve backend (.chat message) s = (.error (.unencodable fault), s) := by
  constructor
  · intro key reply q keyed parsed understood
    obtain ⟨origin, after, sameAfter, served⟩ :=
      exists_serve_chat hasParser supported keyed parsed understood
    have admissible : q.Admissible := admissible_of_queryOfReply understood
    have agree := Stage.agree_ofQuery (t := t) steady origin (.structured .direct) s.registry q
      (sameAfter.trans sameResults.symm)
    rw [served, serve_structured_wire admissible, sameRegistry]
    exact ⟨agree.reply, agree.results⟩
  · intro fault unkeyed
    exact serve_chat_of_unkeyed hasParser supported unkeyed

def steadyBackend (world : World) : Backend Int :=
  { tickingBackend world with clock := fun outside => (.int 0, outside) }

theorem steadyBackend_isSteady (world : World) :
    (steadyBackend world).IsSteady world.run (.int 0) :=
  ⟨fun _ _ _ => rfl, fun _ => rfl⟩

theorem parsedFrom_of_complete [Stack] {world : World} {s : Service Int} (none : s.parses.entries = [])
    {message key reply : Text} (said : ∀ prompt, world.complete prompt = .ok reply) :
    ParsedFrom (steadyBackend world) s message key reply := by
  have missed : (s.remembered (steadyBackend world) key).1 = Option.none :=
    congrArg Prod.fst (Cache.get_of_entries_eq_nil none)
  refine ⟨?_, fun _ => said _⟩
  intro intent found
  rw [missed] at found
  cases found

section

open Stack.Usual

theorem chat_agrees_with_structured_sample :
    ∃ key, messageKey "Which parcels are zoned R-1?" = .ok key ∧
      SameReply
        (serve (steadyBackend parcelsWorld) (.chat "Which parcels are zoned R-1?") (strictService 0 0)).1
        (serve (steadyBackend parcelsWorld) (.structured (Query.zoningQuery (.str "R-1")).wire)
          (strictService 0 0)).1 ∧
      keptResults
          (serve (steadyBackend parcelsWorld) (.chat "Which parcels are zoned R-1?")
            (strictService 0 0)).2 =
        keptResults
          (serve (steadyBackend parcelsWorld) (.structured (Query.zoningQuery (.str "R-1")).wire)
            (strictService 0 0)).2 := by
  obtain ⟨reply, said, understood⟩ := exists_zoningReply
  obtain ⟨key, keyed⟩ : ∃ key, messageKey "Which parcels are zoned R-1?" = .ok key := ⟨_, rfl⟩
  have parsed : ParsedFrom (steadyBackend parcelsWorld) (strictService 0 0)
      "Which parcels are zoned R-1?" key reply := parsedFrom_of_complete rfl said
  obtain ⟨agree, _⟩ := chat_agrees_with_structured (s := strictService 0 0) (t := strictService 0 0)
    (steadyBackend_isSteady parcelsWorld) rfl rfl rfl "Which parcels are zoned R-1?"
    isSupported_zoning
  exact ⟨key, keyed, agree key reply _ keyed parsed understood⟩

end

/-! ## A message that has no key -/

def loneHalf : Text := ⟨[Text.markOfCode 0xD800]⟩

section

open Stack.Usual

theorem exists_serve_zoning : ∃ body, (serve (steadyBackend parcelsWorld)
    (.structured (Query.zoningQuery (.str "R-1")).wire) (strictService 0 0)).1 = .ok body := by
  obtain ⟨plan, statement, features, planned, compiled, computed⟩ : ∃ plan statement features,
      Plan.ofQuery Query.parcelsRegistry (Query.zoningQuery (.str "R-1")) = .ok plan ∧
      plan.statement = .ok statement ∧
      plan.result [[("zoning", .text "R-1")]] (.int 1000) = .ok ⟨features, 1, .int 1000⟩ :=
    ⟨_, _, _, rfl, rfl, rfl⟩
  obtain ⟨reply, _, understood⟩ := exists_zoningReply
  have missed : (strictService 0 0).find (steadyBackend parcelsWorld) plan.key =
      (none, strictService 1 0) := rfl
  have executed : Stage.execute (steadyBackend parcelsWorld) (.structured .direct) plan statement
      (strictService 1 0) =
        (.computed (.structured .direct) plan ⟨features, 1, .int 1000⟩, strictService 1 2) := by
    simp only [Stage.execute, Service.execute, Service.watch, steadyBackend, tickingBackend,
      strictService, parcelsWorld, Stage.millisecondsBetween, Number.sub, Number.mul]
    rw [show ((0 + 1 : Int) - 0) * 1000 = 1000 from rfl, computed]
    rfl
  have served := Stage.run_planned_of_missed missed compiled executed
  obtain ⟨body, told⟩ := plan.exists_answer (.structured .direct) false ⟨features, 1, .int 1000⟩
  refine ⟨body, ?_⟩
  rw [serve_structured_wire (admissible_of_queryOfReply understood)]
  change ((Stage.ofQuery Query.parcelsRegistry _ _).run _ _).1 = _
  simp only [Stage.ofQuery, planned]
  rw [served]
  exact told

/-- The model's reply holds a query that is answered, but the message is refused for want of a key. -/
theorem message_without_key_is_refused :
    ∃ reply q, (steadyBackend parcelsWorld).IsSteady parcelsWorld.run (.int 0) ∧
      (Chat.assess Chat.Concept.builtIn loneHalf Query.parcelsRegistry.loadedNames).isUnsupported =
        false ∧
      (∀ prompt, parcelsWorld.complete prompt = .ok reply) ∧ Chat.queryOfReply reply = .ok q ∧
      ¬ SameReply (serve (steadyBackend parcelsWorld) (.chat loneHalf) (strictService 0 0)).1
        (serve (steadyBackend parcelsWorld) (.structured q.wire) (strictService 0 0)).1 := by
  obtain ⟨reply, said, understood⟩ := exists_zoningReply
  have supported : (Chat.assess Chat.Concept.builtIn loneHalf
      Query.parcelsRegistry.loadedNames).isUnsupported = false := by decide +kernel
  refine ⟨reply, _, steadyBackend_isSteady parcelsWorld, supported, said, understood, ?_⟩
  obtain ⟨fault, unkeyed⟩ : ∃ fault, messageKey loneHalf = .error fault := ⟨_, rfl⟩
  have refused : serve (steadyBackend parcelsWorld) (.chat loneHalf) (strictService 0 0) =
      (.error (.unencodable fault), strictService 0 0) := serve_chat_of_unkeyed rfl supported unkeyed
  obtain ⟨body, answered⟩ := exists_serve_zoning
  rw [refused, answered]
  nofun

end

end Service

end SpatialQuery
