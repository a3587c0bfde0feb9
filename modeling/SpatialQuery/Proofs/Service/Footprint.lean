import SpatialQuery.Proofs.Cache.Turnover
import SpatialQuery.Proofs.Service.Accesses
import SpatialQuery.Proofs.Service.Executions

/-!
# What a failed request leaves behind

A result is put into its store only when nothing can fail any more.  So a request that fails has at most
looked a result up, and of the results only one that it saw expired is gone.  Among the parses it may leave
the one of its message behind, if a reply of the model held it, in place of the expired one or, where there
is no room, of the one that was used least recently.
-/

set_option autoImplicit false

namespace SpatialQuery.Service

variable {τ : Type} {backend : Backend τ} {s : Service τ}

/-- The model completes the prompt of the message with a reply that holds the intent. -/
def IsParse [Stack] (backend : Backend τ) (registry : Registry) (message : Text)
    (intent : Chat.Intent) : Prop :=
  ∃ outside reply, (backend.complete (Chat.prompt registry message) outside).1 = .ok reply ∧
    Chat.intentOfReply reply registry = .ok intent

/-- At most one result is looked up, and nothing else. -/
inductive LooksUp : List Access → Prop
  | none : LooksUp []
  | once (key : Text) (now : Number) : LooksUp [.results (.get key now)]

/-- What a request may do to the stores before it fails. -/
inductive Fails [Stack] (backend : Backend τ) (s : Service τ) : Request → List Access → Prop
  | structured {body : Json} {accesses : List Access} (rest : LooksUp accesses) :
      Fails backend s (.structured body) accesses
  | refused (message : Text) : Fails backend s (.chat message) []
  | recalled {message : Text} {key : String} {accesses : List Access}
      (keyed : messageKey message = .ok key) (now : Number) (rest : LooksUp accesses) :
      Fails backend s (.chat message) (.parses (.get key now) :: accesses)
  /-- Its parse was not kept, and the model gave one. -/
  | understood {message : Text} {key : String} {now : Number} {intent : Chat.Intent}
      {accesses : List Access} (keyed : messageKey message = .ok key)
      (missed : (s.parses.get key now).1 = none) (parsed : IsParse backend s.registry message intent)
      (later : Number) (rest : LooksUp accesses) :
      Fails backend s (.chat message)
        (.parses (.get key now) :: .parses (.set key intent later) :: accesses)

/-! ## Stage by stage -/

namespace Stage

variable {origin : Origin} {failure : Failure}

theorem accesses_executing_of_failed [Stack] {plan : Plan} {statement : Sql.Written}
    (failed : ((executing origin plan statement).run backend s).1 = .error failure) :
    (executing origin plan statement).accesses backend s = [] := by
  rw [run_step rfl] at failed
  rw [accesses_step rfl]
  simp only [next] at failed ⊢
  rcases execute_stage backend origin plan statement s with ⟨other, ended⟩ | ⟨result, computed⟩
  · rw [ended]
    exact accesses_finished backend _ _
  · rw [computed, run_step rfl] at failed
    simp only [next, run_finished] at failed
    obtain ⟨body, answered⟩ := plan.exists_answer origin false result
    rw [answered] at failed
    cases failed

theorem looksUp_planned_of_failed [Stack] {plan : Plan}
    (failed : ((planned origin plan).run backend s).1 = .error failure) :
    LooksUp ((planned origin plan).accesses backend s) := by
  rw [run_step rfl] at failed
  rw [accesses_step rfl]
  simp only [next] at failed ⊢
  rcases looked : s.find backend plan.key with ⟨_ | result, after⟩
  · rw [looked] at failed
    dsimp only at failed ⊢
    cases compiled : plan.statement with
    | error other => exact accesses_finished backend _ after ▸ .once ..
    | ok statement =>
      rw [compiled] at failed
      dsimp only at failed ⊢
      rw [accesses_executing_of_failed failed]
      exact .once ..
  · rw [looked] at failed
    dsimp only at failed
    rw [run_finished] at failed
    obtain ⟨body, answered⟩ := plan.exists_answer origin true result
    rw [answered] at failed
    cases failed

theorem looksUp_ofQuery_of_failed [Stack] {registry : Registry} {q : Query}
    (failed : ((ofQuery registry origin q).run backend s).1 = .error failure) :
    LooksUp ((ofQuery registry origin q).accesses backend s) := by
  unfold ofQuery at failed ⊢
  cases planned : Plan.ofQuery registry q with
  | error other => exact accesses_finished backend _ s ▸ .none
  | ok plan =>
    rw [planned] at failed
    exact looksUp_planned_of_failed failed

theorem ask_parse [Stack] (backend : Backend τ) (registry : Registry) (message key : Text)
    (assessment : Chat.Assessment) (s : Service τ) :
    (∃ failure, (ask backend registry message key assessment s).1 = failed failure) ∨
      ∃ intent milliseconds, IsParse backend registry message intent ∧
        (ask backend registry message key assessment s).1 =
          .understood registry key assessment intent milliseconds := by
  simp only [ask, Service.complete]
  split
  · exact .inl ⟨_, rfl⟩
  · rename_i reply said
    split
    · exact .inl ⟨_, rfl⟩
    · rename_i intent read
      exact .inr ⟨intent, _, ⟨_, reply, said, read⟩, rfl⟩

/-- A parse that the model gave is kept before its query can be refused. -/
theorem accesses_asking_of_failed [Stack] {registry : Registry} {message key : Text}
    {assessment : Chat.Assessment}
    (failed : ((asking registry message key assessment).run backend s).1 = .error failure) :
    (asking registry message key assessment).accesses backend s = [] ∨
      ∃ intent later rest, IsParse backend registry message intent ∧ LooksUp rest ∧
        (asking registry message key assessment).accesses backend s =
          .parses (.set key intent later) :: rest := by
  rw [run_step rfl] at failed
  rw [accesses_step rfl]
  simp only [next] at failed ⊢
  rcases ask_parse backend registry message key assessment s with
    ⟨other, ended⟩ | ⟨intent, milliseconds, parsed, understood⟩
  · rw [ended]
    exact .inl (accesses_finished backend _ _)
  · rw [understood, run_step rfl] at failed
    rw [understood, accesses_step rfl]
    exact .inr ⟨intent, _, _, parsed, looksUp_ofQuery_of_failed failed, rfl⟩

theorem fails_screened [Stack] {message : Text} {key : String} {assessment : Chat.Assessment}
    (keyed : messageKey message = .ok key)
    (failed : ((screened s.registry message key assessment).run backend s).1 = .error failure) :
    Fails backend s (.chat message)
      ((screened s.registry message key assessment).accesses backend s) := by
  rw [run_step rfl] at failed
  rw [accesses_step rfl]
  simp only [next] at failed ⊢
  rcases looked : s.remembered backend key with ⟨_ | intent, after⟩
  · have missed : (s.parses.get key (s.clock backend).1).1 = none := congrArg Prod.fst looked
    rw [looked] at failed
    dsimp only at failed ⊢
    rcases accesses_asking_of_failed failed with none | ⟨intent, later, rest, parsed, looksUp, put⟩
    · rw [none]
      exact .recalled keyed _ .none
    · rw [put]
      exact .understood keyed missed parsed later looksUp
  · rw [looked] at failed
    exact .recalled keyed _ (looksUp_ofQuery_of_failed failed)

theorem receive_chat (s : Service τ) (message : Text) :
    (∃ failure, receive s (.chat message) = Stage.failed failure) ∨
      ∃ key assessment, messageKey message = .ok key ∧
        receive s (.chat message) = .screened s.registry message key assessment := by
  simp only [receive]
  split
  · split
    · exact .inl ⟨_, rfl⟩
    · split
      · rename_i key keyed
        exact .inr ⟨key, _, keyed, rfl⟩
      · exact .inl ⟨_, rfl⟩
  · exact .inl ⟨_, rfl⟩

theorem fails_received [Stack] {request : Request}
    (failed : (serve backend request s).1 = .error failure) :
    Fails backend s request ((received request).accesses backend s) := by
  -- One case for each entrance.
  unfold serve at failed
  rw [run_step rfl] at failed
  rw [accesses_step rfl]
  cases request with
  | structured body =>
    simp only [next, receive] at failed ⊢
    cases read : Query.ofJson (Query.payload body).1 with
    | error issues => exact accesses_finished backend _ s ▸ .structured .none
    | ok q =>
      rw [read] at failed
      exact .structured (looksUp_ofQuery_of_failed failed)
  | chat message =>
    simp only [next] at failed ⊢
    rcases receive_chat s message with ⟨other, refused⟩ | ⟨key, assessment, keyed, screened⟩
    · rw [refused]
      exact accesses_finished backend _ s ▸ .refused message
    · rw [screened] at failed ⊢
      exact fails_screened keyed failed

end Stage

/-! ## What comes and goes -/

section

variable {request : Request} {failure : Failure} {after : Service τ}

theorem fails_of_serve [Stack]
    (failed : serve backend request s = (.error failure, after)) :
    Fails backend s request ((Stage.received request).accesses backend s) ∧
      Leads s ((Stage.received request).accesses backend s) after := by
  have leads := Stage.leads_run backend (.received request) s
  have served : ((Stage.received request).run backend s).2 = after := congrArg Prod.snd failed
  rw [served] at leads
  exact ⟨Stage.fails_received (congrArg Prod.fst failed), leads⟩

theorem LooksUp.onParses {accesses : List Access} (rest : LooksUp accesses) :
    accesses.filterMap Access.onParses? = [] := by
  cases rest with
  | none => rfl
  | once key now => rfl

theorem Fails.onResults [Stack] {accesses : List Access} (fails : Fails backend s request accesses) :
    accesses.filterMap Access.onResults? = [] ∨
      ∃ key now, accesses.filterMap Access.onResults? = [.get key now] ∧
        .results (.get key now) ∈ accesses := by
  have looks : ∀ {rest : List Access}, LooksUp rest → rest.filterMap Access.onResults? = [] ∨
      ∃ key now, rest.filterMap Access.onResults? = [.get key now] ∧ .results (.get key now) ∈ rest := by
    intro rest looksUp
    cases looksUp with
    | none => exact .inl rfl
    | once key now => exact .inr ⟨key, now, rfl, List.mem_cons_self⟩
  cases fails with
  | structured rest => exact looks rest
  | refused message => exact .inl rfl
  | recalled keyed now rest =>
    rcases looks rest with none | ⟨key, now, one, among⟩
    · exact .inl none
    · exact .inr ⟨key, now, one, List.mem_cons_of_mem _ among⟩
  | understood keyed missed parsed later rest =>
    rcases looks rest with none | ⟨key, now, one, among⟩
    · exact .inl none
    · exact .inr ⟨key, now, one, List.mem_cons_of_mem _ (List.mem_cons_of_mem _ among)⟩

/-- Of the results at most one is gone, which was looked up and expired, and none is new. -/
theorem results_of_failed [Stack] (distinct : s.results.keys.Nodup)
    (failed : serve backend request s = (.error failure, after)) :
    ∃ gone, gone.length ≤ 1 ∧ s.results.Turnover after.results gone [] ∧
      ∀ e ∈ gone, ∃ now,
        .results (.get e.1 now) ∈ (Stage.received request).accesses backend s ∧
        e.2.isExpired s.results.lifetime now = true := by
  obtain ⟨fails, leads⟩ := fails_of_serve failed
  rcases fails.onResults with none | ⟨key, now, one, among⟩
  · have same : after.results = s.results := by
      rw [leads.results, none]
      rfl
    rw [same]
    exact ⟨[], Nat.zero_le 1, .refl _, nofun⟩
  · obtain ⟨gone, atMost, turnover, expired⟩ := Cache.get_turnover distinct key now
    have looked : after.results = (s.results.get key now).2 := by
      rw [leads.results, one]
      rfl
    rw [looked]
    refine ⟨gone, atMost, turnover, ?_⟩
    intro e isGone
    obtain ⟨isKey, isExpired⟩ := expired e isGone
    exact ⟨now, isKey ▸ among, isExpired⟩

theorem parses_of_failed [Stack] {past : List Text} (room : 1 ≤ s.parses.maxSize)
    (bounded : s.parses.size ≤ s.parses.maxSize) (distinct : s.parses.keys.Nodup)
    (ordered : Cache.InTouchOrder past s.parses.keys)
    (failed : serve backend request s = (.error failure, after)) :
    ∃ gone new, gone.length ≤ 1 ∧ new.length ≤ 1 ∧ s.parses.Turnover after.parses gone new ∧
      (∀ e ∈ new, ∃ message key, request = .chat message ∧ messageKey message = .ok key ∧ e.1 = key ∧
        IsParse backend s.registry message e.2.value ∧ e.2.value.query.Admissible) ∧
      ∀ e ∈ gone,
        (∃ message key now, request = .chat message ∧ messageKey message = .ok key ∧ e.1 = key ∧
          .parses (.get e.1 now) ∈ (Stage.received request).accesses backend s ∧
          e.2.isExpired s.parses.lifetime now = true) ∨
        new ≠ [] ∧ s.parses.size = s.parses.maxSize ∧ Cache.IsLeastRecent past s.parses e := by
  obtain ⟨fails, leads⟩ := fails_of_serve failed
  have led := leads.parses
  generalize (Stage.received request).accesses backend s = accesses at fails led ⊢
  have untouched : accesses.filterMap Access.onParses? = [] → s.parses.Turnover after.parses [] [] := by
    intro none
    rw [led, none]
    exact .refl _
  cases fails with
  | structured rest =>
    exact ⟨[], [], Nat.zero_le 1, Nat.zero_le 1, untouched rest.onParses,
      fun _ member => absurd member List.not_mem_nil, fun _ member => absurd member List.not_mem_nil⟩
  | refused message =>
    exact ⟨[], [], Nat.zero_le 1, Nat.zero_le 1, untouched rfl,
      fun _ member => absurd member List.not_mem_nil, fun _ member => absurd member List.not_mem_nil⟩
  | @recalled message key accesses keyed now rest =>
    obtain ⟨gone, atMost, turnover, expired⟩ := Cache.get_turnover distinct (key : Text) now
    have looked : after.parses = (s.parses.get key now).2 := by
      simp only [led, List.filterMap_cons, Access.onParses?, rest.onParses]
      rfl
    rw [looked]
    refine ⟨gone, [], atMost, Nat.zero_le 1, turnover,
      fun _ member => absurd member List.not_mem_nil, ?_⟩
    intro e isGone
    obtain ⟨isKey, isExpired⟩ := expired e isGone
    have among : .parses (.get e.1 now) ∈ Access.parses (.get key now) :: accesses := by
      rw [isKey]
      exact List.mem_cons_self
    exact .inl ⟨message, key, now, rfl, keyed, isKey, among, isExpired⟩
  | @understood message key now intent accesses keyed missed parsed later rest =>
    obtain ⟨gone, atMost, turnover, left⟩ :=
      Cache.set_turnover_of_missed room bounded distinct ordered missed intent later
    have put : after.parses = (s.parses.get key now).2.set key intent later := by
      simp only [led, List.filterMap_cons, Access.onParses?, rest.onParses]
      rfl
    rw [put]
    refine ⟨gone, [((key : Text), ⟨intent, later⟩)], atMost, Nat.le_refl 1, turnover, ?_, ?_⟩
    · intro e isNew
      rw [List.mem_singleton.mp isNew]
      obtain ⟨outside, reply, said, read⟩ := parsed
      have admissible := admissible_of_queryOfReply (query_of_intentOfReply read)
      exact ⟨message, key, rfl, keyed, rfl, ⟨outside, reply, said, read⟩, admissible⟩
    · intro e isGone
      rcases left e isGone with ⟨isKey, isExpired⟩ | ⟨full, leastRecent⟩
      · have among : .parses (.get e.1 now) ∈ Access.parses (.get key now) ::
            .parses (.set key intent later) :: accesses := by
          rw [isKey]
          exact List.mem_cons_self
        exact .inl ⟨message, key, now, rfl, keyed, isKey, among, isExpired⟩
      · exact .inr ⟨List.cons_ne_nil _ _, full, leastRecent⟩

end

/-! ## From any traffic -/

namespace Traffic

/-- The keys of the parses in the order in which the traffic touched them. -/
def parseTouches [Stack] (backend : Backend τ) (s : Service τ) (moves : List (Move τ)) : List Text :=
  Cache.touches ((start s).service.parses.answers
    (((start s).accesses backend moves).filterMap Access.onParses?))

/-- Whatever came before, a request that fails leaves no result behind that was not there, and of those that
were there at most one is gone, which it looked up and saw expired.  Of the parses at most that of its
message is new, and only if the model gave it and it is a well-formed query; at most one is gone, which is
the expired one of the message or, in exchange for the new one in a full store, the one that was used least
recently. -/
theorem failure_leaves_results_alone [Stack] (backend : Backend τ) {s : Service τ}
    (parseRoom : 1 ≤ s.parses.maxSize) (resultRoom : 1 ≤ s.results.maxSize) (moves : List (Move τ))
    (request : Request) {before after : Service τ} {failure : Failure}
    (reached : ((start s).run backend moves).service = before)
    (failed : serve backend request before = (.error failure, after)) :
    (∃ gone, gone.length ≤ 1 ∧ before.results.Turnover after.results gone [] ∧
      ∀ e ∈ gone, ∃ now,
        .results (.get e.1 now) ∈ (Stage.received request).accesses backend before ∧
        e.2.isExpired before.results.lifetime now = true) ∧
    ∃ gone new, gone.length ≤ 1 ∧ new.length ≤ 1 ∧ before.parses.Turnover after.parses gone new ∧
      (∀ e ∈ new, ∃ message key, request = .chat message ∧ messageKey message = .ok key ∧ e.1 = key ∧
        IsParse backend before.registry message e.2.value ∧ e.2.value.query.Admissible) ∧
      ∀ e ∈ gone,
        (∃ message key now, request = .chat message ∧ messageKey message = .ok key ∧ e.1 = key ∧
          .parses (.get e.1 now) ∈ (Stage.received request).accesses backend before ∧
          e.2.isExpired before.parses.lifetime now = true) ∨
        new ≠ [] ∧ before.parses.size = before.parses.maxSize ∧
          Cache.IsLeastRecent (parseTouches backend s moves) before.parses e := by
  subst reached
  have leads := leads_run backend (start s) moves
  have parseTracks := Cache.tracks_run (start s).service.parses rfl parseRoom
    (((start s).accesses backend moves).filterMap Access.onParses?)
  have resultTracks := Cache.tracks_run (start s).service.results rfl resultRoom
    (((start s).accesses backend moves).filterMap Access.onResults?)
  have ordered := Cache.inTouchOrder_run (start s).service.parses rfl
    (((start s).accesses backend moves).filterMap Access.onParses?)
  rw [← leads.parses] at parseTracks ordered
  rw [← leads.results] at resultTracks
  have room := parseTracks.maxSize_eq.symm ▸ parseRoom
  exact ⟨results_of_failed resultTracks.distinct failed,
    parses_of_failed room parseTracks.bounded parseTracks.distinct ordered failed⟩

def narrowService : Service Int := { strictService 0 0 with registry := narrowRegistry }

section

open Stack.Usual

/-- The model gives a parse for the message, which is kept although its query is refused. -/
theorem failure_leaves_results_alone_sample :
    1 ≤ narrowService.parses.maxSize ∧ 1 ≤ narrowService.results.maxSize ∧
    ∃ before failure after,
      ((start narrowService).run (tickingBackend parcelsWorld) []).service = before ∧
      serve (tickingBackend parcelsWorld) zoningMessage before = (.error failure, after) ∧
      after.results.entries = [] ∧
      ∃ e, after.parses.entries = [e] ∧
        IsParse (tickingBackend parcelsWorld) narrowRegistry "Which parcels are zoned R-1?" e.2.value := by
  refine ⟨Nat.le_refl 1, Nat.le_refl 1, narrowService, ?_⟩
  obtain ⟨key, keyed⟩ : ∃ key, messageKey "Which parcels are zoned R-1?" = .ok key := ⟨_, rfl⟩
  have supported : (Chat.assess Chat.Concept.builtIn "Which parcels are zoned R-1?"
      narrowRegistry.loadedNames).isUnsupported = false := isSupported_zoning
  obtain ⟨reply, said, understood⟩ := exists_zoningReply
  obtain ⟨intent, read, isZoning⟩ : ∃ intent,
      Chat.intentOfReply reply narrowRegistry = .ok intent ∧
        intent.query = Query.zoningQuery (.str "R-1") := by
    simp only [Chat.intentOfReply, understood]
    exact ⟨_, rfl, rfl⟩
  obtain ⟨failure, refused⟩ : ∃ failure,
      Plan.ofQuery narrowRegistry (Query.zoningQuery (.str "R-1")) = .error failure := ⟨_, rfl⟩
  have failed : serve (tickingBackend parcelsWorld) zoningMessage narrowService =
      (.error failure, { narrowService with
        parses := ⟨1, .int 60, [(key, ⟨intent, .int 3⟩)], 0, 1⟩, outside := 4 }) := by
    rw [serve, Stage.run_step rfl]
    have screened : Stage.receive narrowService zoningMessage = .screened narrowRegistry
        "Which parcels are zoned R-1?" key (Chat.assess Chat.Concept.builtIn
          "Which parcels are zoned R-1?" narrowRegistry.loadedNames) := by
      simp [Stage.receive, zoningMessage, narrowService, strictService, supported, keyed]
    simp only [Stage.next, screened]
    rw [Stage.run_step rfl]
    simp only [Stage.next, Service.remembered, Service.clock, tickingBackend, narrowService,
      strictService, Cache.get, Assoc.get?]
    rw [Stage.run_step rfl]
    simp only [Stage.next, Stage.ask, Service.watch, Service.complete, said, read]
    rw [Stage.run_step rfl]
    simp only [Stage.next, Stage.ofQuery, isZoning, refused, Stage.failed, Stage.run_finished,
      Service.remember, Service.clock, Cache.set, Cache.retained, Assoc.get?]
    simp
  obtain ⟨_, away, new, _, _, ⟨kept, held, holds⟩, isNew, _⟩ :=
    failure_leaves_results_alone (tickingBackend parcelsWorld) (s := narrowService) (Nat.le_refl 1)
      (Nat.le_refl 1) [] zoningMessage rfl failed
  obtain ⟨rfl, rfl⟩ := List.append_eq_nil_iff.mp (List.nil_perm.mp held)
  have among : ((key : Text), (⟨intent, .int 3⟩ : Cache.Entry Chat.Intent)) ∈ new :=
    holds.mem_iff.mp List.mem_cons_self
  obtain ⟨message, _, isMessage, _, _, parsed, _⟩ := isNew _ among
  cases isMessage
  exact ⟨failure, _, rfl, failed, rfl, _, rfl, parsed⟩

end

end Traffic

end SpatialQuery.Service
