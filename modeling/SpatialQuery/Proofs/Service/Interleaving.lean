import SpatialQuery.Proofs.Query.Key
import SpatialQuery.Proofs.Service.Step

/-!
# Requests and reloads among each other

Any number of requests and reloads take their steps in any order.  Snapshots of the registry are numbered
in the order in which they are put in force.  Beside the service itself it is written down which snapshot
each request read, which snapshots the reloads that had returned by then had put in force, and who made
each result that is kept.  Nothing that the service does depends on these notes.
-/

set_option autoImplicit false

namespace SpatialQuery.Service

structure Flight where
  stage : Stage
  /-- The number of the snapshot that it read. -/
  version : Nat
  /-- The newest snapshot of a reload that had returned when it read its own. -/
  floor : Nat

/-- Who put a result into the store. -/
structure Maker where
  version : Nat
  /-- The newest snapshot of a reload that had returned when the result was stored. -/
  floor : Nat

/-- The result was stored after a reload had returned that put a newer snapshot in force. -/
def Maker.IsLate (maker : Maker) : Prop := maker.version < maker.floor

structure Hit where
  /-- The newest snapshot of a reload that had returned when the request read its own. -/
  floor : Nat
  maker? : Option Maker

inductive Reloading where
  | built (registry : Registry)
  /-- The registry is in force under this number, and the results are cleared next. -/
  | swapped (version : Nat)
  | returned

structure System (τ : Type) where
  service : Service τ
  flights : List Flight
  reloads : List Reloading
  version : Nat
  /-- The newest snapshot of a reload that has returned. -/
  floor : Nat
  /-- By key, who stored a result last. -/
  makers : List (Text × Maker)
  hits : List Hit

/-- One step of a request or of a reload. -/
inductive Action where
  /-- A request comes and reads the snapshot in force. -/
  | enter (request : Request)
  | advance (index : Nat)
  /-- A reload begins and builds a registry. -/
  | build
  | swap (index : Nat)
  /-- The results are cleared, with which the reload is at its end. -/
  | clear (index : Nat)

namespace System

variable {τ : Type}

def start (s : Service τ) : System τ :=
  { service := { s with results := s.results.clear }
    flights := [], reloads := [], version := 0, floor := 0, makers := [], hits := [] }

/-- Who stored what, when a request takes its next step. -/
def makersAfter (sys : System τ) (flight : Flight) : List (Text × Maker) :=
  match flight.stage with
  | .computed _ plan _ => Assoc.insert plan.key ⟨flight.version, sys.floor⟩ sys.makers
  | _ => sys.makers

/-- Which answers came from the store, when a request takes its next step. -/
def hitsAfter (backend : Backend τ) (sys : System τ) (flight : Flight) : List Hit :=
  match flight.stage with
  | .planned _ plan =>
    match (sys.service.find backend plan.key).1 with
    | some _ => sys.hits ++ [⟨flight.floor, Assoc.get? plan.key sys.makers⟩]
    | none => sys.hits
  | _ => sys.hits

def advance [Stack] (backend : Backend τ) (sys : System τ) (index : Nat) (flight : Flight) : System τ :=
  let (stage, service) := flight.stage.next backend sys.service
  { sys with
    service
    flights := sys.flights.set index { flight with stage }
    makers := sys.makersAfter flight
    hits := sys.hitsAfter backend flight }

/-- An action; one that is not possible changes nothing. -/
def act [Stack] (backend : Backend τ) (sys : System τ) : Action → System τ
  | .enter request =>
    { sys with flights := sys.flights ++
        [⟨Stage.receive sys.service request, sys.version, sys.floor⟩] }
  | .advance index =>
    match sys.flights[index]? with
    | some flight => sys.advance backend index flight
    | none => sys
  | .build =>
    match sys.service.build backend with
    | (.ok registry, service) => { sys with service, reloads := sys.reloads ++ [.built registry] }
    | (.error _, service) => { sys with service }
  | .swap index =>
    match sys.reloads[index]? with
    | some (.built registry) =>
      { sys with
        service := sys.service.swap registry
        reloads := sys.reloads.set index (.swapped (sys.version + 1))
        version := sys.version + 1 }
    | _ => sys
  | .clear index =>
    match sys.reloads[index]? with
    | some (.swapped version) =>
      { sys with
        service := sys.service.clearResults
        reloads := sys.reloads.set index .returned
        floor := max sys.floor version }
    | _ => sys

def run [Stack] (backend : Backend τ) (sys : System τ) (actions : List Action) : System τ :=
  actions.foldl (act backend) sys

/-! ## What the notes tell -/

/-- The maker of a result is known and, unless it came late, held a snapshot that is not older. -/
def IsMadeSince (floor : Nat) (maker? : Option Maker) : Prop :=
  ∃ maker, maker? = some maker ∧ (maker.IsLate ∨ floor ≤ maker.version)

theorem IsMadeSince.mono {floor lower : Nat} {maker? : Option Maker} (below : lower ≤ floor)
    (made : IsMadeSince floor maker?) : IsMadeSince lower maker? := by
  obtain ⟨maker, known, since⟩ := made
  exact ⟨maker, known, since.imp_right (Nat.le_trans below)⟩

/-- Each result that is kept was made since the newest snapshot that a reload left behind, and each
answer from the store since the newest one that its request could know of. -/
structure Noted (sys : System τ) : Prop where
  flights : ∀ flight ∈ sys.flights, flight.floor ≤ sys.floor
  entries : ∀ e ∈ sys.service.results.entries, IsMadeSince sys.floor (Assoc.get? e.1 sys.makers)
  hits : ∀ hit ∈ sys.hits, IsMadeSince hit.floor hit.maker?

variable {backend : Backend τ} {sys : System τ}

theorem noted_start (s : Service τ) : (start s).Noted := by
  refine ⟨?_, ?_, ?_⟩
  · intro flight member
    exact absurd member List.not_mem_nil
  · intro e member
    exact absurd member List.not_mem_nil
  · intro hit member
    exact absurd member List.not_mem_nil

theorem entries_advance [Stack] (noted : sys.Noted) (flight : Flight) :
    ∀ e ∈ (flight.stage.next backend sys.service).2.results.entries,
      IsMadeSince sys.floor (Assoc.get? e.1 (sys.makersAfter flight)) := by
  intro e member
  rcases Stage.mem_results_next member with old | ⟨origin, plan, result, isComputed, key⟩
  · have made := noted.entries e old
    unfold makersAfter
    split
    · rename_i origin plan result isComputed
      by_cases same : plan.key = e.1
      · rw [← same, Assoc.get?_insert_self]
        exact ⟨_, rfl, Nat.lt_or_ge _ _⟩
      · rw [Assoc.get?_insert_of_ne same]
        exact made
    · exact made
  · unfold makersAfter
    rw [isComputed, key]
    dsimp only
    rw [Assoc.get?_insert_self]
    exact ⟨_, rfl, Nat.lt_or_ge _ _⟩

theorem hits_advance (noted : sys.Noted) {flight : Flight} (isFlight : flight ∈ sys.flights) :
    ∀ hit ∈ sys.hitsAfter backend flight, IsMadeSince hit.floor hit.maker? := by
  intro hit member
  unfold hitsAfter at member
  split at member
  · rename_i origin plan isPlanned
    split at member
    · rename_i result found
      rcases List.mem_append.mp member with old | new
      · exact noted.hits hit old
      · obtain ⟨entry, kept, _⟩ := Cache.mem_of_get_eq_some found
        rw [List.mem_singleton.mp new]
        exact (noted.entries _ kept).mono (noted.flights flight isFlight)
    · exact noted.hits hit member
  · exact noted.hits hit member

theorem noted_advance [Stack] (noted : sys.Noted) {index : Nat} {flight : Flight}
    (isFlight : sys.flights[index]? = some flight) : (sys.advance backend index flight).Noted := by
  have member := List.mem_of_getElem? isFlight
  refine ⟨?_, entries_advance noted flight, hits_advance noted member⟩
  intro other among
  rcases List.mem_or_eq_of_mem_set among with old | rfl
  · exact noted.flights other old
  · exact noted.flights flight member

theorem noted_clear (noted : sys.Noted) (version : Nat) (reloads : List Reloading) :
    Noted { sys with
      service := sys.service.clearResults, reloads, floor := max sys.floor version } := by
  refine ⟨?_, ?_, noted.hits⟩
  · intro flight member
    exact Nat.le_trans (noted.flights flight member) (Nat.le_max_left _ _)
  · intro e member
    exact absurd member List.not_mem_nil

theorem noted_act [Stack] (noted : sys.Noted) (action : Action) : (sys.act backend action).Noted := by
  cases action with
  | enter request =>
    refine ⟨?_, noted.entries, noted.hits⟩
    intro flight member
    rcases List.mem_append.mp member with old | new
    · exact noted.flights flight old
    · rw [List.mem_singleton.mp new]
      exact Nat.le_refl _
  | advance index =>
    simp only [act]
    split
    · rename_i flight isFlight
      exact noted_advance noted isFlight
    · exact noted
  | build =>
    simp only [act, Service.build]
    rcases buildRegistry backend sys.service.outside with ⟨fault | registry, outside⟩
    · exact ⟨noted.flights, noted.entries, noted.hits⟩
    · exact ⟨noted.flights, noted.entries, noted.hits⟩
  | swap index =>
    simp only [act]
    split
    · exact ⟨noted.flights, noted.entries, noted.hits⟩
    · exact noted
  | clear index =>
    simp only [act]
    split
    · rename_i version isSwapped
      exact noted_clear noted version _
    · exact noted

theorem noted_run [Stack] (noted : sys.Noted) (actions : List Action) : (sys.run backend actions).Noted := by
  induction actions generalizing sys with
  | nil => exact noted
  | cons action rest ih => exact ih (noted_act noted action)

theorem run_append [Stack] (sys : System τ) (first later : List Action) :
    sys.run backend (first ++ later) = (sys.run backend first).run backend later :=
  List.foldl_append ..

/-! ## Steps that nothing comes between -/

theorem reload_eq [Stack] {s : Service τ} {registry : Registry} {outside : τ}
    (built : buildRegistry backend s.outside = (.ok registry, outside)) :
    s.reload backend = (.ok registry, { s with registry, results := s.results.clear, outside }) := by
  simp only [Service.reload, Service.build, built]
  rfl

/-- The steps of a reload that nothing comes between are `Service.reload`. -/
theorem run_reload [Stack] (sys : System τ) {registry : Registry} {service : Service τ}
    (reloaded : sys.service.reload backend = (.ok registry, service)) {index : Nat}
    (next : sys.reloads.length = index) :
    sys.run backend [.build, .swap index, .clear index] =
      { sys with
        service
        reloads := sys.reloads ++ [.returned]
        version := sys.version + 1
        floor := max sys.floor (sys.version + 1) } := by
  subst next
  unfold Service.reload at reloaded
  rcases built : sys.service.build backend with ⟨fault | again, s⟩
  · rw [built] at reloaded
    cases reloaded
  · rw [built] at reloaded
    cases reloaded
    simp [run, act, built]

/-! ## Freshness -/

/-- In whichever order requests and reloads take their steps: the maker of an answer from the store held
a snapshot at least as new as that of every reload which had returned when the request read its own,
unless the maker stored its result only after a reload with a newer snapshot had returned. -/
theorem answer_is_fresh_unless_stored_late [Stack] (backend : Backend τ) (s : Service τ)
    (actions : List Action) :
    ∀ hit ∈ ((start s).run backend actions).hits, ∃ maker, hit.maker? = some maker ∧
      (maker.IsLate ∨ hit.floor ≤ maker.version) :=
  (noted_run (noted_start s) actions).hits

/-- A table that is empty until a reload asks for its columns. -/
def filledBackend : Backend Bool where
  execute _ _ filled := (.ok (if filled then [[("zoning", .text "R-1")]] else []), filled)
  describe _ _ := (.ok ["zoning"], true)
  complete _ filled := (.error .notText, filled)
  isHealthy filled := (.ok true, filled)
  clock filled := (.int 0, filled)
  watch filled := (.int 0, filled)
  manifestFile _ := some "\x7b\"layers\": \x7b\"parcels\": \x7b\x7d\x7d\x7d"
  present _ := "now"

def emptyService : Service Bool :=
  ⟨Query.parcelsRegistry, ⟨1, .int 60, [], 0, 0⟩, ⟨1, .int 60, [], 0, 0⟩, true, false⟩

def allParcels : Request := .structured (Query.ofLayer "parcels").wire

theorem receive_allParcels {s : Service τ} {plan : Plan}
    (planned : Plan.ofQuery s.registry (Query.ofLayer "parcels") = .ok plan) :
    Stage.receive s allParcels = .planned (.structured .direct) plan := by
  have direct : Query.payload (Query.ofLayer "parcels").wire =
      ((Query.ofLayer "parcels").wire, .direct) := rfl
  have read : Query.ofJson (Query.ofLayer "parcels").wire = .ok (Query.ofLayer "parcels") := rfl
  simp only [Stage.receive, allParcels, direct, read, Stage.ofQuery, planned]

section

open Stack.Usual

/-- What a registry makes of the query for all parcels, and of a row. -/
def planOutline (registry : Registry) :
    Option (Query × Number × Option Sql.Written × Option StoredResult) :=
  (Plan.ofQuery registry (Query.ofLayer "parcels")).toOption.map fun plan =>
    (plan.limited.query, plan.tolerance, plan.statement.toOption,
      (plan.result [[("zoning", .text "R-1")]] (.int 0)).toOption)

theorem planOutline_rebuilt :
    (buildRegistry filledBackend false).1.toOption.bind planOutline =
      planOutline Query.parcelsRegistry := by
  decide +kernel

theorem filled_rebuilt : (buildRegistry filledBackend false).2 = true := by
  decide +kernel

/-- Before and after a reload the query has plans that look their results up under one key. -/
structure Replanned (old new : Plan) (registry : Registry) (statement : Sql.Written)
    (result : StoredResult) : Prop where
  built : buildRegistry filledBackend false = (.ok registry, true)
  planned : Plan.ofQuery Query.parcelsRegistry (Query.ofLayer "parcels") = .ok old
  compiled : old.statement = .ok statement
  computed : old.result [] (.int 0) = .ok ⟨"", 0, .int 0⟩
  plannedAgain : Plan.ofQuery registry (Query.ofLayer "parcels") = .ok new
  compiledAgain : new.statement = .ok statement
  computedAgain : new.result [[("zoning", .text "R-1")]] (.int 0) = .ok result
  sameKey : new.key = old.key

theorem exists_replanned : ∃ old new registry statement result,
    Replanned old new registry statement result := by
  obtain ⟨old, statement, result, planned, compiled, written, computed⟩ :
      ∃ old statement result, Plan.ofQuery Query.parcelsRegistry (Query.ofLayer "parcels") = .ok old ∧
        old.statement = .ok statement ∧
        old.result [[("zoning", .text "R-1")]] (.int 0) = .ok result ∧
        old.result [] (.int 0) = .ok ⟨"", 0, .int 0⟩ := ⟨_, _, _, rfl, rfl, rfl, rfl⟩
  have outline : planOutline Query.parcelsRegistry =
      some (old.limited.query, old.tolerance, some statement, some result) := by
    simp only [planOutline, planned, Except.toOption, Option.map_some, compiled, written]
  have outlines := planOutline_rebuilt
  have filled := filled_rebuilt
  rw [outline] at outlines
  rcases built : buildRegistry filledBackend false with ⟨fault | registry, outside⟩
  · rw [built] at outlines
    cases outlines
  · rw [built] at outlines filled
    obtain rfl : outside = true := filled
    obtain ⟨new, plannedAgain, same⟩ := Option.map_eq_some_iff.mp outlines
    simp only [Prod.mk.injEq] at same
    obtain ⟨sameQuery, sameTolerance, compiledAgain, computedAgain⟩ := same
    have sameKey : new.key = old.key := by
      unfold Plan.key
      rw [sameQuery, sameTolerance]
    exact ⟨old, new, registry, statement, result, built, planned, compiled,
      computed, eq_ok_of_toOption plannedAgain, eq_ok_of_toOption compiledAgain,
      eq_ok_of_toOption computedAgain, sameKey⟩

theorem run_reload_filled {sys : System Bool} {registry : Registry} {old new : Plan}
    {statement : Sql.Written} {result : StoredResult}
    (replanned : Replanned old new registry statement result)
    (outside : sys.service.outside = false) (none : sys.reloads = []) :
    sys.run filledBackend [.build, .swap 0, .clear 0] =
      { sys with
        service := { sys.service with registry, results := sys.service.results.clear, outside := true }
        reloads := [.returned]
        version := sys.version + 1
        floor := max sys.floor (sys.version + 1) } := by
  have reloaded : sys.service.reload filledBackend = (.ok registry,
      { sys.service with registry, results := sys.service.results.clear, outside := true }) := by
    refine reload_eq ?_
    rw [outside]
    exact replanned.built
  have next : sys.reloads.length = 0 := congrArg List.length none
  rw [run_reload sys reloaded next, none]
  rfl

/-- A reload comes and goes; the first request after it stores its result, and the second one is answered
with that. -/
theorem answer_is_fresh_unless_stored_late_sample :
    ∃ hit ∈ ((start emptyService).run filledBackend
        ([.build, .swap 0, .clear 0] ++
          [.enter allParcels, .advance 0, .advance 0, .advance 0, .enter allParcels, .advance 1])).hits,
      hit.floor = 1 ∧
        ∃ maker, hit.maker? = some maker ∧ (maker.IsLate ∨ hit.floor ≤ maker.version) := by
  obtain ⟨old, new, registry, statement, result, replanned⟩ := exists_replanned
  have receives : ∀ s : Service Bool, s.registry = registry →
      Stage.receive s allParcels = .planned (.structured .direct) new := by
    rintro s rfl
    exact receive_allParcels replanned.plannedAgain
  have current : Number.lt (.int 60) (.int 0) = false := by decide
  have member : (⟨1, some ⟨1, 1⟩⟩ : Hit) ∈ ((start emptyService).run filledBackend
      ([.build, .swap 0, .clear 0] ++
        [.enter allParcels, .advance 0, .advance 0, .advance 0, .enter allParcels, .advance 1])).hits := by
    rw [run_append, run_reload_filled replanned rfl rfl]
    simp [start, run, act, receives, advance, makersAfter, hitsAfter, Stage.next, Service.find,
      Service.clock, Cache.get, Assoc.get?, replanned.compiledAgain, Stage.execute, emptyService,
      filledBackend, Service.watch, Service.execute, Stage.millisecondsBetween, Number.sub, Number.mul,
      replanned.computedAgain, Service.store, Cache.set, Cache.retained, Assoc.insert,
      Cache.Entry.isExpired, current, Cache.clear]
  exact ⟨_, member, rfl, answer_is_fresh_unless_stored_late filledBackend emptyService _ _ member⟩

/-- The first request finds nothing and runs its statement; a reload comes and goes; then the first
request stores its result, and a second one, which reads the new snapshot, is answered with it. -/
theorem late_result_is_answered :
    ∃ hit ∈ ((start emptyService).run filledBackend
        ([.enter allParcels, .advance 0, .advance 0] ++ [.build, .swap 0, .clear 0] ++
          [.advance 0, .enter allParcels, .advance 1])).hits,
      ∃ maker, hit.maker? = some maker ∧ maker.version < hit.floor := by
  obtain ⟨old, new, registry, statement, result, replanned⟩ := exists_replanned
  have receives : Stage.receive emptyService allParcels = .planned (.structured .direct) old :=
    receive_allParcels replanned.planned
  have receivesAgain : ∀ s : Service Bool, s.registry = registry →
      Stage.receive s allParcels = .planned (.structured .direct) new := by
    rintro s rfl
    exact receive_allParcels replanned.plannedAgain
  have executed : (start emptyService).run filledBackend [.enter allParcels, .advance 0, .advance 0] =
      ⟨{ emptyService with results := { emptyService.results with misses := 1 } },
        [⟨.computed (.structured .direct) old ⟨"", 0, .int 0⟩, 0, 0⟩], [], 0, 0, [], []⟩ := by
    have began : start emptyService = ⟨emptyService, [], [], 0, 0, [], []⟩ := rfl
    rw [began]
    simp only [run, List.foldl_cons, List.foldl_nil, act, receives]
    simp [advance, makersAfter, hitsAfter, Stage.next, Service.find, Service.clock, Cache.get,
      Assoc.get?, replanned.compiled, Stage.execute, emptyService, filledBackend, Service.watch,
      Service.execute, Stage.millisecondsBetween, Number.sub, Number.mul, replanned.computed]
  have current : Number.lt (.int 60) (.int 0) = false := by decide
  rw [run_append, run_append, executed, run_reload_filled replanned rfl rfl]
  refine ⟨⟨1, some ⟨0, 1⟩⟩, ?_, ⟨0, 1⟩, rfl, Nat.zero_lt_one⟩
  simp [run, act, advance, makersAfter, hitsAfter, Stage.next, Service.find, Service.clock, Cache.get,
    Assoc.get?, Service.store, receivesAgain, filledBackend, Cache.set, Cache.retained,
    replanned.sameKey, Assoc.insert, emptyService, Cache.Entry.isExpired, Number.sub, current,
    Cache.clear]

end

end System

end SpatialQuery.Service
