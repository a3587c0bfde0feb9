import SpatialQuery.Proofs.Cache.Recency
import SpatialQuery.Proofs.Service.Courses
import SpatialQuery.Proofs.Service.Entrances

/-!
# What is done to the stores

Each step of a request does at most one thing to one of the two stores.  Put one after the other these
accesses are the history of the stores: through any traffic, what the stores hold is what their histories
leave in empty ones.
-/

set_option autoImplicit false

namespace SpatialQuery.Service

variable {τ : Type}

inductive Access where
  | parses (op : Cache.Op Chat.Intent)
  | results (op : Cache.Op StoredResult)

namespace Access

def onParses? : Access → Option (Cache.Op Chat.Intent)
  | .parses op => some op
  | .results _ => none

def onResults? : Access → Option (Cache.Op StoredResult)
  | .parses _ => none
  | .results op => some op

end Access

/-- The stores went from one service to the other by the accesses. -/
structure Leads (before : Service τ) (accesses : List Access) (after : Service τ) : Prop where
  parses : after.parses = before.parses.run (accesses.filterMap Access.onParses?)
  results : after.results = before.results.run (accesses.filterMap Access.onResults?)

namespace Leads

variable {before between after : Service τ} {accesses more : List Access}

theorem none (sameParses : after.parses = before.parses) (sameResults : after.results = before.results) :
    Leads before [] after :=
  ⟨sameParses, sameResults⟩

theorem trans (first : Leads before accesses between) (second : Leads between more after) :
    Leads before (accesses ++ more) after := by
  constructor
  · rw [List.filterMap_append, Cache.run_append, ← first.parses]
    exact second.parses
  · rw [List.filterMap_append, Cache.run_append, ← first.results]
    exact second.results

end Leads

/-! ## The steps of a request -/

namespace Stage

def access? (backend : Backend τ) (s : Service τ) : Stage → Option Access
  | .screened _ _ key _ => some (.parses (.get key (s.clock backend).1))
  | .understood _ key _ intent _ => some (.parses (.set key intent (s.clock backend).1))
  | .planned _ plan => some (.results (.get plan.key (s.clock backend).1))
  | .computed _ plan result => some (.results (.set plan.key result (s.clock backend).1))
  | _ => none

/-- What all steps that are left do to the stores, with no other step between. -/
def accesses [Stack] (backend : Backend τ) (stage : Stage) (s : Service τ) : List Access :=
  match _unfinished : stage.outcome? with
  | some _ => []
  | none =>
    (stage.access? backend s).toList ++
      accesses backend (next backend stage s).1 (next backend stage s).2
termination_by stage.remaining
decreasing_by exact remaining_next backend stage s (remaining_pos _unfinished)

theorem accesses_finished [Stack] (backend : Backend τ) (outcome : Except Failure Text) (s : Service τ) :
    (finished outcome).accesses backend s = [] := by
  rw [accesses]
  rfl

theorem accesses_step [Stack] {backend : Backend τ} {stage : Stage} (unfinished : stage.outcome? = none)
    (s : Service τ) : stage.accesses backend s = (stage.access? backend s).toList ++
      (next backend stage s).1.accesses backend (next backend stage s).2 := by
  rw [accesses]
  split
  · rename_i outcome finished
    rw [unfinished] at finished
    cases finished
  · rfl

theorem leads_next [Stack] (backend : Backend τ) (stage : Stage) (s : Service τ) :
    Leads s (stage.access? backend s).toList (next backend stage s).2 := by
  -- One case for each stage: two of them read a store, two write to one, and the others leave both
  -- alone.
  cases stage with
  | received request => exact .none rfl rfl
  | screened registry message key assessment =>
    rw [next_screened_service]
    exact ⟨rfl, rfl⟩
  | asking registry message key assessment =>
    obtain ⟨outside, elsewhere⟩ := ask_elsewhere backend registry message key assessment s
    simp only [next, elsewhere]
    exact .none rfl rfl
  | understood registry key assessment intent milliseconds => exact ⟨rfl, rfl⟩
  | planned origin plan =>
    rw [next_planned_service]
    exact ⟨rfl, rfl⟩
  | executing origin plan statement =>
    obtain ⟨outside, elsewhere⟩ := execute_elsewhere backend origin plan statement s
    simp only [next, elsewhere]
    exact .none rfl rfl
  | computed origin plan result => exact ⟨rfl, rfl⟩
  | finished outcome => exact .none rfl rfl

theorem leads_run [Stack] (backend : Backend τ) (stage : Stage) (s : Service τ) :
    Leads s (stage.accesses backend s) (stage.run backend s).2 := by
  fun_induction run backend stage s with
  | case1 stage s outcome finished =>
    have none : stage.accesses backend s = [] := by
      cases stage <;> cases finished
      exact accesses_finished backend _ s
    rw [none]
    exact .none rfl rfl
  | case2 stage s unfinished taken ih =>
    rw [accesses_step unfinished]
    exact (leads_next backend stage s).trans ih

end Stage

/-! ## Traffic -/

namespace Traffic

def access? (backend : Backend τ) (traffic : Traffic τ) : Move τ → Option Access
  | .advance index =>
    (traffic.courses[index]?).bind fun course => course.stage.access? backend traffic.service
  | .clear => some (.results .clear)
  | _ => none

def accesses [Stack] (backend : Backend τ) (traffic : Traffic τ) : List (Move τ) → List Access
  | [] => []
  | move :: rest =>
    (traffic.access? backend move).toList ++ accesses backend (traffic.act backend move) rest

theorem leads_act [Stack] (backend : Backend τ) (traffic : Traffic τ) (move : Move τ) :
    Leads traffic.service (traffic.access? backend move).toList (traffic.act backend move).service := by
  cases move with
  | enter request => exact .none rfl rfl
  | advance index =>
    simp only [act, access?]
    cases traffic.courses[index]? with
    | none => exact .none rfl rfl
    | some course =>
      dsimp only [Option.bind_some]
      rw [advance_eq]
      exact Stage.leads_next backend course.stage traffic.service
  | swap registry => exact .none rfl rfl
  | clear => exact ⟨rfl, rfl⟩
  | drift outside => exact .none rfl rfl

theorem leads_run [Stack] (backend : Backend τ) (traffic : Traffic τ) (moves : List (Move τ)) :
    Leads traffic.service (traffic.accesses backend moves) (traffic.run backend moves).service := by
  induction moves generalizing traffic with
  | nil => exact .none rfl rfl
  | cons move rest ih => exact (leads_act backend traffic move).trans (ih (traffic.act backend move))

end Traffic

end SpatialQuery.Service
