import SpatialQuery.Proofs.Cache
import SpatialQuery.Service.Stage

/-!
# What one step changes

Asking the model and running a statement leave the service as it is but for the outside, and only a
computed result is put into the store of results.  A planned query takes one step more if its result is
found, and three if it has to be computed.
-/

set_option autoImplicit false

namespace SpatialQuery.Service.Stage

variable [Stack] {τ : Type} {backend : Backend τ}

theorem ask_elsewhere (backend : Backend τ) (registry : Registry) (message key : Text)
    (assessment : Chat.Assessment) (s : Service τ) :
    ∃ outside, (ask backend registry message key assessment s).2 = { s with outside } := by
  simp only [ask]
  split
  · exact ⟨_, rfl⟩
  · split
    · exact ⟨_, rfl⟩
    · exact ⟨_, rfl⟩

theorem execute_elsewhere (backend : Backend τ) (origin : Origin) (plan : Plan)
    (statement : Sql.Written) (s : Service τ) :
    ∃ outside, (execute backend origin plan statement s).2 = { s with outside } := by
  simp only [execute]
  split
  · exact ⟨_, rfl⟩
  · split
    · exact ⟨_, rfl⟩
    · exact ⟨_, rfl⟩

theorem ask_stage (backend : Backend τ) (registry : Registry) (message key : Text)
    (assessment : Chat.Assessment) (s : Service τ) :
    (∃ failure, (ask backend registry message key assessment s).1 = failed failure) ∨
      ∃ reply intent milliseconds, Chat.intentOfReply reply registry = .ok intent ∧
        (ask backend registry message key assessment s).1 =
          .understood registry key assessment intent milliseconds := by
  simp only [ask]
  split
  · exact Or.inl ⟨_, rfl⟩
  · rename_i reply said
    split
    · exact Or.inl ⟨_, rfl⟩
    · rename_i intent read
      exact Or.inr ⟨reply, intent, _, read, rfl⟩

theorem execute_stage (backend : Backend τ) (origin : Origin) (plan : Plan)
    (statement : Sql.Written) (s : Service τ) :
    (∃ failure, (execute backend origin plan statement s).1 = failed failure) ∨
      ∃ result, (execute backend origin plan statement s).1 = .computed origin plan result := by
  simp only [execute]
  split
  · exact Or.inl ⟨_, rfl⟩
  · split
    · exact Or.inr ⟨_, rfl⟩
    · exact Or.inl ⟨_, rfl⟩

theorem next_screened_service (backend : Backend τ) (registry : Registry) (message key : Text)
    (assessment : Chat.Assessment) (s : Service τ) :
    (next backend (.screened registry message key assessment) s).2 = (s.remembered backend key).2 := by
  simp only [next]
  rcases s.remembered backend key with ⟨_ | intent, s'⟩
  · rfl
  · rfl

theorem next_planned_service (backend : Backend τ) (origin : Origin) (plan : Plan) (s : Service τ) :
    (next backend (.planned origin plan) s).2 = (s.find backend plan.key).2 := by
  simp only [next]
  rcases s.find backend plan.key with ⟨_ | result, s'⟩
  · dsimp only
    split
    · rfl
    · rfl
  · rfl

theorem mem_results_next {stage : Stage} {s : Service τ}
    {e : Text × Cache.Entry StoredResult}
    (member : e ∈ (next backend stage s).2.results.entries) :
    e ∈ s.results.entries ∨
      ∃ origin plan result, stage = .computed origin plan result ∧ e.1 = plan.key := by
  cases stage with
  | received request => exact Or.inl member
  | screened registry message key assessment =>
    rw [next_screened_service] at member
    exact Or.inl member
  | asking registry message key assessment =>
    obtain ⟨outside, elsewhere⟩ := ask_elsewhere backend registry message key assessment s
    simp only [next, elsewhere] at member
    exact Or.inl member
  | understood registry key assessment intent milliseconds => exact Or.inl member
  | planned origin plan =>
    rw [next_planned_service] at member
    exact Or.inl (Cache.entries_get_subset member)
  | executing origin plan statement =>
    obtain ⟨outside, elsewhere⟩ := execute_elsewhere backend origin plan statement s
    simp only [next, elsewhere] at member
    exact Or.inl member
  | computed origin plan result =>
    rcases Cache.mem_entries_set member with old | rfl
    · exact Or.inl old
    · exact Or.inr ⟨origin, plan, result, rfl, rfl⟩
  | finished outcome => exact Or.inl member

/-! ## Runs -/

theorem run_finished (outcome : Except Failure Text) (s : Service τ) :
    (finished outcome).run backend s = (outcome, s) := by
  rw [Stage.run]
  rfl

theorem run_step {stage : Stage} (unfinished : stage.outcome? = none) (s : Service τ) :
    stage.run backend s = (next backend stage s).1.run backend (next backend stage s).2 := by
  rw [Stage.run]
  split
  · rename_i outcome finished
    rw [unfinished] at finished
    cases finished
  · rfl

theorem run_planned_of_found (origin : Origin) {plan : Plan} {result : StoredResult}
    {s after : Service τ} (found : s.find backend plan.key = (some result, after)) :
    (planned origin plan).run backend s = (plan.answer origin true result, after) := by
  rw [run_step rfl]
  simp only [next, found]
  exact run_finished _ _

theorem run_planned_of_missed {origin : Origin} {plan : Plan} {statement : Sql.Written}
    {result : StoredResult} {s missed executed : Service τ}
    (isMissed : s.find backend plan.key = (none, missed)) (compiled : plan.statement = .ok statement)
    (computed : execute backend origin plan statement missed = (.computed origin plan result, executed)) :
    (planned origin plan).run backend s =
      (plan.answer origin false result, executed.store backend plan.key result) := by
  rw [run_step rfl]
  simp only [next, isMissed, compiled]
  rw [run_step rfl]
  simp only [next, computed]
  rw [run_step rfl]
  exact run_finished _ _

end SpatialQuery.Service.Stage
