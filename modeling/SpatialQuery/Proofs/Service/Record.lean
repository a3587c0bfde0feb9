import SpatialQuery.Service.Stage

/-!
# A record of what is asked outside

Beside the outside of a service stands a record of the statements that were run and of the prompts that were
completed.  A step does with it what it does without it, and which calls a step makes can be told from the
stage alone.
-/

set_option autoImplicit false

namespace SpatialQuery

inductive Call where
  | execute (text : Text) (values : List Json)
  | complete (prompt : Text)

def Call.statement? : Call → Option (Text × List Json)
  | .execute text values => some (text, values)
  | .complete _ => none

variable {τ : Type}

def noting {α : Type} (calls : List Call) (step : τ → α × τ) (outside : τ × List Call) :
    α × τ × List Call :=
  ((step outside.1).1, (step outside.1).2, outside.2 ++ calls)

/-- The same outside with a record of the statements and prompts that it is given. -/
def Backend.recorded (backend : Backend τ) : Backend (τ × List Call) where
  execute text values := noting [.execute text values] (backend.execute text values)
  describe table := noting [] (backend.describe table)
  complete prompt := noting [.complete prompt] (backend.complete prompt)
  isHealthy := noting [] backend.isHealthy
  clock := noting [] backend.clock
  watch := noting [] backend.watch
  manifestFile outside := backend.manifestFile outside.1
  present outside := backend.present outside.1

namespace Service

def recording (s : Service τ) (record : List Call) : Service (τ × List Call) :=
  { s with outside := (s.outside, record) }

def unrecorded (s : Service (τ × List Call)) : Service τ := { s with outside := s.outside.1 }

def Stage.calls : Stage → List Call
  | .asking registry message _ _ => [.complete (Chat.prompt registry message)]
  | .executing _ _ statement =>
    [.execute statement.text (statement.values.map FilterValue.wire)]
  | _ => []

section

variable (backend : Backend τ) (s : Service τ) (record : List Call)

theorem watch_recorded : (s.recording record).watch backend.recorded =
    ((s.watch backend).1, (s.watch backend).2.recording record) := by
  simp only [watch, recording, Backend.recorded, noting, List.append_nil]

theorem remembered_recorded (key : Text) :
    (s.recording record).remembered backend.recorded key =
      ((s.remembered backend key).1, (s.remembered backend key).2.recording record) := by
  simp only [remembered, clock, recording, Backend.recorded, noting, List.append_nil]

theorem remember_recorded (key : Text) (intent : Chat.Intent) :
    (s.recording record).remember backend.recorded key intent =
      (s.remember backend key intent).recording record := by
  simp only [remember, clock, recording, Backend.recorded, noting, List.append_nil]

theorem find_recorded (key : Text) :
    (s.recording record).find backend.recorded key =
      ((s.find backend key).1, (s.find backend key).2.recording record) := by
  simp only [find, clock, recording, Backend.recorded, noting, List.append_nil]

theorem store_recorded (key : Text) (result : StoredResult) :
    (s.recording record).store backend.recorded key result =
      (s.store backend key result).recording record := by
  simp only [store, clock, recording, Backend.recorded, noting, List.append_nil]

theorem execute_recorded (text : Text) (values : List Json) :
    (s.recording record).execute backend.recorded text values =
      ((s.execute backend text values).1,
        (s.execute backend text values).2.recording (record ++ [.execute text values])) := rfl

theorem complete_recorded (prompt : Text) :
    (s.recording record).complete backend.recorded prompt =
      ((s.complete backend prompt).1,
        (s.complete backend prompt).2.recording (record ++ [.complete prompt])) := rfl

theorem receive_recorded (request : Request) :
    Stage.receive (s.recording record) request = Stage.receive s request := by
  cases request with
  | structured body => rfl
  | chat message => rfl

/-- With a record a step does what it does without one, and the record grows by its calls. -/
theorem next_recorded [Stack] (stage : Stage) :
    stage.next backend.recorded (s.recording record) =
      ((stage.next backend s).1, (stage.next backend s).2.recording (record ++ stage.calls)) := by
  cases stage with
  | received request =>
    simp only [Stage.next, Stage.calls, receive_recorded, List.append_nil]
  | screened registry message key assessment =>
    simp only [Stage.next, Stage.calls, remembered_recorded, List.append_nil]
    rcases s.remembered backend key with ⟨_ | intent, after⟩
    · rfl
    · rfl
  | asking registry message key assessment =>
    simp only [Stage.next, Stage.calls, Stage.ask, watch_recorded, complete_recorded]
    rcases (s.watch backend).2.complete backend (Chat.prompt registry message) with
      ⟨e | reply, after⟩
    · rfl
    · dsimp only
      cases Chat.intentOfReply reply registry with
      | error fault => rfl
      | ok intent => rfl
  | understood registry key assessment intent milliseconds =>
    simp only [Stage.next, Stage.calls, remember_recorded, List.append_nil]
  | planned origin plan =>
    simp only [Stage.next, Stage.calls, find_recorded, List.append_nil]
    rcases s.find backend plan.key with ⟨_ | result, after⟩
    · dsimp only
      cases plan.statement with
      | error failure => rfl
      | ok statement => rfl
    · rfl
  | executing origin plan statement =>
    simp only [Stage.next, Stage.calls, Stage.execute, watch_recorded, execute_recorded]
    rcases (s.watch backend).2.execute backend statement.text
      (statement.values.map FilterValue.wire) with ⟨e | rows, after⟩
    · rfl
    · dsimp only
      cases plan.result rows (Stage.millisecondsBetween _ _) with
      | error failure => rfl
      | ok result => rfl
  | computed origin plan result =>
    simp only [Stage.next, Stage.calls, store_recorded, List.append_nil]
  | finished outcome => simp only [Stage.next, Stage.calls, List.append_nil]

end

end Service

end SpatialQuery
