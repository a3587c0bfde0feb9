import Mathlib.Data.List.Forall2
import SpatialQuery.Checked

/-!
# What a success says

A computation that can fail and did not fail took each of its steps without failing.
-/

set_option autoImplicit false

namespace SpatialQuery

section Except

variable {ε α β : Type}

theorem bind_ok_iff (first : Except ε α) (next : α → Except ε β) (result : β) :
    (first >>= next) = .ok result ↔ ∃ a, first = .ok a ∧ next a = .ok result := by
  cases first with
  | error e => simp [bind, Except.bind]
  | ok a => simp [bind, Except.bind]

theorem pure_ok_iff (a result : α) : (pure a : Except ε α) = .ok result ↔ result = a := by
  simp only [pure, Except.pure, Except.ok.injEq]
  exact eq_comm

theorem bind_known_iff {step : Except ε α} {Known : Prop} {value : α}
    (spec : ∀ a, step = .ok a ↔ Known ∧ a = value) (next : α → Except ε β) (result : β) :
    (step >>= next) = .ok result ↔ Known ∧ next value = .ok result := by
  simp only [bind_ok_iff, spec]
  constructor
  · rintro ⟨a, ⟨known, rfl⟩, success⟩
    exact ⟨known, success⟩
  · rintro ⟨known, success⟩
    exact ⟨value, ⟨known, rfl⟩, success⟩

theorem mapM_known_iff {step : α → Except ε β} {Known : α → Prop} {value : α → β}
    (spec : ∀ a b, step a = .ok b ↔ Known a ∧ b = value a) (items : List α) (results : List β) :
    items.mapM step = .ok results ↔ (∀ a ∈ items, Known a) ∧ results = items.map value := by
  induction items generalizing results with
  | nil => simp [pure_ok_iff]
  | cons a rest ih =>
    rw [List.mapM_cons, bind_known_iff (spec a), bind_known_iff ih, pure_ok_iff,
      List.forall_mem_cons, List.map_cons, and_assoc]

theorem map_eq_ok_iff {f : α → β} {a : Except ε α} {b : β} :
    a.map f = .ok b ↔ ∃ x, a = .ok x ∧ f x = b := by
  cases a <;> simp [Except.map]

theorem mapError_eq_ok_iff {ε' : Type} {f : ε → ε'} {a : Except ε α} {x : α} :
    a.mapError f = .ok x ↔ a = .ok x := by
  cases a <;> simp [Except.mapError]

theorem eq_ok_of_toOption {a : Except ε α} {x : α} (isSome : a.toOption = some x) : a = .ok x := by
  cases a with
  | error e => cases isSome
  | ok y => cases isSome; rfl

theorem forall₂_of_mapM {f : α → Except ε β} {items : List α} {results : List β}
    (run : items.mapM f = .ok results) : List.Forall₂ (fun a b => f a = .ok b) items results := by
  induction items generalizing results with
  | nil =>
    cases run
    exact .nil
  | cons a rest ih =>
    rw [List.mapM_cons] at run
    obtain ⟨b, first, more⟩ := (bind_ok_iff ..).mp run
    obtain ⟨others, later, last⟩ := (bind_ok_iff ..).mp more
    cases last
    exact .cons first (ih later)

theorem exists_mapM {f : α → Except ε β} {items : List α}
    (each : ∀ a ∈ items, ∃ b, f a = .ok b) : ∃ results, items.mapM f = .ok results := by
  induction items with
  | nil => exact ⟨[], rfl⟩
  | cons a rest ih =>
    obtain ⟨⟨b, first⟩, others⟩ := List.forall_mem_cons.mp each
    obtain ⟨results, later⟩ := ih others
    rw [List.mapM_cons]
    exact ⟨b :: results, (bind_ok_iff ..).mpr ⟨b, first, (bind_ok_iff ..).mpr ⟨results, later, rfl⟩⟩⟩

theorem exists_of_mapM {f : α → Except ε β} {items : List α} {results : List β}
    (run : items.mapM f = .ok results) : ∀ a ∈ items, ∃ b, f a = .ok b := by
  have each := forall₂_of_mapM run
  clear run
  induction each with
  | nil => exact fun a member => absurd member List.not_mem_nil
  | cons here _ ih => exact List.forall_mem_cons.mpr ⟨⟨_, here⟩, ih⟩

theorem exists_of_mapM_error {f : α → Except ε β} {items : List α} {e : ε}
    (failed : items.mapM f = .error e) : ∃ a ∈ items, f a = .error e := by
  induction items with
  | nil => cases failed
  | cons a rest ih =>
    rw [List.mapM_cons] at failed
    cases first : f a with
    | error other =>
      rw [first] at failed
      cases failed
      exact ⟨a, List.mem_cons_self, first⟩
    | ok b =>
      rw [first] at failed
      cases others : rest.mapM f with
      | error other =>
        rw [others] at failed
        cases failed
        obtain ⟨c, member, fails⟩ := ih others
        exact ⟨c, List.mem_cons_of_mem _ member, fails⟩
      | ok results =>
        rw [others] at failed
        cases failed

theorem throw_ne_ok (e : ε) (result : α) : (throw e : Except ε α) ≠ .ok result := by
  intro contrary
  cases contrary

end Except

section Steps

variable {ε σ α β : Type}

theorem run_bind_ok_iff {first : ExceptT ε (StateM σ) α} {next : α → ExceptT ε (StateM σ) β}
    {before after : σ} {result : β} :
    (first >>= next).run before = (.ok result, after) ↔
      ∃ a middle, first.run before = (.ok a, middle) ∧ (next a).run middle = (.ok result, after) := by
  have step : (first >>= next).run before =
      match first.run before with
      | (.ok a, middle) => (next a).run middle
      | (.error e, middle) => (.error e, middle) := by
    change (ExceptT.bindCont next (first.run before).1) (first.run before).2 = _
    rcases first.run before with ⟨e | a, middle⟩ <;> rfl
  rw [step]
  rcases first.run before with ⟨e | a, middle⟩
  · constructor
    · intro contrary
      cases contrary
    · rintro ⟨a, _, contrary, _⟩
      cases contrary
  · constructor
    · exact fun success => ⟨a, middle, rfl, success⟩
    · rintro ⟨_, _, same, success⟩
      cases same
      exact success

theorem run_pure_ok_iff {a result : α} {before after : σ} :
    (pure a : ExceptT ε (StateM σ) α).run before = (.ok result, after) ↔
      a = result ∧ before = after := by
  change ((Except.ok a : Except ε α), before) = (.ok result, after) ↔ _
  simp

def outcome? (step : ExceptT ε (StateM Unit) (Except α β)) : Option β :=
  (step.run ()).1.toOption.bind Except.toOption

theorem run_of_outcome {step : ExceptT ε (StateM Unit) (Except α β)} {check : β → Bool}
    (passes : (outcome? step).any check = true) :
    ∃ b, step.run () = (.ok (.ok b), ()) ∧ check b = true := by
  revert passes
  unfold outcome?
  rcases step.run () with ⟨e | a | b, after⟩ <;> intro passes
  · cases passes
  · cases passes
  · exact ⟨b, rfl, passes⟩

end Steps

namespace Checked

variable {α β γ : Type}

theorem map_ok_iff {f : α → β} {a : Checked α} {b : β} :
    Checked.map f a = .ok b ↔ ∃ x, a = .ok x ∧ f x = b := by
  cases a <;> simp [Checked.map]

theorem ap_ok_iff {f : Checked (α → β)} {a : Checked α} {b : β} :
    Checked.ap f a = .ok b ↔ ∃ g x, f = .ok g ∧ a = .ok x ∧ g x = b := by
  cases f <;> cases a <;> simp [Checked.ap]

theorem ensure_ok_iff {a : Checked α} {fault? : α → Option Text} {b : α} :
    Checked.ensure a fault? = .ok b ↔ a = .ok b ∧ fault? b = none := by
  cases a with
  | error found => simp [Checked.ensure]
  | ok a =>
    cases fault : fault? a with
    | none =>
      simp only [Checked.ensure, fault, Except.ok.injEq]
      exact ⟨fun same => ⟨same, same ▸ fault⟩, And.left⟩
    | some message =>
      simp only [Checked.ensure, fault, Checked.refuse, reduceCtorEq, Except.ok.injEq, false_iff]
      rintro ⟨rfl, none⟩
      rw [fault] at none
      cases none

theorem under_ok_iff {step : Text} {a : Checked α} {b : α} :
    Checked.under step a = .ok b ↔ a = .ok b := by
  cases a <;> simp [Checked.under]

theorem checked_of_mem_allFrom {item : γ → Checked α} {index : Nat} {items : List γ}
    {results : List α} (checked : Checked.allFrom item index items = .ok results) :
    ∀ a ∈ results, ∃ c, item c = .ok a := by
  induction items generalizing index results with
  | nil =>
    cases checked
    simp
  | cons c rest ih =>
    obtain ⟨prepend, others, first, checkedRest, rfl⟩ := ap_ok_iff.mp checked
    obtain ⟨a, checkedFirst, rfl⟩ := map_ok_iff.mp first
    exact List.forall_mem_cons.mpr ⟨⟨c, under_ok_iff.mp checkedFirst⟩, ih checkedRest⟩

end Checked

end SpatialQuery
