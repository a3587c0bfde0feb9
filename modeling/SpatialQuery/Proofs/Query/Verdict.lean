import SpatialQuery.Proofs.Query.Language

/-!
# The verdict on a query

Each rule passes what its form holds of, and tells of anything else every fault once, in the order of the
form.  Parts that are checked one after the other pass together, and their faults come in that order,
since the first step of each tells the part.
-/

set_option autoImplicit false

namespace SpatialQuery

namespace Checked

variable {α β : Type}

def violations : Checked α → List Violation
  | .ok _ => []
  | .error found => found

@[simp] theorem violations_map (f : α → β) (c : Checked α) : (Checked.map f c).violations = c.violations := by
  cases c <;> rfl

@[simp] theorem violations_under (step : Text) (c : Checked α) :
    (c.under step).violations = c.violations.map (Violation.under step) := by
  cases c <;> rfl

@[simp] theorem violations_ap (f : Checked (α → β)) (c : Checked α) :
    (Checked.ap f c).violations = f.violations ++ c.violations := by
  cases f <;> cases c <;> simp [Checked.ap, violations]

end Checked

/-- The check passes what holds, and tells each fault of what does not hold, in order. -/
structure Verdict {α : Type} (c : Checked α) (holds : Prop) (faults : Violation → Prop)
    (before : List Text → List Text → Prop) : Prop where
  passed : (∃ a, c = .ok a) ↔ holds
  told (v : Violation) : v ∈ c.violations ↔ faults v
  sorted : c.violations.Pairwise fun v w => before v.path w.path
  /-- No refusal is without a reason. -/
  silent : c.violations = [] → ∃ a, c = .ok a

namespace Verdict

variable {α β : Type} {holds holds' : Prop} {faults faults' : Violation → Prop}
  {before before' : List Text → List Text → Prop}

theorem pass {a : α} (good : holds) (faultless : ∀ v, ¬ faults v) :
    Verdict (.ok a : Checked α) holds faults before where
  passed := ⟨fun _ => good, fun _ => ⟨a, rfl⟩⟩
  told v := by simpa [Checked.violations] using faultless v
  sorted := .nil
  silent _ := ⟨a, rfl⟩

theorem fail {found : List Violation} (bad : ¬ holds) (told : ∀ v, v ∈ found ↔ faults v)
    (sorted : found.Pairwise fun v w => before v.path w.path) (some : found ≠ []) :
    Verdict (.error found : Checked α) holds faults before where
  passed := by simpa using bad
  told := told
  sorted := sorted
  silent none := absurd none some

theorem refuse {message : Text} (bad : ¬ holds) (fault : ∀ v, faults v ↔ v = ⟨[], message⟩) :
    Verdict (Checked.refuse message : Checked α) holds faults before := by
  refine fail bad (fun v => ?_) (List.pairwise_singleton ..) (by simp)
  rw [List.mem_singleton, fault]

theorem congr {c : Checked α} (verdict : Verdict c holds faults before) (same : holds ↔ holds')
    (sameFaults : ∀ v, faults v ↔ faults' v) (order : ∀ p q, before p q → before' p q) :
    Verdict c holds' faults' before' where
  passed := verdict.passed.trans same
  told v := (verdict.told v).trans (sameFaults v)
  sorted := verdict.sorted.imp fun first => order _ _ first
  silent := verdict.silent

theorem map {c : Checked α} (verdict : Verdict c holds faults before) (f : α → β) :
    Verdict (Checked.map f c) holds faults before where
  passed := by
    rw [← verdict.passed]
    cases c <;> simp [Checked.map]
  told v := by
    rw [Checked.violations_map, verdict.told]
  sorted := by
    rw [Checked.violations_map]
    exact verdict.sorted
  silent none := by
    rw [Checked.violations_map] at none
    obtain ⟨a, rfl⟩ := verdict.silent none
    exact ⟨f a, rfl⟩

theorem under {c : Checked α} (verdict : Verdict c holds faults before) (step : Text)
    (order : ∀ p q, before p q → before' (step :: p) (step :: q)) :
    Verdict (c.under step) holds (fun v => ∃ w, faults w ∧ v = w.under step) before' where
  passed := by
    rw [← verdict.passed]
    simp only [Checked.under_ok_iff]
  told v := by
    simp only [Checked.violations_under, List.mem_map, verdict.told, eq_comm]
  sorted := by
    rw [Checked.violations_under, List.pairwise_map]
    exact verdict.sorted.imp fun first => order _ _ first
  silent none := by
    rw [Checked.violations_under, List.map_eq_nil_iff] at none
    obtain ⟨a, rfl⟩ := verdict.silent none
    exact ⟨a, rfl⟩

theorem ap {f : Checked (α → β)} {c : Checked α} (first : Verdict f holds faults before)
    (second : Verdict c holds' faults' before)
    (order : ∀ v w, faults v → faults' w → before v.path w.path) :
    Verdict (Checked.ap f c) (holds ∧ holds') (fun v => faults v ∨ faults' v) before where
  passed := by
    rw [← first.passed, ← second.passed]
    cases f <;> cases c <;> simp [Checked.ap]
  told v := by
    rw [Checked.violations_ap, List.mem_append, first.told, second.told]
  sorted := by
    rw [Checked.violations_ap, List.pairwise_append]
    refine ⟨first.sorted, second.sorted, fun v inFirst w inSecond => ?_⟩
    exact order v w ((first.told v).mp inFirst) ((second.told w).mp inSecond)
  silent none := by
    rw [Checked.violations_ap, List.append_eq_nil_iff] at none
    obtain ⟨g, rfl⟩ := first.silent none.1
    obtain ⟨a, rfl⟩ := second.silent none.2
    exact ⟨g a, rfl⟩

theorem faultless {c : Checked α} (verdict : Verdict c holds faults before) (good : holds)
    (v : Violation) : ¬ faults v := by
  obtain ⟨a, rfl⟩ := verdict.passed.mpr good
  rw [← verdict.told]
  exact List.not_mem_nil

theorem bad {found : List Violation} (verdict : Verdict (.error found : Checked α) holds faults before) :
    ¬ holds := by
  rw [← verdict.passed]
  simp

theorem error {found : List Violation} (verdict : Verdict (.error found : Checked α) holds faults before) :
    Verdict (.error found : Checked β) holds faults before := by
  refine .fail verdict.bad verdict.told verdict.sorted fun none => ?_
  obtain ⟨_, contrary⟩ := verdict.silent none
  cases contrary

theorem ensure {c : Checked α} {fault? : α → Option Text} {clash : Text → Prop}
    (verdict : Verdict c holds faults before)
    (tied : ∀ a, c = .ok a → ∀ m, fault? a = some m ↔ clash m) :
    Verdict (c.ensure fault?) (holds ∧ ∀ m, ¬ clash m)
      (fun v => faults v ∨ holds ∧ v.path = [] ∧ clash v.message) before := by
  cases c with
  | error found =>
    have bad := verdict.bad
    refine verdict.congr ?_ (fun v => ?_) fun _ _ => id
    · exact ⟨fun good => absurd good bad, And.left⟩
    · exact ⟨Or.inl, fun fault => fault.resolve_right fun other => bad other.1⟩
  | ok a =>
    have good : holds := verdict.passed.mp ⟨a, rfl⟩
    have faultless := verdict.faultless good
    simp only [Checked.ensure]
    cases fault : fault? a with
    | none =>
      have fits : ∀ m, ¬ clash m := by
        intro m
        rw [← tied a rfl, fault]
        exact (Option.some_ne_none m).symm
      refine .pass ⟨good, fits⟩ fun v => ?_
      rintro (other | ⟨_, _, contrary⟩)
      · exact faultless v other
      · exact fits _ contrary
    | some m =>
      have only (n : Text) : clash n ↔ n = m := by
        rw [← tied a rfl, fault, Option.some.injEq, eq_comm]
      refine .refuse (fun both => both.2 m ((only m).mpr rfl)) fun v => ?_
      obtain ⟨path, message⟩ := v
      rw [or_iff_right (faultless _), and_iff_right good, only, Violation.mk.injEq]

end Verdict

namespace Form

/-! ## Faults in order -/

theorem InOrder.mono {branches more : List Branch} (part : branches.Sublist more) {p q : List Text}
    (order : InOrder branches p q) : InOrder more p q := by
  cases order with
  | apart earlier first second => exact .apart (earlier.trans part) first second
  | within member step inner => exact .within (part.subset member) step inner

def Behind (branches : List Branch) (v : Violation) : Prop :=
  ∃ b ∈ branches, ∃ step ∈ b.steps, ∃ rest, v.path = step :: rest

theorem Behind.mono {branches more : List Branch} (part : branches ⊆ more) {v : Violation}
    (behind : Behind branches v) : Behind more v := by
  obtain ⟨b, member, lies⟩ := behind
  exact ⟨b, part member, lies⟩

theorem InOrder.of_behind {branches : List Branch} {last : Branch} {v w : Violation}
    (first : Behind branches v) (second : Behind [last] w) :
    InOrder (branches ++ [last]) v.path w.path := by
  obtain ⟨b, member, step, isStep, rest, path⟩ := first
  obtain ⟨_, isLast, step', isStep', rest', path'⟩ := second
  cases List.mem_singleton.mp isLast
  rw [path, path']
  refine .apart ?_ isStep isStep'
  exact (List.singleton_sublist.mpr member).append (List.Sublist.refl [last])

theorem verdict_ap {α β : Type} {f : Checked (α → β)} {c : Checked α} {holds holds' : Prop}
    {faults faults' : Violation → Prop} {branches : List Branch} {last : Branch}
    (first : Verdict f holds faults (InOrder branches)) (behind : ∀ v, faults v → Behind branches v)
    (second : Verdict c holds' faults' (InOrder [last])) (behind' : ∀ v, faults' v → Behind [last] v) :
    Verdict (Checked.ap f c) (holds ∧ holds') (fun v => faults v ∨ faults' v)
      (InOrder (branches ++ [last])) := by
  have earlier := first.congr Iff.rfl (fun _ => Iff.rfl) fun _ _ =>
    InOrder.mono (List.sublist_append_left branches [last])
  have later := second.congr Iff.rfl (fun _ => Iff.rfl) fun _ _ =>
    InOrder.mono (List.sublist_append_right branches [last])
  exact earlier.ap later fun v w fault fault' =>
    InOrder.of_behind (behind v fault) (behind' w fault')

/-! ## Fields -/

namespace Field

variable {f : Field} {members : List (Text × Json)}

theorem isFound_iff {step : Text} {j : Json} :
    f.IsFound members step j ↔ Shape.member? members f.key f.spelling = some (step, j) := by
  unfold IsFound Shape.member?
  cases Json.member? members f.key with
  | some k => simp [eq_comm]
  | none =>
    cases Json.member? members f.spelling with
    | some k => simp [eq_comm]
    | none => simp

theorem isAbsent_iff : f.IsAbsent members ↔ Shape.member? members f.key f.spelling = none := by
  unfold IsAbsent Shape.member?
  cases Json.member? members f.key with
  | some k => simp
  | none => simp

theorem mem_steps_of_found {step : Text} {j : Json} (found : f.IsFound members step j) :
    step ∈ f.branch.steps := by
  rcases found with ⟨rfl, _⟩ | ⟨_, rfl, _⟩
  · exact List.mem_cons_self
  · exact List.mem_cons_of_mem _ List.mem_cons_self

theorem behind_of_faults {v : Violation} (fault : f.faults members v) : Behind [f.branch] v := by
  rcases fault with ⟨_, _, rfl⟩ | ⟨step, j, w, found, _, _, rfl⟩
  · exact ⟨f.branch, List.mem_singleton_self _, f.key, List.mem_cons_self, [], rfl⟩
  · exact ⟨f.branch, List.mem_singleton_self _, step, mem_steps_of_found found, w.path, rfl⟩

theorem holds_of_found {step : Text} {j : Json} (found : f.IsFound members step j) :
    f.holds members ↔ f.form.holds j ∨ f.required = false ∧ j = .null := by
  rw [isFound_iff] at found
  simp only [holds, isAbsent_iff, isFound_iff, found]
  constructor
  · rintro ⟨_, good⟩
    exact good step j rfl
  · rintro good
    refine ⟨fun _ none => Option.some_ne_none _ none, ?_⟩
    rintro _ _ ⟨rfl, rfl⟩
    exact good

theorem faults_of_found {step : Text} {j : Json} (found : f.IsFound members step j) (v : Violation) :
    f.faults members v ↔
      ¬ (f.required = false ∧ j = .null) ∧ ∃ w, f.form.faults j w ∧ v = w.under step := by
  rw [isFound_iff] at found
  simp only [faults, isAbsent_iff, isFound_iff, found]
  constructor
  · rintro (⟨_, none, _⟩ | ⟨_, _, w, ⟨rfl, rfl⟩, counts, fault, rfl⟩)
    · exact absurd none (Option.some_ne_none _)
    · exact ⟨counts, w, fault, rfl⟩
  · rintro ⟨counts, w, fault, rfl⟩
    exact .inr ⟨step, j, w, rfl, counts, fault, rfl⟩

theorem not_isFound (absent : f.IsAbsent members) {step : Text} {j : Json} :
    ¬ f.IsFound members step j := by
  rw [isFound_iff, isAbsent_iff.mp absent]
  exact (Option.some_ne_none _).symm

end Field

abbrev Reads {α : Type} (members : List (Text × Json)) (fields : List Field) (c : Checked α) : Prop :=
  Verdict c (∀ f ∈ fields, f.holds members) (fun v => ∃ f ∈ fields, f.faults members v)
    (InOrder (fields.map Field.branch))

abbrev Judges {α : Type} (rule : Shape.Rule α) (form : Form) : Prop :=
  ∀ j, Verdict (rule j) (form.holds j) (form.faults j) form.before

section Records

variable {α β : Type} {members : List (Text × Json)}

theorem reads_of_found {f : Field} {step : Text} {j : Json} (found : f.IsFound members step j)
    (counts : ¬ (f.required = false ∧ j = .null)) {c : Checked α}
    (verdict : Verdict c (f.form.holds j) (f.form.faults j) f.form.before) :
    Reads members [f] (c.under step) := by
  have order : ∀ p q, f.form.before p q → InOrder [f.branch] (step :: p) (step :: q) :=
    fun p q => .within (List.mem_singleton_self f.branch) (Field.mem_steps_of_found found)
  refine (verdict.under step order).congr ?_ ?_ fun _ _ => id
  · rw [List.forall_mem_singleton, Field.holds_of_found found, or_iff_left counts]
  · intro v
    simp only [List.mem_singleton, exists_eq_left, Field.faults_of_found found, counts,
      not_false_eq_true, true_and]

theorem required_reads {rule : Shape.Rule α} {form : Form} (judges : Judges rule form)
    (key spelling : Text) :
    Reads members [⟨key, spelling, true, form⟩] (Shape.required members key spelling rule) := by
  unfold Shape.required
  cases looked : Shape.member? members key spelling with
  | some entry =>
    obtain ⟨step, j⟩ := entry
    exact reads_of_found (Field.isFound_iff.mpr looked) (by simp) (judges j)
  | none =>
    have absent : (Field.mk key spelling true form).IsAbsent members := Field.isAbsent_iff.mpr looked
    refine Verdict.fail ?_ (fun v => ?_) (List.pairwise_singleton ..) (by simp)
    · rw [List.forall_mem_singleton]
      exact fun good => good.1 rfl absent
    · simp only [List.mem_singleton, exists_eq_left, Field.faults, absent, Field.not_isFound absent,
        true_and, false_and, exists_false, or_false, List.map_cons, List.map_nil]

theorem optional_reads {rule : Shape.Rule α} {form : Form} (judges : Judges rule form)
    (key spelling : Text) :
    Reads members [⟨key, spelling, false, form⟩] (Shape.optional members key spelling rule) := by
  unfold Shape.optional
  cases looked : Shape.member? members key spelling with
  | none =>
    have absent : (Field.mk key spelling false form).IsAbsent members := Field.isAbsent_iff.mpr looked
    refine Verdict.pass ?_ fun v => ?_
    · rw [List.forall_mem_singleton]
      exact ⟨fun contrary => Bool.noConfusion contrary, fun _ _ found => (Field.not_isFound absent found).elim⟩
    · simp [Field.faults, Field.not_isFound absent]
  | some entry =>
    obtain ⟨step, j⟩ := entry
    have found : (Field.mk key spelling false form).IsFound members step j := Field.isFound_iff.mpr looked
    by_cases void : j = .null
    · subst void
      refine Verdict.pass ?_ fun v => ?_
      · rw [List.forall_mem_singleton, Field.holds_of_found found]
        exact .inr ⟨rfl, rfl⟩
      · simp [Field.faults_of_found found]
    · have counted : Reads members [⟨key, spelling, false, form⟩] ((rule j).under step) :=
        reads_of_found found (fun blank => void blank.2) (judges j)
      -- the rule is asked in the same way for every value but null
      cases j with
      | null => exact absurd rfl void
      | _ => exact counted.map some

theorem behind_of_reads {fields : List Field} (v : Violation)
    (fault : ∃ f ∈ fields, f.faults members v) : Behind (fields.map Field.branch) v := by
  obtain ⟨f, member, fault⟩ := fault
  apply (Field.behind_of_faults fault).mono
  simpa using ⟨f, member, rfl⟩

theorem Reads.map {fields : List Field} {c : Checked α} (reads : Reads members fields c) (f : α → β) :
    Reads members fields (Checked.map f c) :=
  Verdict.map reads f

theorem Reads.ap {fields : List Field} {field : Field} {f : Checked (α → β)} {c : Checked α}
    (first : Reads members fields f) (last : Reads members [field] c) :
    Reads members (fields ++ [field]) (Checked.ap f c) := by
  refine (verdict_ap first behind_of_reads last behind_of_reads).congr ?_ (fun v => ?_) fun p q => ?_
  · rw [List.forall_mem_append]
  · simp only [List.mem_append, or_and_right, exists_or]
  · rw [List.map_append]
    exact id

theorem record_judges {kind : Text} {part : List (Text × Json) → Checked α} {fields : List Field}
    {clash : List (Text × Json) → Text → Prop} {fault? : α → Option Text}
    (reads : ∀ members, Reads members fields (part members))
    (tied : ∀ members a, part members = .ok a → ∀ m, fault? a = some m ↔ clash members m) :
    Judges (Shape.record kind fun members => (part members).ensure fault?) (record kind fields clash) := by
  intro j
  cases j with
  | obj members =>
    refine ((reads members).ensure (tied members)).congr ?_ (fun v => ?_) fun _ _ => id
    · simp [record]
    · simp [record]
  | _ => exact .refuse (by simp [record]) fun v => by simp [record]

theorem record_judges_noClash {kind : Text} {part : List (Text × Json) → Checked α}
    {fields : List Field} (reads : ∀ members, Reads members fields (part members)) :
    Judges (Shape.record kind part) (record kind fields noClash) := by
  have same : (fun members => (part members).ensure fun _ => none) = part := by
    funext members
    cases part members <;> rfl
  rw [← same]
  exact record_judges reads fun _ _ _ _ => by simp [noClash]

end Records

/-! ## Lists -/

section Lists

variable {α : Type} {rule : Shape.Rule α} {form : Form}

theorem allFrom_verdict (judges : Judges rule form) (items : List Json) (index : Nat) :
    Verdict (Checked.allFrom rule index items) (∀ c ∈ items, form.holds c)
      (fun v => ∃ k c w, items[k]? = some c ∧ form.faults c w ∧ v = w.under (indexStep (index + k)))
      (ByIndex form.before) := by
  induction items generalizing index with
  | nil => exact .pass (by simp) (by simp)
  | cons c rest ih =>
    have head := ((judges c).under (indexStep index) fun _ _ => ByIndex.within).map List.cons
    have order : ∀ v w, (∃ u, form.faults c u ∧ v = u.under (indexStep index)) →
        (∃ k d u, rest[k]? = some d ∧ form.faults d u ∧ w = u.under (indexStep (index + 1 + k))) →
        ByIndex form.before v.path w.path := by
      rintro _ _ ⟨u, _, rfl⟩ ⟨k, d, u', _, _, rfl⟩
      exact .apart (by omega)
    refine (head.ap (ih (index + 1)) order).congr ?_ (fun v => ?_) fun _ _ => id
    · rw [List.forall_mem_cons]
    · constructor
      · rintro (⟨u, fault, rfl⟩ | ⟨k, d, u, found, fault, rfl⟩)
        · exact ⟨0, c, u, rfl, fault, rfl⟩
        · exact ⟨k + 1, d, u, found, fault, by rw [Nat.add_right_comm, Nat.add_assoc]⟩
      · rintro ⟨k, d, u, found, fault, rfl⟩
        cases k with
        | zero =>
          cases found
          exact .inl ⟨u, fault, rfl⟩
        | succ k => exact .inr ⟨k, d, u, found, fault, by rw [Nat.add_right_comm, Nat.add_assoc]⟩

theorem list_judges (judges : Judges rule form) : Judges (Shape.list rule) (list form) := by
  intro j
  cases j with
  | arr items =>
    refine (allFrom_verdict judges items 0).congr ?_ (fun v => ?_) fun _ _ => id
    · simp [list]
    · simp [list]
  | _ => exact .refuse (by simp [list]) fun v => by simp [list]

theorem nonEmptyList_judges (judges : Judges rule form) :
    Judges (Shape.nonEmptyList rule) (nonEmptyList form) := by
  intro j
  have listed := list_judges judges j
  by_cases void : j = .arr []
  · subst void
    refine .refuse (by simp [nonEmptyList]) fun v => ?_
    simp [nonEmptyList, list]
  · have same : Shape.nonEmptyList rule j = Shape.list rule j := by
      unfold Shape.nonEmptyList
      split
      · exact absurd rfl void
      · rfl
    rw [same]
    refine listed.congr ?_ (fun v => ?_) fun _ _ => id
    · simp [nonEmptyList, void]
    · simp [nonEmptyList, void]

end Lists

/-! ## Unions -/

section Unions

variable {α β : Type} {j : Json} {kinds : List (Text × Form)} {found more : List Violation}

abbrev Tried (j : Json) (kinds : List (Text × Form)) (found : List Violation) : Prop :=
  Verdict (.error found : Checked Empty) (∃ kind ∈ kinds, kind.2.holds j)
    (fun v => ∃ kind ∈ kinds, ∃ w, kind.2.faults j w ∧ v = w.under kind.1)
    (InOrder (kinds.map fun kind => ⟨[kind.1], kind.2.before⟩))

theorem tried_one {form : Form} (label : Text)
    (verdict : Verdict (.error found : Checked α) (form.holds j) (form.faults j) form.before) :
    Tried j [(label, form)] (found.map (Violation.under label)) := by
  have step := verdict.under label fun _ _ => InOrder.within (List.mem_singleton_self
    (⟨[label], form.before⟩ : Branch)) (List.mem_singleton_self label)
  refine step.error.congr ?_ (fun v => ?_) fun _ _ => id
  · simp
  · simp

theorem Tried.next {form : Form} {label : Text} (first : Tried j kinds found)
    (last : Tried j [(label, form)] more) : Tried j (kinds ++ [(label, form)]) (found ++ more) := by
  have behind (others : List (Text × Form)) (v : Violation)
      (fault : ∃ kind ∈ others, ∃ w, kind.2.faults j w ∧ v = w.under kind.1) :
      Behind (others.map fun kind => ⟨[kind.1], kind.2.before⟩) v := by
    obtain ⟨kind, member, w, _, rfl⟩ := fault
    exact ⟨_, List.mem_map_of_mem member, kind.1, List.mem_singleton_self _, w.path, rfl⟩
  have bad : ¬ ∃ kind ∈ kinds ++ [(label, form)], kind.2.holds j := by
    simp only [List.mem_append, or_and_right, exists_or, not_or]
    exact ⟨first.bad, last.bad⟩
  have both : Verdict (.error (found ++ more) : Checked Empty) _ _ _ :=
    verdict_ap (first.error) (behind kinds) last (behind [(label, form)])
  refine both.congr ?_ (fun v => ?_) fun p q => ?_
  · exact ⟨fun contrary => absurd contrary.1 first.bad, fun contrary => absurd contrary bad⟩
  · simp only [List.mem_append, or_and_right, exists_or]
  · rw [List.map_append]
    exact id

theorem union_refused (tried : Tried j kinds found) :
    Verdict (.error found : Checked α) ((union kinds).holds j) ((union kinds).faults j)
      (union kinds).before := by
  have none := tried.bad
  refine tried.error.congr Iff.rfl (fun v => ?_) fun _ _ => id
  simp only [union]
  rw [and_iff_right]
  exact fun kind member good => none ⟨kind, member, good⟩

theorem union_passed {kind : Text × Form} (member : kind ∈ kinds) (good : kind.2.holds j) (a : α) :
    Verdict (.ok a : Checked α) ((union kinds).holds j) ((union kinds).faults j)
      (union kinds).before :=
  .pass ⟨kind, member, good⟩ fun _ fault => fault.1 kind member good

end Unions

end Form

end SpatialQuery
