import Mathlib.Data.List.Pairwise

/-!
# Listings

What is said about the places of something, all of it and in the order of the places.  A place is ranked by
the numbers of the parts that lead to it, the outermost part first.  Ranks ascend strictly, so of each place
one thing is said at most.
-/

set_option autoImplicit false

namespace SpatialQuery

variable {P α β : Type} {rank : P → List Nat}

/-- Everything that is told, with its place, in the order of the places. -/
structure IsListing (rank : P → List Nat) (tells : P → α → Prop) (found : List (P × α)) : Prop where
  complete (p : P) (a : α) : (p, a) ∈ found ↔ tells p a
  sorted : found.Pairwise fun x y => rank x.1 < rank y.1

def Lists (rank : P → List Nat) (tells : P → α → Prop) (listed : List α) : Prop :=
  ∃ found, IsListing rank tells found ∧ listed = found.map Prod.snd

namespace Lists

variable {tells tells' : P → α → Prop} {listed later : List α}

theorem eq_nil_iff (lists : Lists rank tells listed) : listed = [] ↔ ∀ p a, ¬ tells p a := by
  obtain ⟨found, listing, rfl⟩ := lists
  rw [List.map_eq_nil_iff, List.eq_nil_iff_forall_not_mem, Prod.forall]
  exact forall_congr' fun p => forall_congr' fun a => not_congr (listing.complete p a)

theorem congr (lists : Lists rank tells listed) (same : ∀ p a, tells p a ↔ tells' p a) :
    Lists rank tells' listed := by
  obtain ⟨found, listing, rfl⟩ := lists
  exact ⟨found, ⟨fun p a => (listing.complete p a).trans (same p a), listing.sorted⟩, rfl⟩

theorem nothing (silent : ∀ p a, ¬ tells p a) : Lists rank tells [] :=
  ⟨[], ⟨fun p a => by simpa using silent p a, .nil⟩, rfl⟩

theorem optional (place : P) (said : Option α) :
    Lists rank (fun p a => p = place ∧ said = some a) said.toList := by
  cases said with
  | none => exact nothing (by simp)
  | some a =>
    refine ⟨[(place, a)], ⟨fun p b => ?_, List.pairwise_singleton ..⟩, rfl⟩
    simp [eq_comm]

theorem whenever (place : P) (a : α) {condition : Prop} (said : condition → listed = [a])
    (silent : ¬ condition → listed = []) :
    Lists rank (fun p b => p = place ∧ condition ∧ b = a) listed := by
  by_cases holds : condition
  · rw [said holds]
    exact (optional place (some a)).congr fun p b => by simp [holds, eq_comm]
  · rw [silent holds]
    exact nothing fun p b told => holds told.2.1

theorem ofOption {given : Option β} {tells : β → P → α → Prop} {part : β → List α}
    (each : ∀ x, given = some x → Lists rank (tells x) (part x)) :
    Lists rank (fun p a => ∃ x, given = some x ∧ tells x p a) (given.elim [] part) := by
  cases given with
  | none => exact nothing nofun
  | some x => exact (each x rfl).congr fun p a => by simp

theorem append (first : Lists rank tells listed) (second : Lists rank tells' later)
    (order : ∀ p a q b, tells p a → tells' q b → rank p < rank q) :
    Lists rank (fun p a => tells p a ∨ tells' p a) (listed ++ later) := by
  obtain ⟨found, listing, rfl⟩ := first
  obtain ⟨others, listing', rfl⟩ := second
  refine ⟨found ++ others, ⟨fun p a => ?_, ?_⟩, List.map_append.symm⟩
  · rw [List.mem_append, listing.complete, listing'.complete]
  · refine List.pairwise_append.mpr ⟨listing.sorted, listing'.sorted, fun x inFirst y inSecond => ?_⟩
    exact order _ _ _ _ ((listing.complete _ _).mp inFirst) ((listing'.complete _ _).mp inSecond)

/-- What is said at a stage comes after all that is said before. -/
theorem next {stage : P → Nat} {k : Nat} (first : Lists rank (fun p a => stage p < k ∧ tells p a) listed)
    (staged : ∀ p q, stage p < stage q → rank p < rank q)
    (second : Lists rank (fun p a => stage p = k ∧ tells p a) later) :
    Lists rank (fun p a => stage p < k + 1 ∧ tells p a) (listed ++ later) := by
  refine (first.append second ?_).congr fun p a => ?_
  · rintro p a q b ⟨before, _⟩ ⟨rfl, _⟩
    exact staged p q before
  · rw [← or_and_right, Nat.lt_succ_iff_lt_or_eq]

section

variable (tells : Nat → β → P → α → Prop) {parts : Nat → β → List α}
  (order : ∀ i j x y p a q b, i < j → tells i x p a → tells j y q b → rank p < rank q)

include order

theorem indexedFrom (items : List β) (k : Nat)
    (each : ∀ i x, items[i]? = some x → Lists rank (tells (k + i) x) (parts (k + i) x)) :
    Lists rank (fun p a => ∃ i x, items[i]? = some x ∧ tells (k + i) x p a)
      ((items.zipIdx k).flatMap fun entry => parts entry.2 entry.1) := by
  induction items generalizing k with
  | nil => exact nothing (by simp)
  | cons x items ih =>
    have first := each 0 x rfl
    have others := ih (k + 1) fun i y found => by
      have later := each (i + 1) y found
      rwa [← Nat.add_assoc, Nat.add_right_comm] at later
    rw [List.zipIdx_cons, List.flatMap_cons]
    refine (first.append others ?_).congr fun p a => ?_
    · rintro p a q b told ⟨i, y, _, toldLater⟩
      exact order k (k + 1 + i) x y p a q b (by omega) told toldLater
    · constructor
      · rintro (told | ⟨i, y, found, told⟩)
        · exact ⟨0, x, rfl, told⟩
        · exact ⟨i + 1, y, found, by rwa [← Nat.add_assoc, Nat.add_right_comm]⟩
      · rintro ⟨_ | i, y, found, told⟩
        · cases found
          exact .inl told
        · exact .inr ⟨i, y, found, by rwa [Nat.add_right_comm, Nat.add_assoc]⟩

theorem indexed (items : List β)
    (each : ∀ i x, items[i]? = some x → Lists rank (tells i x) (parts i x)) :
    Lists rank (fun p a => ∃ i x, items[i]? = some x ∧ tells i x p a)
      (items.zipIdx.flatMap fun entry => parts entry.2 entry.1) := by
  have shifted : ∀ i x, items[i]? = some x → Lists rank (tells (0 + i) x) (parts (0 + i) x) := by
    simpa only [Nat.zero_add] using each
  simpa only [Nat.zero_add] using indexedFrom tells order items 0 shifted

end

end Lists

theorem flatMap_zipIdx (part : α → List β) (items : List α) :
    (items.zipIdx.flatMap fun entry => part entry.1) = items.flatMap part := by
  have firsts : (items.zipIdx.map Prod.fst).flatMap part = items.flatMap part := by
    rw [List.zipIdx_map_fst]
  rw [← firsts, List.flatMap_map]

end SpatialQuery
