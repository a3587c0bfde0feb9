import SpatialQuery.Proofs.Assoc
import SpatialQuery.Proofs.Json.Every

/-!
# How deep values are nested

A list is one deeper than its deepest item.  Replacing numbers by null changes no depth.
-/

set_option autoImplicit false

namespace SpatialQuery.Json

variable {n : Nat}

theorem itemDepth_le_iff {items : List Json} : itemDepth items ≤ n ↔ ∀ j ∈ items, j.depth ≤ n := by
  induction items with
  | nil => simp [itemDepth]
  | cons j rest ih => rw [itemDepth, Nat.max_le, ih, List.forall_mem_cons]

theorem memberDepth_le_iff {members : List (Text × Json)} :
    memberDepth members ≤ n ↔ ∀ m ∈ members, m.2.depth ≤ n := by
  induction members with
  | nil => simp [memberDepth]
  | cons m rest ih => rw [memberDepth, Nat.max_le, ih, List.forall_mem_cons]

theorem depth_arr_le {items : List Json} (within : ∀ j ∈ items, j.depth ≤ n) :
    (arr items).depth ≤ n + 1 := by
  rw [depth]
  exact Nat.succ_le_succ (itemDepth_le_iff.mpr within)

theorem depth_obj_le {members : List (Text × Json)} (within : ∀ m ∈ members, m.2.depth ≤ n) :
    (obj members).depth ≤ n + 1 := by
  rw [depth]
  exact Nat.succ_le_succ (memberDepth_le_iff.mpr within)

theorem forall_present {p : Json → Prop} {members : List (Text × Option Json)}
    (holds : ∀ m ∈ members, ∀ j ∈ m.2, p j) :
    ∀ m ∈ members.filterMap fun m => m.2.map (m.1, ·), p m.2 := by
  intro m member
  obtain ⟨given, inMembers, present⟩ := List.mem_filterMap.mp member
  obtain ⟨j, value, rfl⟩ := Option.map_eq_some_iff.mp present
  exact holds given inMembers j value

theorem depth_present_le {members : List (Text × Option Json)}
    (within : ∀ m ∈ members, ∀ j ∈ m.2, j.depth ≤ n) : (present members).depth ≤ n + 1 :=
  depth_obj_le (forall_present within)

theorem forall_some {p : Json → Prop} {j : Json} (holds : p j) : ∀ k ∈ some j, p k := by
  rintro _ ⟨⟩
  exact holds

theorem forall_map {α : Type} {p : Json → Prop} {f : α → Json} (given : Option α)
    (holds : ∀ a, p (f a)) : ∀ k ∈ given.map f, p k := by
  intro k member
  obtain ⟨a, _, rfl⟩ := Option.map_eq_some_iff.mp member
  exact holds a

theorem depth_texts_le (ts : List Text) : (texts ts).depth ≤ 1 := by
  refine depth_arr_le fun j member => ?_
  obtain ⟨t, _, rfl⟩ := List.mem_map.mp member
  exact Nat.le_of_eq rfl

mutual

theorem depth_finiteOrNull : ∀ j : Json, (finiteOrNull j).depth = j.depth
  | .null | .bool _ | .str _ => by rw [finiteOrNull]; all_goals nofun
  | .num n => by
    rw [finiteOrNull]
    split <;> rfl
  | .arr items => by rw [finiteOrNull, depth, depth, itemDepth_finiteOrNull items]
  | .obj members => by rw [finiteOrNull, depth, depth, memberDepth_finiteOrNull members]

theorem itemDepth_finiteOrNull : ∀ items : List Json,
    itemDepth (allFiniteOrNull items) = itemDepth items
  | [] => rfl
  | j :: rest => by
    rw [allFiniteOrNull, itemDepth, itemDepth, depth_finiteOrNull j, itemDepth_finiteOrNull rest]

theorem memberDepth_finiteOrNull : ∀ members : List (Text × Json),
    memberDepth (membersFiniteOrNull members) = memberDepth members
  | [] => rfl
  | (_, j) :: rest => by
    rw [membersFiniteOrNull, memberDepth, memberDepth, depth_finiteOrNull j,
      memberDepth_finiteOrNull rest]

end

theorem forall_foldl_insert {p : Json → Prop} {extra facts : List (Text × Json)}
    (already : ∀ m ∈ facts, p m.2) (added : ∀ m ∈ extra, p m.2) :
    ∀ m ∈ extra.foldl (fun facts m => Assoc.insert m.1 m.2 facts) facts, p m.2 := by
  induction extra generalizing facts with
  | nil => exact already
  | cons first rest ih =>
    obtain ⟨here, later⟩ := List.forall_mem_cons.mp added
    refine ih (fun m member => ?_) later
    rcases Assoc.mem_insert member with rfl | before
    · exact here
    · exact already m before

end SpatialQuery.Json
