import SpatialQuery.Json.Printer
import SpatialQuery.Proofs.Assoc

/-!
# Members in another order

The members of an object may be moved, as long as each key has one member; whoever looks a member up by
its key finds the same value.  Sorting is such a move, and so is doing nothing.
-/

set_option autoImplicit false

namespace SpatialQuery

namespace Json

/-- A change of a value that moves members at most. -/
structure Rearranges (f : Json → Json) : Prop where
  bool : ∀ b, f (.bool b) = .bool b
  num : ∀ n, f (.num n) = .num n
  str : ∀ t, f (.str t) = .str t
  arr : ∀ items, f (.arr items) = .arr (items.map f)
  obj : ∀ members, (members.map (·.1)).Nodup → ∃ moved, f (.obj members) = .obj moved ∧
    ∀ key, member? moved key = (member? members key).map f

theorem rearranges_id : Rearranges id where
  bool _ := rfl
  num _ := rfl
  str _ := rfl
  arr items := by simp
  obj members _ := ⟨members, rfl, by simp⟩

theorem allSorted_eq_map (items : List Json) : allSorted items = items.map sorted := by
  induction items with
  | nil => rfl
  | cons j rest ih => rw [allSorted, ih, List.map_cons]

theorem membersSorted_eq_map (members : List (Text × Json)) :
    membersSorted members = members.map fun m => (m.1, sorted m.2) := by
  induction members with
  | nil => rfl
  | cons m rest ih => rw [membersSorted, ih, List.map_cons]

theorem rearranges_sorted : Rearranges sorted where
  bool b := by simp [sorted]
  num n := by simp [sorted]
  str t := by simp [sorted]
  arr items := by rw [sorted, allSorted_eq_map]
  obj members distinct := by
    refine ⟨_, by rw [sorted], fun key => ?_⟩
    have kept : ((membersSorted members).map (·.1)).Nodup := by
      simpa [membersSorted_eq_map, Function.comp_def] using distinct
    rw [member?, Assoc.get?_perm (List.mergeSort_perm _ _).symm kept, membersSorted_eq_map,
      Assoc.get?_map, member?]

namespace Rearranges

variable {f : Json → Json}

theorem present (moves : Rearranges f) (members : List (Text × Option Json))
    (distinct : (members.map (·.1)).Nodup) : ∃ moved, f (.present members) = .obj moved ∧
      ∀ key, member? moved key = ((Assoc.get? key members).bind id).map f := by
  have kept : ((members.filterMap fun m => m.2.map (m.1, ·)).map (·.1)).Nodup := by
    refine distinct.sublist ?_
    clear distinct
    induction members with
    | nil => exact List.Sublist.slnil
    | cons m rest ih =>
      obtain ⟨key, _ | value⟩ := m
      · exact ih.cons key
      · exact ih.cons_cons key
  obtain ⟨moved, written, found⟩ := moves.obj _ kept
  refine ⟨moved, written, fun key => ?_⟩
  rw [found, member?, Assoc.get?_filterMap distinct]

end Rearranges

end Json

end SpatialQuery
