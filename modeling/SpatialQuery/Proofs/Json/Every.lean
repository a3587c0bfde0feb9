import SpatialQuery.Json.Printer

/-!
# Every number and every text of a value

A property of numbers and a property of texts, keys among them, for all that stands anywhere in a value.
Moving members does not change what stands in it.
-/

set_option autoImplicit false

namespace SpatialQuery.Json

section

variable (number : Number → Prop) (text : Text → Prop)

mutual

/-- Every number and every text in the value, keys among them, has its property. -/
def Every : Json → Prop
  | .num n => number n
  | .str t => text t
  | .arr items => EveryItem items
  | .obj members => EveryMember members
  | _ => True

def EveryItem : List Json → Prop
  | [] => True
  | j :: rest => Every j ∧ EveryItem rest

def EveryMember : List (Text × Json) → Prop
  | [] => True
  | (key, j) :: rest => text key ∧ Every j ∧ EveryMember rest

end

end

section

variable {number : Number → Prop} {text : Text → Prop}

theorem everyItem_iff {items : List Json} :
    EveryItem number text items ↔ ∀ j ∈ items, Every number text j := by
  induction items with
  | nil => simp [EveryItem]
  | cons j rest ih => simp [EveryItem, ih]

theorem everyMember_iff {members : List (Text × Json)} :
    EveryMember number text members ↔ ∀ m ∈ members, text m.1 ∧ Every number text m.2 := by
  induction members with
  | nil => simp [EveryMember]
  | cons m rest ih => simp [EveryMember, ih, and_assoc]

theorem every_arr_map {α : Type} {items : List α} {write : α → Json}
    (each : ∀ a ∈ items, Every number text (write a)) :
    Every number text (arr (items.map write)) := by
  rw [Every, everyItem_iff]
  exact List.forall_mem_map.mpr each

theorem every_present {members : List (Text × Option Json)}
    (each : ∀ m ∈ members, text m.1 ∧ ∀ j ∈ m.2, Every number text j) :
    Every number text (present members) := by
  rw [present, Every, everyMember_iff]
  intro m member
  obtain ⟨stored, inMembers, same⟩ := List.mem_filterMap.mp member
  obtain ⟨j, held, rfl⟩ := Option.map_eq_some_iff.mp same
  exact ⟨(each stored inMembers).1, (each stored inMembers).2 j held⟩

theorem every_map {α : Type} {value : Option α} {write : α → Json}
    (each : ∀ a ∈ value, Every number text (write a)) :
    ∀ j ∈ value.map write, Every number text j := by
  intro j given
  obtain ⟨a, held, rfl⟩ := Option.map_eq_some_iff.mp given
  exact each a held

mutual

theorem every_sorted : ∀ {j : Json}, Every number text j → Every number text (sorted j)
  | .null, _ | .bool _, _ => trivial
  | .num _, each => each
  | .str _, each => each
  | .arr items, each => everyItem_allSorted each
  | .obj members, each => by
    have sortedMembers := everyMember_iff.mp (everyMember_membersSorted each)
    exact everyMember_iff.mpr fun m member => sortedMembers m (List.mem_mergeSort.mp member)

theorem everyItem_allSorted :
    ∀ {items : List Json}, EveryItem number text items → EveryItem number text (allSorted items)
  | [], _ => trivial
  | _ :: _, each => ⟨every_sorted each.1, everyItem_allSorted each.2⟩

theorem everyMember_membersSorted : ∀ {members : List (Text × Json)},
    EveryMember number text members → EveryMember number text (membersSorted members)
  | [], _ => trivial
  | (_, _) :: _, each => ⟨each.1, every_sorted each.2.1, everyMember_membersSorted each.2.2⟩

end

end

/-! ## Finite numbers -/

abbrev EveryFinite : Json → Prop := Every (fun n => n.isFinite = true) fun _ => True

mutual

theorem isFinite_iff : ∀ {j : Json}, j.isFinite = true ↔ j.EveryFinite
  | .null | .bool _ | .str _ => by simp [isFinite, EveryFinite, Every]
  | .num _ => by rw [isFinite, EveryFinite, Every]
  | .arr items => by
    rw [isFinite, EveryFinite, Every]
    exact areFinite_iff
  | .obj members => by
    rw [isFinite, EveryFinite, Every]
    exact membersAreFinite_iff

theorem areFinite_iff : ∀ {items : List Json}, areFinite items = true ↔
    EveryItem (fun n => n.isFinite = true) (fun _ => True) items
  | [] => by simp [areFinite, EveryItem]
  | j :: rest => by
    rw [areFinite, EveryItem, Bool.and_eq_true]
    exact and_congr isFinite_iff areFinite_iff

theorem membersAreFinite_iff : ∀ {members : List (Text × Json)}, membersAreFinite members = true ↔
    EveryMember (fun n => n.isFinite = true) (fun _ => True) members
  | [] => by simp [membersAreFinite, EveryMember]
  | (key, j) :: rest => by
    rw [membersAreFinite, EveryMember, Bool.and_eq_true, true_and]
    exact and_congr isFinite_iff membersAreFinite_iff

end

mutual

theorem finiteOrNull_of_every : ∀ {j : Json}, j.EveryFinite → finiteOrNull j = j
  | .null, _ | .bool _, _ | .str _, _ => by rw [finiteOrNull]; all_goals nofun
  | .num n, finite => by
    have isFinite : n.isFinite = true := finite
    rw [finiteOrNull, if_pos isFinite]
  | .arr items, finite => by rw [finiteOrNull, allFiniteOrNull_of_every finite]
  | .obj members, finite => by rw [finiteOrNull, membersFiniteOrNull_of_every finite]

theorem allFiniteOrNull_of_every : ∀ {items : List Json},
    EveryItem (fun n => n.isFinite = true) (fun _ => True) items → allFiniteOrNull items = items
  | [], _ => by rw [allFiniteOrNull]
  | j :: rest, finite => by
    rw [allFiniteOrNull, finiteOrNull_of_every finite.1, allFiniteOrNull_of_every finite.2]

theorem membersFiniteOrNull_of_every : ∀ {members : List (Text × Json)},
    EveryMember (fun n => n.isFinite = true) (fun _ => True) members →
      membersFiniteOrNull members = members
  | [], _ => by rw [membersFiniteOrNull]
  | (key, j) :: rest, finite => by
    rw [membersFiniteOrNull, finiteOrNull_of_every finite.2.1,
      membersFiniteOrNull_of_every finite.2.2]

end

end SpatialQuery.Json
