import SpatialQuery.Cache
import SpatialQuery.Proofs.Assoc

/-!
# What a store holds

A store finds only what it holds under the key, looking a key up adds no entry, and setting a key adds
that entry and no other.
-/

set_option autoImplicit false

namespace SpatialQuery

namespace Cache

variable {α : Type} {cache : Cache α} {key : Text} {now : Number}

theorem entries_of_create? {size : Int} {lifetime : Number}
    (created : create? size lifetime = some cache) : cache.entries = [] := by
  unfold create? at created
  split at created
  · cases created
  · cases created
    rfl

theorem get_of_entries_eq_nil (empty : cache.entries = []) :
    cache.get key now = (none, { cache with misses := cache.misses + 1 }) := by
  simp only [get, empty, Assoc.get?]

theorem mem_of_get_eq_some {value : α} (found : (cache.get key now).1 = some value) :
    ∃ entry, (key, entry) ∈ cache.entries ∧ entry.value = value := by
  unfold get at found
  split at found
  · cases found
  · rename_i entry present
    dsimp only at found
    split at found
    · cases found
    · cases found
      exact ⟨entry, Assoc.mem_of_get?_eq_some present, rfl⟩

theorem entries_get_subset : (cache.get key now).2.entries ⊆ cache.entries := by
  intro e member
  unfold get at member
  split at member
  · exact member
  · rename_i entry present
    dsimp only at member
    split at member
    · exact (List.mem_filter.mp member).1
    · rcases List.mem_append.mp member with other | touched
      · exact (List.mem_filter.mp other).1
      · rw [List.mem_singleton.mp touched]
        exact Assoc.mem_of_get?_eq_some present

theorem retained_subset : cache.retained key ⊆ cache.entries := by
  intro e member
  unfold retained at member
  split at member
  · exact (List.mem_filter.mp member).1
  · split at member
    · exact List.mem_of_mem_drop member
    · exact member

theorem mem_entries_set {value : α} {e : Text × Entry α}
    (member : e ∈ (cache.set key value now).entries) : e ∈ cache.entries ∨ e = (key, ⟨value, now⟩) :=
  (List.mem_append.mp member).imp (fun old => retained_subset old) List.mem_singleton.mp

end Cache

end SpatialQuery
