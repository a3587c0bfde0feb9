import SpatialQuery.Proofs.Cache.Recency

/-!
# What comes and goes

Of a look-up, and of setting a key that was looked up in vain, it is told which entries are gone from the
store afterwards and which are new.  All others stay as they are, with their values and the times when they
were set.
-/

set_option autoImplicit false

namespace SpatialQuery

theorem Assoc.perm_erase {α β : Type} [DecidableEq α] {key : α} {value : β} {members : List (α × β)}
    (distinct : (members.map (·.1)).Nodup) (member : (key, value) ∈ members) :
    members.Perm ((key, value) :: erase key members) := by
  induction members with
  | nil => cases member
  | cons m rest ih =>
    obtain ⟨fresh, distinctRest⟩ := List.nodup_cons.mp distinct
    rcases List.mem_cons.mp member with rfl | later
    · have others : erase key rest = rest := by
        refine List.filter_eq_self.mpr fun other inRest => ?_
        have differ : other.1 ≠ key := fun same => fresh (List.mem_map.mpr ⟨other, inRest, same⟩)
        simpa using differ
      have erased : erase key ((key, value) :: rest) = erase key rest := by simp [erase]
      rw [erased, others]
    · have differ : m.1 ≠ key := fun same => fresh (List.mem_map.mpr ⟨(key, value), later, same.symm⟩)
      have erased : erase key (m :: rest) = m :: erase key rest := by simp [erase, differ]
      rw [erased]
      exact ((ih distinctRest later).cons m).trans (.swap ..)

namespace Cache

variable {α : Type}

/-- Of the entries some are gone and some are new; all others stay, in whatever order. -/
def Turnover (before after : Cache α) (gone new : List (Text × Entry α)) : Prop :=
  ∃ kept, before.entries.Perm (gone ++ kept) ∧ after.entries.Perm (kept ++ new)

/-- The key of the entry was touched, and the keys of all others were touched since. -/
def IsLeastRecent (touches : List Text) (cache : Cache α) (e : Text × Entry α) : Prop :=
  e.1 ∈ touches ∧ ∀ other ∈ cache.entries, other ≠ e → other.1 ∈ sinceTouch e.1 touches

section

variable {cache : Cache α} {key : Text} {now : Number}

theorem Turnover.refl (cache : Cache α) : cache.Turnover cache [] [] :=
  ⟨cache.entries, .refl _, by rw [List.append_nil]⟩

/-- A look-up takes at most the expired entry of its key away. -/
theorem get_turnover (distinct : cache.keys.Nodup) (key : Text) (now : Number) :
    ∃ gone, gone.length ≤ 1 ∧ cache.Turnover (cache.get key now).2 gone [] ∧
      ∀ e ∈ gone, e.1 = key ∧ e.2.isExpired cache.lifetime now = true := by
  rcases get_cases cache key now with
    ⟨_, looked⟩ | ⟨entry, member, expired, looked⟩ | ⟨entry, member, _, looked⟩
  · refine ⟨[], Nat.zero_le 1, ?_, List.forall_mem_nil _⟩
    rw [looked]
    exact Turnover.refl cache
  · refine ⟨[(key, entry)], Nat.le_refl 1, ⟨Assoc.erase key cache.entries, ?_, ?_⟩, ?_⟩
    · exact Assoc.perm_erase distinct member
    · rw [looked, List.append_nil]
    · rintro e isEntry
      rw [List.mem_singleton.mp isEntry]
      exact ⟨rfl, expired⟩
  · refine ⟨[], Nat.zero_le 1, ⟨cache.entries, .refl _, ?_⟩, List.forall_mem_nil _⟩
    rw [looked, List.append_nil]
    exact (List.perm_append_singleton ..).trans (Assoc.perm_erase distinct member).symm

theorem missed_cases (missed : (cache.get key now).1 = none) :
    (key ∉ cache.keys ∧ (cache.get key now).2 = { cache with misses := cache.misses + 1 }) ∨
      ∃ entry, (key, entry) ∈ cache.entries ∧ entry.isExpired cache.lifetime now = true ∧
        (cache.get key now).2 =
          { cache with entries := Assoc.erase key cache.entries, misses := cache.misses + 1 } := by
  rcases get_cases cache key now with
    ⟨absent, looked⟩ | ⟨entry, member, expired, looked⟩ | ⟨entry, member, _, looked⟩
  · exact .inl ⟨absent, congrArg Prod.snd looked⟩
  · exact .inr ⟨entry, member, expired, congrArg Prod.snd looked⟩
  · rw [looked] at missed
    cases missed

/-- Setting a key that no entry has takes an entry away only from a full store, the one that was touched
least recently. -/
theorem set_turnover {past : List Text} (room : 1 ≤ cache.maxSize) (bounded : cache.size ≤ cache.maxSize)
    (ordered : InTouchOrder past cache.keys) (absent : key ∉ cache.keys) (value : α) (now : Number) :
    ∃ gone, gone.length ≤ 1 ∧ cache.Turnover (cache.set key value now) gone [(key, ⟨value, now⟩)] ∧
      ∀ e ∈ gone, cache.size = cache.maxSize ∧ IsLeastRecent past cache e := by
  by_cases full : cache.maxSize ≤ cache.size
  · obtain ⟨evicted, rest, held, kept⟩ := exists_retained_of_full room absent full
    refine ⟨[evicted], Nat.le_refl 1, ⟨rest, ?_, ?_⟩, ?_⟩
    · rw [held]
      exact .refl _
    · rw [set, kept]
    · intro e isEvicted
      obtain rfl := List.mem_singleton.mp isEvicted
      have isHeld : e ∈ cache.entries := held ▸ List.mem_cons_self
      refine ⟨Nat.le_antisymm bounded full, ordered.touched _ (List.mem_map_of_mem isHeld), ?_⟩
      intro other member differ
      rw [held] at member
      exact ordered.first held other (List.mem_of_ne_of_mem differ member)
  · refine ⟨[], Nat.zero_le 1, ⟨cache.entries, .refl _, ?_⟩, List.forall_mem_nil _⟩
    rcases retained_cases cache key with ⟨present, _⟩ | ⟨_, enough, _⟩ | ⟨_, _, kept⟩
    · exact absurd present absent
    · exact absurd enough full
    · rw [set, kept]

/-- Once a key was looked up in vain, setting it takes the expired entry of that key away or, from a full
store, the entry that was touched least recently, but never both. -/
theorem set_turnover_of_missed {past : List Text} (room : 1 ≤ cache.maxSize)
    (bounded : cache.size ≤ cache.maxSize) (distinct : cache.keys.Nodup)
    (ordered : InTouchOrder past cache.keys) (missed : (cache.get key now).1 = none) (value : α)
    (later : Number) :
    ∃ gone, gone.length ≤ 1 ∧
      cache.Turnover ((cache.get key now).2.set key value later) gone [(key, ⟨value, later⟩)] ∧
      ∀ e ∈ gone, e.1 = key ∧ e.2.isExpired cache.lifetime now = true ∨
        cache.size = cache.maxSize ∧ IsLeastRecent past cache e := by
  rcases missed_cases missed with ⟨absent, looked⟩ | ⟨entry, member, expired, looked⟩
  · rw [looked]
    let counted : Cache α := { cache with misses := cache.misses + 1 }
    have holds : 1 ≤ counted.maxSize := room
    obtain ⟨gone, one, turnover, evicted⟩ := set_turnover holds bounded ordered absent value later
    exact ⟨gone, one, turnover, fun e isGone => .inr (evicted e isGone)⟩
  · have fewer : (Assoc.erase key cache.entries).length < cache.maxSize :=
      Nat.lt_of_lt_of_le (Assoc.length_erase_lt member) bounded
    refine ⟨[(key, entry)], Nat.le_refl 1, ⟨Assoc.erase key cache.entries, ?_, ?_⟩, ?_⟩
    · exact Assoc.perm_erase distinct member
    · rw [looked]
      -- There is room again, so nothing else has to go.
      rcases retained_cases { cache with
          entries := Assoc.erase key cache.entries, misses := cache.misses + 1 } key with
        ⟨present, _⟩ | ⟨_, full, _⟩ | ⟨_, _, kept⟩
      · exact absurd present (Assoc.not_mem_keys_erase key cache.entries)
      · exact absurd full (Nat.not_le_of_lt fewer)
      · rw [set, kept]
    · intro e isEntry
      rw [List.mem_singleton.mp isEntry]
      exact .inl ⟨rfl, expired⟩

end

end Cache

end SpatialQuery
