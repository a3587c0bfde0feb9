import SpatialQuery.Proofs.Cache.History

/-!
# The order of last touches

A key is touched when it is set, and when it is looked up and found.  A store keeps its entries in the
order in which their keys were last touched, through every overwriting, expiry and eviction, so that the
entry which a full store drops for a new key is the one whose last touch is the oldest.  An entry that was
never seen expired is therefore held until as many other keys have been touched as the store may hold.
-/

set_option autoImplicit false

namespace SpatialQuery

theorem Assoc.mem_keys_erase {α β : Type} [DecidableEq α] {key other : α} {members : List (α × β)}
    (differ : other ≠ key) (held : key ∈ members.map (·.1)) :
    key ∈ (erase other members).map (·.1) := by
  obtain ⟨m, member, rfl⟩ := List.mem_map.mp held
  exact List.mem_map_of_mem (List.mem_filter.mpr ⟨member, by simpa using Ne.symm differ⟩)

namespace Cache

variable {α : Type}

/-- The key that is set, or that is looked up and found. -/
def touched? : Op α × Option α → Option Text
  | (.get key _, answer) => answer.map fun _ => key
  | (.set key _ _, _) => some key
  | (.clear, _) => none
  | (.stats, _) => none

def touches (log : List (Op α × Option α)) : List Text := log.filterMap touched?

def sinceTouch (key : Text) (touches : List Text) : List Text :=
  (touches.reverse.takeWhile fun touched => touched ≠ key).reverse

/-- Keys that were touched, in the order of their last touches. -/
structure InTouchOrder (touches keys : List Text) : Prop where
  touched : ∀ key ∈ keys, key ∈ touches
  order : keys.Pairwise fun older newer => newer ∈ sinceTouch older touches

/-- Since the last touch of a key at least so many others were touched. -/
def IsOutdone (count : Nat) (key : Text) (touches : List Text) : Prop :=
  ∃ others : List Text, others.Nodup ∧ count ≤ others.length ∧
    ∀ other ∈ others, other ≠ key ∧ other ∈ sinceTouch key touches

section Runs

variable {log : List (Op α × Option α)} {op : Op α} {cache : Cache α} {key other : Text}
  {past keys kept : List Text} {count : Nat}

theorem touches_concat (log : List (Op α × Option α)) (done : Op α × Option α) :
    touches (log ++ [done]) = touches log ++ (touched? done).toList := by
  rw [touches, List.filterMap_append, ← touches]
  cases touching : touched? done <;> simp [touching]

theorem sinceTouch_concat (past : List Text) (differ : other ≠ key) :
    sinceTouch key (past ++ [other]) = sinceTouch key past ++ [other] := by
  simp [sinceTouch, differ]

/-! ## The order is kept -/

namespace InTouchOrder

theorem nil (touches : List Text) : InTouchOrder touches [] :=
  ⟨fun _ member => absurd member List.not_mem_nil, List.Pairwise.nil⟩

theorem sublist (ordered : InTouchOrder past keys) (left : kept.Sublist keys) :
    InTouchOrder past kept :=
  ⟨fun key member => ordered.touched key (left.subset member), ordered.order.sublist left⟩

theorem touch (ordered : InTouchOrder past kept) (fresh : key ∉ kept) :
    InTouchOrder (past ++ [key]) (kept ++ [key]) := by
  have differ : ∀ older ∈ kept, key ≠ older := fun older member same => fresh (same ▸ member)
  constructor
  · intro held member
    rcases List.mem_append.mp member with old | new
    · exact List.mem_append_left _ (ordered.touched held old)
    · exact List.mem_append_right _ new
  · rw [List.pairwise_append]
    refine ⟨?_, List.pairwise_singleton _ _, ?_⟩
    · apply ordered.order.imp_of_mem
      intro older newer among _ since
      rw [sinceTouch_concat past (differ older among)]
      exact List.mem_append_left _ since
    · intro older among newer isKey
      rw [List.mem_singleton.mp isKey, sinceTouch_concat past (differ older among)]
      exact List.mem_append_right _ List.mem_cons_self

/-- An operation touches no key, and leaves keys out at most, or it touches one, which goes to the end. -/
theorem step (ordered : InTouchOrder (touches log) cache.keys) (op : Op α) :
    InTouchOrder (touches (log ++ [(op, op.answer cache)])) (op.apply cache).keys := by
  rw [touches_concat]
  have erased : ∀ key, InTouchOrder (touches log) ((Assoc.erase key cache.entries).map (·.1)) :=
    fun key => ordered.sublist ((Assoc.erase_sublist key cache.entries).map (·.1))
  cases op with
  | get key now =>
    rcases get_cases cache key now with ⟨_, looked⟩ | ⟨_, _, _, looked⟩ | ⟨_, _, _, looked⟩
    · simpa only [Op.apply, Op.answer, touched?, looked, keys, Option.map_none, Option.toList_none,
        List.append_nil] using ordered
    · simpa only [Op.apply, Op.answer, touched?, looked, keys, Option.map_none, Option.toList_none,
        List.append_nil] using erased key
    · simpa only [Op.apply, Op.answer, touched?, looked, keys, Option.map_some, Option.toList_some,
        List.map_append, List.map_cons, List.map_nil]
        using (erased key).touch (Assoc.not_mem_keys_erase key cache.entries)
  | set key value now =>
    have retained : InTouchOrder (touches log) ((cache.retained key).map (·.1)) :=
      ordered.sublist ((retained_sublist cache key).map (·.1))
    simpa only [Op.apply, Op.answer, touched?, set, keys, Option.toList_some, List.map_append,
      List.map_cons, List.map_nil] using retained.touch (not_mem_keys_retained cache key)
  | clear => exact nil _
  | stats => simpa only [Op.apply, touched?, Option.toList_none, List.append_nil] using ordered

end InTouchOrder

theorem inTouchOrder_run (start : Cache α) (empty : start.entries = []) (ops : List (Op α)) :
    InTouchOrder (touches (start.answers ops)) (start.run ops).keys := by
  induction ops using List.reverseRecOn with
  | nil =>
    have noKeys : (start.run []).keys = [] := congrArg (List.map Prod.fst) empty
    rw [noKeys]
    exact .nil _
  | append_singleton ops op ih =>
    rw [answers_concat, run_concat]
    exact ih.step op

/-! ## Eviction -/

theorem mem_set_of_roomy (roomy : key ∈ cache.keys ∨ cache.size < cache.maxSize)
    {e : Text × Entry α} (member : e ∈ cache.entries) (differ : e.1 ≠ key) (value : α) (now : Number) :
    e ∈ (cache.set key value now).entries := by
  apply List.mem_append_left
  rcases retained_cases cache key with ⟨_, kept⟩ | ⟨absent, full, _⟩ | ⟨_, _, kept⟩
  · rw [kept]
    exact List.mem_filter.mpr ⟨member, by simpa using differ⟩
  · rcases roomy with present | free
    · exact absurd present absent
    · exact absurd full (Nat.not_le_of_lt free)
  · rw [kept]
    exact member

theorem exists_retained_of_full (room : 1 ≤ cache.maxSize) (absent : key ∉ cache.keys)
    (full : cache.maxSize ≤ cache.size) :
    ∃ evicted rest, cache.entries = evicted :: rest ∧ cache.retained key = rest := by
  rcases retained_cases cache key with ⟨present, _⟩ | ⟨_, _, kept⟩ | ⟨_, free, _⟩
  · exact absurd present absent
  · cases held : cache.entries with
    | nil =>
      have none : cache.size = 0 := congrArg List.length held
      omega
    | cons evicted rest =>
      rw [held] at kept
      exact ⟨evicted, rest, rfl, kept⟩
  · exact absurd full (Nat.not_le_of_lt free)

/-- The other keys have all been touched since the first key was. -/
theorem InTouchOrder.first {evicted : Text × Entry α} {rest : List (Text × Entry α)}
    (ordered : InTouchOrder past cache.keys) (held : cache.entries = evicted :: rest) :
    ∀ e ∈ rest, e.1 ∈ sinceTouch evicted.1 past := by
  intro e member
  have order := ordered.order
  rw [keys, held, List.map_cons, List.pairwise_cons] at order
  exact order.1 e.1 (List.mem_map_of_mem member)

theorem mem_set_iff_of_full {evicted : Text × Entry α} {rest : List (Text × Entry α)}
    (distinct : cache.keys.Nodup) (absent : key ∉ cache.keys)
    (held : cache.entries = evicted :: rest) (kept : cache.retained key = rest) (value : α)
    (now : Number) {e : Text × Entry α} (member : e ∈ cache.entries) :
    e ∈ (cache.set key value now).entries ↔ e ≠ evicted := by
  have fresh : evicted ∉ rest := by
    rw [keys, held, List.map_cons, List.nodup_cons] at distinct
    exact fun again => distinct.1 (List.mem_map_of_mem again)
  constructor
  · rintro stays rfl
    rcases List.mem_append.mp stays with old | new
    · rw [kept] at old
      exact fresh old
    · have isKey : e.1 = key := congrArg Prod.fst (List.mem_singleton.mp new)
      exact absent (isKey ▸ List.mem_map_of_mem (f := (·.1)) member)
  · intro other
    rw [held] at member
    apply List.mem_append_left
    rw [kept]
    exact List.mem_of_ne_of_mem other member

/-! ## How long an entry stays -/

theorem IsOutdone.concat (outdone : IsOutdone count key past) (differ : other ≠ key) :
    IsOutdone count key (past ++ [other]) := by
  obtain ⟨others, distinct, enough, since⟩ := outdone
  refine ⟨others, distinct, enough, ?_⟩
  intro one member
  rw [sinceTouch_concat past differ]
  exact ⟨(since one member).1, List.mem_append_left _ (since one member).2⟩

theorem mem_keys_of_touched (touching : touched? (op, op.answer cache) = some key) :
    key ∈ (op.apply cache).keys := by
  cases op with
  | get sought now =>
    rcases get_cases cache sought now with ⟨_, looked⟩ | ⟨_, _, _, looked⟩ | ⟨_, _, _, looked⟩
    · simp [touched?, Op.answer, looked] at touching
    · simp [touched?, Op.answer, looked] at touching
    · obtain rfl : sought = key := by simpa [touched?, Op.answer, looked] using touching
      simp [Op.apply, looked, keys]
  | set other value now =>
    obtain rfl : other = key := Option.some.inj touching
    simp [Op.apply, set, keys]
  | clear => cases touching
  | stats => cases touching

/-- A held key that an eviction takes away is outdone by the other keys and the new one. -/
theorem held_or_outdone_of_set (ordered : InTouchOrder past cache.keys) (distinct : cache.keys.Nodup)
    (room : 1 ≤ cache.maxSize) (held : key ∈ cache.keys) (other : Text) (value : α) (now : Number) :
    key ∈ (cache.set other value now).keys ∨ IsOutdone cache.maxSize key (past ++ [other]) := by
  obtain ⟨e, member, rfl⟩ := List.mem_map.mp held
  by_cases same : e.1 = other
  · exact Or.inl (by simp [set, keys, same])
  by_cases roomy : other ∈ cache.keys ∨ cache.size < cache.maxSize
  · exact Or.inl (List.mem_map_of_mem (mem_set_of_roomy roomy member same value now))
  obtain ⟨absent, full⟩ := not_or.mp roomy
  have full := Nat.le_of_not_lt full
  obtain ⟨evicted, rest, entries, kept⟩ := exists_retained_of_full room absent full
  by_cases first : e = evicted
  · right
    subst first
    have size : cache.size = rest.length + 1 := congrArg List.length entries
    have split : cache.keys = e.1 :: rest.map (·.1) := congrArg (List.map Prod.fst) entries
    rw [split, List.nodup_cons] at distinct
    rw [split, List.mem_cons, not_or] at absent
    refine ⟨rest.map (·.1) ++ [other], ?_, ?_, ?_⟩
    · rw [List.nodup_append]
      refine ⟨distinct.2, by simp, ?_⟩
      rintro one inRest new isOther rfl
      exact absent.2 (List.mem_singleton.mp isOther ▸ inRest)
    · simp only [List.length_append, List.length_map, List.length_singleton]
      omega
    · intro one among
      rw [sinceTouch_concat past (Ne.symm same)]
      rcases List.mem_append.mp among with old | new
      · refine ⟨fun equal => distinct.1 (equal ▸ old), List.mem_append_left _ ?_⟩
        obtain ⟨touched, inRest, rfl⟩ := List.mem_map.mp old
        exact ordered.first entries touched inRest
      · exact ⟨List.mem_singleton.mp new ▸ Ne.symm same, List.mem_append_right _ new⟩
  · have stays := (mem_set_iff_of_full distinct absent entries kept value now member).mpr first
    exact Or.inl (List.mem_map_of_mem stays)

theorem mem_keys_get (held : key ∈ cache.keys) (sought : Text) (now : Number)
    (current : sought = key → ∀ entry, (key, entry) ∈ cache.entries →
      entry.isExpired cache.lifetime now = false) : key ∈ (cache.get sought now).2.keys := by
  rcases get_cases cache sought now with
    ⟨_, looked⟩ | ⟨entry, member, expired, looked⟩ | ⟨entry, member, _, looked⟩
  · rw [looked]
    exact held
  · have differ : sought ≠ key := by
      rintro rfl
      rw [current rfl entry member] at expired
      cases expired
    rw [looked]
    exact Assoc.mem_keys_erase differ held
  · rw [looked, keys, List.map_append]
    by_cases same : sought = key
    · exact List.mem_append_right _ (same ▸ List.mem_cons_self)
    · exact List.mem_append_left _ (Assoc.mem_keys_erase same held)

/-- A key stays held or is outdone, whatever is done but clearing and seeing it expired. -/
theorem held_or_outdone_step (ordered : InTouchOrder (touches log) cache.keys)
    (distinct : cache.keys.Nodup) (room : 1 ≤ cache.maxSize) (op : Op α) (kept : op.isClear = false)
    (current : ∀ now, op = .get key now → ∀ entry, (key, entry) ∈ cache.entries →
      entry.isExpired cache.lifetime now = false)
    (known : key ∈ cache.keys ∨ IsOutdone cache.maxSize key (touches log)) :
    key ∈ (op.apply cache).keys ∨
      IsOutdone cache.maxSize key (touches (log ++ [(op, op.answer cache)])) := by
  rw [touches_concat]
  rcases known with held | outdone
  · cases op with
    | get sought now =>
      exact Or.inl (mem_keys_get held sought now fun same => current now (by rw [same]))
    | set other value now => exact held_or_outdone_of_set ordered distinct room held other value now
    | clear => cases kept
    | stats => exact Or.inl held
  · cases touching : touched? (op, op.answer cache) with
    | none => simpa only [Option.toList_none, List.append_nil] using Or.inr outdone
    | some other =>
      by_cases same : other = key
      · exact Or.inl (mem_keys_of_touched (same ▸ touching))
      · exact Or.inr (outdone.concat same)

theorem held_or_outdone_run (start : Cache α) (empty : start.entries = []) (room : 1 ≤ start.maxSize)
    (before : List (Op α)) (key : Text) (value : α) (setAt : Number) (after : List (Op α))
    (kept : ∀ op ∈ after, op.isClear = false)
    (current : ∀ earlier now later entry, after = earlier ++ .get key now :: later →
      (key, entry) ∈ (start.run (before ++ .set key value setAt :: earlier)).entries →
        entry.isExpired start.lifetime now = false) :
    key ∈ (start.run (before ++ .set key value setAt :: after)).keys ∨
      IsOutdone start.maxSize key
        (touches (start.answers (before ++ .set key value setAt :: after))) := by
  -- By induction on what is done after the key was set.
  induction after using List.reverseRecOn with
  | nil =>
    left
    rw [run_concat]
    have touching : touched? (Op.set key value setAt, none) = some key := rfl
    exact mem_keys_of_touched touching
  | append_singleton after op ih =>
    let ops := before ++ Op.set key value setAt :: after
    have longer : before ++ Op.set key value setAt :: (after ++ [op]) = ops ++ [op] := by simp [ops]
    have tracks := tracks_run start empty room ops
    have known := ih (fun next among => kept next (List.mem_append_left _ among))
      (fun earlier now later entry split =>
        current earlier now (later ++ [op]) entry (by rw [split]; simp))
    have seen : ∀ now, op = .get key now → ∀ entry, (key, entry) ∈ (start.run ops).entries →
        entry.isExpired (start.run ops).lifetime now = false := by
      rintro now rfl entry member
      rw [tracks.lifetime_eq]
      exact current after now [] entry rfl member
    have stepped := held_or_outdone_step (inTouchOrder_run start empty ops) tracks.distinct
      (tracks.maxSize_eq ▸ room) op (kept op (List.mem_append_right _ List.mem_cons_self)) seen
      (tracks.maxSize_eq ▸ known)
    rw [longer, answers_concat, run_concat]
    rwa [tracks.maxSize_eq] at stepped

end Runs

/-- Setting a key takes another entry away only if the key is new and the store full; then it takes away
one entry, and all others were touched since that one was.  So a key that was set is held, unless the store
was cleared, a look-up saw the entry expired, or as many other keys as the store may hold were touched since
the key was. -/
theorem eviction_is_least_recently_used {maxSize : Int} (positive : 1 ≤ maxSize) (lifetime : Number) :
    ∃ start : Cache α, create? maxSize lifetime = some start ∧
      (∀ (ops : List (Op α)) (key : Text) (value : α) (now : Number),
        (∀ e ∈ (start.run ops).entries, e.1 ≠ key → e ∉ ((start.run ops).set key value now).entries →
          key ∉ (start.run ops).keys ∧ ((start.run ops).size : Int) = maxSize) ∧
        (key ∉ (start.run ops).keys → ((start.run ops).size : Int) = maxSize →
          ∃ evicted ∈ (start.run ops).entries,
            (∀ e ∈ (start.run ops).entries,
              e ∈ ((start.run ops).set key value now).entries ↔ e ≠ evicted) ∧
            evicted.1 ∈ touches (start.answers ops) ∧
            ∀ e ∈ (start.run ops).entries, e ≠ evicted →
              e.1 ∈ sinceTouch evicted.1 (touches (start.answers ops)))) ∧
      ∀ (before : List (Op α)) (key : Text) (value : α) (setAt : Number) (after : List (Op α)),
        (∀ op ∈ after, op.isClear = false) →
        (∀ earlier now later entry, after = earlier ++ .get key now :: later →
          (key, entry) ∈ (start.run (before ++ .set key value setAt :: earlier)).entries →
            entry.isExpired lifetime now = false) →
        key ∈ (start.run (before ++ .set key value setAt :: after)).keys ∨
          ∃ others : List Text, others.Nodup ∧ maxSize ≤ others.length ∧ ∀ other ∈ others,
            other ≠ key ∧ other ∈ sinceTouch key
              (touches (start.answers (before ++ .set key value setAt :: after))) := by
  have created : create? (α := α) maxSize lifetime = some ⟨maxSize.toNat, lifetime, [], 0, 0⟩ :=
    if_neg (by omega)
  have room : 1 ≤ maxSize.toNat := by omega
  refine ⟨_, created, ?_, ?_⟩
  · intro ops key value now
    have tracks := tracks_run ⟨maxSize.toNat, lifetime, [], 0, 0⟩ rfl room ops
    have ordered := inTouchOrder_run (α := α) ⟨maxSize.toNat, lifetime, [], 0, 0⟩ rfl ops
    have bounded := tracks.bounded
    have holds : (Cache.run _ ops).maxSize = maxSize.toNat := tracks.maxSize_eq
    constructor
    · intro e member other gone
      obtain ⟨absent, full⟩ := not_or.mp fun roomy =>
        gone (mem_set_of_roomy roomy member other value now)
      exact ⟨absent, by omega⟩
    · intro absent full
      obtain ⟨evicted, rest, held, kept⟩ :=
        exists_retained_of_full (holds.symm ▸ room) absent (by omega)
      have stays : ∀ e ∈ _, _ := fun e member =>
        mem_set_iff_of_full tracks.distinct absent held kept value now (e := e) member
      have isHeld := held ▸ List.mem_cons_self (a := evicted) (l := rest)
      refine ⟨evicted, isHeld, stays, ordered.touched _ (List.mem_map_of_mem isHeld), ?_⟩
      intro e member other
      rw [held] at member
      exact ordered.first held e (List.mem_of_ne_of_mem other member)
  · intro before key value setAt after kept current
    rcases held_or_outdone_run ⟨maxSize.toNat, lifetime, [], 0, 0⟩ rfl room before key value setAt
      after kept current with held | ⟨others, distinct, enough, since⟩
    · exact Or.inl held
    · refine Or.inr ⟨others, distinct, ?_, since⟩
      change maxSize.toNat ≤ _ at enough
      omega

def pairOps : List (Op Nat) := [.set "a" 1 (.int 0), .set "b" 2 (.int 1), .get "a" (.int 2)]

def foundEntry : Text × Entry Nat := ("a", ⟨1, .int 0⟩)

def idleEntry : Text × Entry Nat := ("b", ⟨2, .int 1⟩)

/-- The look-up saves the key that was set first from making room for a third one. -/
theorem eviction_is_least_recently_used_sample :
    (1 : Int) ≤ 2 ∧ ∃ start : Cache Nat, create? 2 (.int 60) = some start ∧
      (start.run pairOps).entries = [idleEntry, foundEntry] ∧
      idleEntry ∉ ((start.run pairOps).set "c" 3 (.int 3)).entries ∧
      foundEntry ∈ ((start.run pairOps).set "c" 3 (.int 3)).entries ∧
      foundEntry.1 ∈ sinceTouch idleEntry.1 (touches (start.answers pairOps)) := by
  obtain ⟨start, created, dropped, _⟩ :=
    eviction_is_least_recently_used (α := Nat) (show (1 : Int) ≤ 2 by decide) (.int 60)
  cases created
  have held : (Cache.run ⟨2, .int 60, [], 0, 0⟩ pairOps).entries = [idleEntry, foundEntry] := rfl
  obtain ⟨evicted, isHeld, stays, _, since⟩ := (dropped pairOps "c" 3 (.int 3)).2 (by decide) rfl
  have kept : foundEntry ∈ ((Cache.run ⟨2, .int 60, [], 0, 0⟩ pairOps).set "c" 3 (.int 3)).entries :=
    List.mem_cons_self
  have isFound : foundEntry ∈ (Cache.run ⟨2, .int 60, [], 0, 0⟩ pairOps).entries :=
    List.mem_cons_of_mem _ List.mem_cons_self
  have other : foundEntry ≠ evicted := (stays _ isFound).mp kept
  obtain rfl : evicted = idleEntry := by
    rcases List.mem_cons.mp isHeld with idle | later
    · exact idle
    · exact absurd (List.mem_singleton.mp later).symm other
  exact ⟨by decide, _, rfl, held, fun again => (stays _ isHeld).mp again rfl, kept,
    since _ isFound other⟩

end Cache

end SpatialQuery
