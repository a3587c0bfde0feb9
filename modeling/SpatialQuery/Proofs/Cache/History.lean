import Mathlib.Data.List.Induction
import SpatialQuery.Decimal.Nearest
import SpatialQuery.Proofs.Cache

/-!
# The history of a store

A run of a store is a list of operations, and each entry that the store holds comes from the last
operation that set its key.  Expiry, eviction and clearing only take entries away, and a key that is not
held stays so until it is set.  Readings of the clock need not increase.
-/

set_option autoImplicit false

namespace SpatialQuery

theorem Number.le_of_not_lt {a b : Number} (comparable : a.compare? b ≠ none)
    (notAbove : b.lt a = false) : a.le b = true := by
  unfold lt at notAbove
  unfold le
  cases a with
  | int m =>
    cases b with
    | int n =>
      simp only [compare?, beq_eq_false_iff_ne, ne_eq, Option.some.injEq] at notAbove ⊢
      cases order : compare m n with
      | lt => rfl
      | eq => rfl
      | gt => exact absurd (Int.compare_eq_lt.mpr (Int.compare_eq_gt.mp order)) notAbove
    | real y =>
      simp only [compare?] at comparable notAbove ⊢
      cases order : compare?.againstInt m y with
      | none => exact absurd order comparable
      | some o => cases o <;> simp_all [Ordering.swap]
  | real x =>
    cases b with
    | int n =>
      simp only [compare?] at comparable notAbove ⊢
      cases order : compare?.againstInt n x with
      | none => exact absurd (congrArg (Option.map Ordering.swap) order) comparable
      | some o => cases o <;> simp_all [Ordering.swap]
    | real y =>
      simp only [compare?] at comparable notAbove ⊢
      by_cases below : x < y
      · simp [below]
      · by_cases above : y < x
        · simp [above] at notAbove
        · by_cases same : (x == y) = true
          · simp [below, above, same]
          · simp [below, above, same] at comparable

namespace Cache

variable {α : Type}

/-- What is done to a store, with the reading of the clock that goes with it. -/
inductive Op (α : Type) where
  | get (key : Text) (now : Number)
  | set (key : Text) (value : α) (now : Number)
  | clear
  | stats

namespace Op

def apply (cache : Cache α) : Op α → Cache α
  | .get key now => (cache.get key now).2
  | .set key value now => cache.set key value now
  | .clear => cache.clear
  | .stats => cache

def answer (cache : Cache α) : Op α → Option α
  | .get key now => (cache.get key now).1
  | .set _ _ _ => none
  | .clear => none
  | .stats => none

def isGet : Op α → Bool
  | .get _ _ => true
  | .set _ _ _ => false
  | .clear => false
  | .stats => false

def isClear : Op α → Bool
  | .get _ _ => false
  | .set _ _ _ => false
  | .clear => true
  | .stats => false

def Sets (key : Text) : Op α → Prop
  | .get _ _ => False
  | .set other _ _ => other = key
  | .clear => False
  | .stats => False

end Op

def keys (cache : Cache α) : List Text := cache.entries.map (·.1)

def run (cache : Cache α) (ops : List (Op α)) : Cache α := ops.foldl Op.apply cache

/-- Each operation of a run with what it gave back. -/
def answers (cache : Cache α) : List (Op α) → List (Op α × Option α)
  | [] => []
  | op :: rest => (op, op.answer cache) :: answers (op.apply cache) rest

/-- The part of a run after the last time that the store was cleared. -/
def sinceClear (log : List (Op α × Option α)) : List (Op α × Option α) :=
  (log.reverse.takeWhile fun done => !done.1.isClear).reverse

def gets (log : List (Op α × Option α)) : Nat := log.countP fun done => done.1.isGet

def answered (log : List (Op α × Option α)) : Nat :=
  log.countP fun done => done.1.isGet && done.2.isSome

/-- The entry is what the last set of the key put there, and the store was not cleared since. -/
def LastSet (ops : List (Op α)) (key : Text) (entry : Entry α) : Prop :=
  ∃ before after, ops = before ++ Op.set key entry.value entry.setAt :: after ∧
    ∀ op ∈ after, ¬ op.Sets key ∧ op.isClear = false

section Runs

variable {ops : List (Op α)} {op : Op α} {cache : Cache α} {key : Text} {entry : Entry α}

theorem run_append (cache : Cache α) (ops more : List (Op α)) :
    cache.run (ops ++ more) = (cache.run ops).run more :=
  List.foldl_append

theorem run_concat (cache : Cache α) (ops : List (Op α)) (op : Op α) :
    cache.run (ops ++ [op]) = op.apply (cache.run ops) := by
  rw [run_append]
  rfl

theorem answers_concat (cache : Cache α) (ops : List (Op α)) (op : Op α) :
    cache.answers (ops ++ [op]) = cache.answers ops ++ [(op, op.answer (cache.run ops))] := by
  induction ops generalizing cache with
  | nil => rfl
  | cons first rest ih =>
    rw [List.cons_append, answers, ih, answers, List.cons_append]
    rfl

theorem sinceClear_concat_clear (log : List (Op α × Option α)) (answer : Option α) :
    sinceClear (log ++ [(.clear, answer)]) = [] := by
  simp [sinceClear, Op.isClear]

theorem sinceClear_concat {done : Op α × Option α} (log : List (Op α × Option α))
    (kept : done.1.isClear = false) : sinceClear (log ++ [done]) = sinceClear log ++ [done] := by
  simp [sinceClear, kept]

/-! ## What one operation does -/

/-- A look-up misses, drops an expired entry, or finds a current entry and moves it to the end. -/
theorem get_cases (cache : Cache α) (key : Text) (now : Number) :
    (key ∉ cache.keys ∧ cache.get key now = (none, { cache with misses := cache.misses + 1 })) ∨
    (∃ entry, (key, entry) ∈ cache.entries ∧ entry.isExpired cache.lifetime now = true ∧
      cache.get key now =
        (none, { cache with entries := Assoc.erase key cache.entries, misses := cache.misses + 1 })) ∨
    (∃ entry, (key, entry) ∈ cache.entries ∧ entry.isExpired cache.lifetime now = false ∧
      cache.get key now =
        (some entry.value,
          { cache with
            entries := Assoc.erase key cache.entries ++ [(key, entry)], hits := cache.hits + 1 })) := by
  unfold get
  cases found : Assoc.get? key cache.entries with
  | none => exact Or.inl ⟨Assoc.get?_eq_none_iff.mp found, rfl⟩
  | some entry =>
    have member := Assoc.mem_of_get?_eq_some found
    cases expired : entry.isExpired cache.lifetime now with
    | true => exact Or.inr (Or.inl ⟨entry, member, expired, by simp [expired]⟩)
    | false => exact Or.inr (Or.inr ⟨entry, member, expired, by simp [expired]⟩)

/-- A key is set after its old entry is dropped, or the entry used first if the store is full. -/
theorem retained_cases (cache : Cache α) (key : Text) :
    (key ∈ cache.keys ∧ cache.retained key = Assoc.erase key cache.entries) ∨
    (key ∉ cache.keys ∧ cache.maxSize ≤ cache.entries.length ∧
      cache.retained key = cache.entries.drop 1) ∨
    (key ∉ cache.keys ∧ cache.entries.length < cache.maxSize ∧
      cache.retained key = cache.entries) := by
  unfold retained
  cases found : Assoc.get? key cache.entries with
  | none =>
    have absent := Assoc.get?_eq_none_iff.mp found
    by_cases full : cache.maxSize ≤ cache.entries.length
    · exact Or.inr (Or.inl ⟨absent, full, if_pos full⟩)
    · exact Or.inr (Or.inr ⟨absent, Nat.lt_of_not_le full, if_neg full⟩)
  | some entry =>
    exact Or.inl ⟨List.mem_map_of_mem (f := (·.1)) (Assoc.mem_of_get?_eq_some found), rfl⟩

theorem retained_sublist (cache : Cache α) (key : Text) :
    (cache.retained key).Sublist cache.entries := by
  rcases retained_cases cache key with ⟨_, kept⟩ | ⟨_, _, kept⟩ | ⟨_, _, kept⟩
  · rw [kept]
    exact Assoc.erase_sublist key cache.entries
  · rw [kept]
    exact List.drop_sublist 1 cache.entries
  · simp only [kept, List.Sublist.refl]

theorem not_mem_keys_retained (cache : Cache α) (key : Text) :
    key ∉ (cache.retained key).map (·.1) := by
  rcases retained_cases cache key with ⟨_, kept⟩ | ⟨absent, _, kept⟩ | ⟨absent, _, kept⟩
  · rw [kept]
    exact Assoc.not_mem_keys_erase key cache.entries
  · intro present
    rw [kept] at present
    exact absent (((List.drop_sublist 1 cache.entries).map (·.1)).subset present)
  · rw [kept]
    exact absent

theorem length_retained_lt (room : 1 ≤ cache.maxSize) (bounded : cache.size ≤ cache.maxSize)
    (key : Text) : (cache.retained key).length < cache.maxSize := by
  unfold size at bounded
  rcases retained_cases cache key with ⟨present, kept⟩ | ⟨_, full, kept⟩ | ⟨_, free, kept⟩
  · obtain ⟨⟨_, entry⟩, member, rfl⟩ := List.mem_map.mp present
    rw [kept]
    exact Nat.lt_of_lt_of_le (Assoc.length_erase_lt member) bounded
  · rw [kept, List.length_drop]
    omega
  · rw [kept]
    exact free

theorem entries_apply_subset (unset : ¬ op.Sets key)
    (member : (key, entry) ∈ (op.apply cache).entries) : (key, entry) ∈ cache.entries := by
  cases op with
  | get other now => exact entries_get_subset member
  | set other value now =>
    rcases mem_entries_set member with old | new
    · exact old
    · exact absurd (congrArg Prod.fst new).symm unset
  | clear => cases member
  | stats => exact member

/-! ## What every run keeps -/

/-- What is true of a store after the operations. -/
structure Tracks (lifetime : Number) (maxSize : Nat) (ops : List (Op α)) (cache : Cache α) : Prop where
  lifetime_eq : cache.lifetime = lifetime
  maxSize_eq : cache.maxSize = maxSize
  distinct : cache.keys.Nodup
  bounded : cache.size ≤ cache.maxSize
  lastSet : ∀ key entry, (key, entry) ∈ cache.entries → LastSet ops key entry

variable {lifetime : Number} {maxSize : Nat}

theorem LastSet.concat (known : LastSet ops key entry) (unset : ¬ op.Sets key)
    (kept : op.isClear = false) : LastSet (ops ++ [op]) key entry := by
  obtain ⟨before, after, split, later⟩ := known
  refine ⟨before, after ++ [op], by rw [split]; simp, ?_⟩
  intro next member
  rcases List.mem_append.mp member with old | new
  · exact later next old
  · rw [List.mem_singleton.mp new]
    exact ⟨unset, kept⟩

theorem LastSet.of_set (ops : List (Op α)) (key : Text) (value : α) (now : Number) :
    LastSet (ops ++ [.set key value now]) key ⟨value, now⟩ :=
  ⟨ops, [], rfl, fun _ none => nomatch none⟩

theorem nodup_keys_of_sublist {kept : List (Text × Entry α)} (distinct : cache.keys.Nodup)
    (left : kept.Sublist cache.entries) : (kept.map (·.1)).Nodup := by
  unfold keys at distinct
  exact (left.map (·.1)).nodup distinct

theorem nodup_apply (op : Op α) (distinct : cache.keys.Nodup) : (op.apply cache).keys.Nodup := by
  cases op with
  | get key now =>
    rcases get_cases cache key now with ⟨_, looked⟩ | ⟨entry, _, _, looked⟩ | ⟨entry, _, _, looked⟩
    · simp only [Op.apply, looked]
      exact distinct
    · simp only [Op.apply, looked]
      exact nodup_keys_of_sublist distinct (Assoc.erase_sublist key cache.entries)
    · simp only [Op.apply, looked]
      have others := nodup_keys_of_sublist distinct (Assoc.erase_sublist key cache.entries)
      exact Assoc.nodup_keys_concat others (Assoc.not_mem_keys_erase key cache.entries) entry
  | set key value now =>
    have others := nodup_keys_of_sublist distinct (retained_sublist cache key)
    exact Assoc.nodup_keys_concat others (not_mem_keys_retained cache key) ⟨value, now⟩
  | clear => exact List.nodup_nil
  | stats => exact distinct

theorem size_apply_le (op : Op α) (room : 1 ≤ cache.maxSize) (bounded : cache.size ≤ cache.maxSize) :
    (op.apply cache).size ≤ cache.maxSize := by
  cases op with
  | get key now =>
    rcases get_cases cache key now with ⟨_, looked⟩ | ⟨entry, _, _, looked⟩ | ⟨entry, member, _, looked⟩
    · simp only [Op.apply, looked]
      exact bounded
    · simp only [Op.apply, looked]
      exact Nat.le_trans (Assoc.erase_sublist key cache.entries).length_le bounded
    · simp only [Op.apply, looked, size, List.length_append, List.length_singleton]
      exact Nat.lt_of_lt_of_le (Assoc.length_erase_lt member) bounded
  | set key value now =>
    simp only [Op.apply, size, set, List.length_append, List.length_singleton]
    exact length_retained_lt room bounded key
  | clear => exact Nat.zero_le _
  | stats => exact bounded

theorem settings_apply (op : Op α) (cache : Cache α) :
    (op.apply cache).lifetime = cache.lifetime ∧ (op.apply cache).maxSize = cache.maxSize := by
  cases op with
  | get key now =>
    rcases get_cases cache key now with ⟨_, looked⟩ | ⟨_, _, _, looked⟩ | ⟨_, _, _, looked⟩
    all_goals simp only [Op.apply, looked, and_self]
  | set key value now => exact ⟨rfl, rfl⟩
  | clear => exact ⟨rfl, rfl⟩
  | stats => exact ⟨rfl, rfl⟩

theorem lastSet_apply (op : Op α)
    (known : ∀ key entry, (key, entry) ∈ cache.entries → LastSet ops key entry)
    (member : (key, entry) ∈ (op.apply cache).entries) : LastSet (ops ++ [op]) key entry := by
  cases op with
  | get other now => exact (known key entry (entries_get_subset member)).concat id rfl
  | set other value now =>
    rcases List.mem_append.mp member with old | new
    · have differ : ¬ (Op.set other value now).Sets key := by
        intro same
        cases same
        exact not_mem_keys_retained cache key (List.mem_map_of_mem (f := (·.1)) old)
      exact (known key entry (retained_subset old)).concat differ rfl
    · cases List.mem_singleton.mp new
      exact LastSet.of_set ops key value now
  | clear => cases member
  | stats => exact (known key entry member).concat id rfl

theorem Tracks.step (tracks : Tracks lifetime maxSize ops cache) (room : 1 ≤ maxSize) (op : Op α) :
    Tracks lifetime maxSize (ops ++ [op]) (op.apply cache) where
  lifetime_eq := (settings_apply op cache).1.trans tracks.lifetime_eq
  maxSize_eq := (settings_apply op cache).2.trans tracks.maxSize_eq
  distinct := nodup_apply op tracks.distinct
  bounded := by
    rw [(settings_apply op cache).2]
    exact size_apply_le op (tracks.maxSize_eq ▸ room) tracks.bounded
  lastSet := fun _ _ member => lastSet_apply op tracks.lastSet member

theorem tracks_run (start : Cache α) (empty : start.entries = []) (room : 1 ≤ start.maxSize)
    (ops : List (Op α)) : Tracks start.lifetime start.maxSize ops (start.run ops) := by
  induction ops using List.reverseRecOn with
  | nil =>
    constructor
    · rfl
    · rfl
    · simp [run, keys, empty]
    · simp [run, size, empty]
    · intro key entry member
      simp [run, empty] at member
  | append_singleton ops op ih =>
    rw [run_concat]
    exact ih.step room op

theorem Tracks.lastSet_of_found (tracks : Tracks lifetime maxSize ops cache) {now : Number} {value : α}
    (found : (cache.get key now).1 = some value) :
    ∃ setAt, LastSet ops key ⟨value, setAt⟩ ∧ lifetime.lt (now.sub setAt) = false := by
  rcases get_cases cache key now with ⟨_, looked⟩ | ⟨_, _, _, looked⟩ | ⟨entry, member, current, looked⟩
  · rw [looked] at found
    cases found
  · rw [looked] at found
    cases found
  · rw [looked] at found
    cases found
    rw [tracks.lifetime_eq] at current
    exact ⟨entry.setAt, tracks.lastSet key entry member, current⟩

theorem not_mem_keys_of_missed {now : Number} (missed : (cache.get key now).1 = none) :
    key ∉ (cache.get key now).2.keys := by
  rcases get_cases cache key now with ⟨absent, looked⟩ | ⟨_, _, _, looked⟩ | ⟨_, _, _, looked⟩
  · rw [looked]
    exact absent
  · rw [looked]
    exact Assoc.not_mem_keys_erase key cache.entries
  · rw [looked] at missed
    cases missed

theorem not_mem_keys_run (absent : key ∉ cache.keys) (more : List (Op α))
    (unset : ∀ op ∈ more, ¬ op.Sets key) : key ∉ (cache.run more).keys := by
  induction more using List.reverseRecOn with
  | nil => exact absent
  | append_singleton more op ih =>
    rw [run_concat]
    intro present
    obtain ⟨⟨_, entry⟩, member, rfl⟩ := List.mem_map.mp present
    have still := ih fun next earlier => unset next (List.mem_append_left _ earlier)
    have before := entries_apply_subset (unset op (List.mem_append_right _ List.mem_cons_self)) member
    exact still (List.mem_map_of_mem (f := (·.1)) before)

theorem get_of_not_mem_keys (absent : key ∉ cache.keys) (now : Number) :
    (cache.get key now).1 = none := by
  rcases get_cases cache key now with ⟨_, looked⟩ | ⟨_, _, _, looked⟩ | ⟨entry, member, _, _⟩
  · rw [looked]
  · rw [looked]
  · exact absurd (List.mem_map_of_mem (f := (·.1)) member) absent

/-! ## What is counted -/

/-- Hits and misses split the look-ups since the store was cleared. -/
structure Counts (log : List (Op α × Option α)) (cache : Cache α) : Prop where
  hits : cache.hits = answered (sinceClear log)
  lookups : cache.hits + cache.misses = gets (sinceClear log)

theorem Counts.step {log : List (Op α × Option α)} (counts : Counts log cache) (op : Op α) :
    Counts (log ++ [(op, op.answer cache)]) (op.apply cache) := by
  obtain ⟨hits, lookups⟩ := counts
  cases op with
  | get key now =>
    rcases get_cases cache key now with ⟨_, looked⟩ | ⟨_, _, _, looked⟩ | ⟨_, _, _, looked⟩
    all_goals
      constructor
      · rw [sinceClear_concat log rfl]
        simp [Op.apply, Op.answer, Op.isGet, answered, looked, hits]
      · rw [sinceClear_concat log rfl]
        simp only [Op.apply, Op.answer, Op.isGet, gets, looked, List.countP_append,
          List.countP_singleton, if_true] at lookups ⊢
        omega
  | set key value now =>
    constructor
    · rw [sinceClear_concat log rfl]
      simpa [Op.apply, Op.isGet, answered, set] using hits
    · rw [sinceClear_concat log rfl]
      simpa [Op.apply, Op.isGet, gets, set] using lookups
  | clear =>
    rw [Op.answer]
    constructor
    · rw [sinceClear_concat_clear]
      rfl
    · rw [sinceClear_concat_clear]
      rfl
  | stats =>
    constructor
    · rw [sinceClear_concat log rfl]
      simpa [Op.apply, Op.isGet, answered] using hits
    · rw [sinceClear_concat log rfl]
      simpa [Op.apply, Op.isGet, gets] using lookups

theorem counts_run (start : Cache α) (noHits : start.hits = 0) (noMisses : start.misses = 0)
    (ops : List (Op α)) : Counts (start.answers ops) (start.run ops) := by
  induction ops using List.reverseRecOn with
  | nil =>
    constructor
    · exact noHits
    · change start.hits + start.misses = 0
      rw [noHits, noMisses]
  | append_singleton ops op ih =>
    rw [answers_concat, run_concat]
    exact ih.step op

end Runs

/-- In every run, keys stay apart and the store within its size, what is found was put there by the
last set of its key and has not outlived the lifetime since, what is gone is not found before it is set
again, and the counts are those of the look-ups since the store was last cleared.  The age is compared
as it is computed; a difference of two infinite readings is no number and expires nothing. -/
theorem found_entries_are_current {maxSize : Int} (positive : 1 ≤ maxSize) (lifetime : Number) :
    ∃ start : Cache α, create? maxSize lifetime = some start ∧ ∀ ops : List (Op α),
      (start.run ops).keys.Nodup ∧
      ((start.run ops).size : Int) ≤ maxSize ∧
      (∀ key now value, ((start.run ops).get key now).1 = some value →
        ∃ setAt, LastSet ops key ⟨value, setAt⟩ ∧ lifetime.lt (now.sub setAt) = false ∧
          ((now.sub setAt).compare? lifetime ≠ none → (now.sub setAt).le lifetime = true)) ∧
      (∀ key now, ((start.run ops).get key now).1 = none →
        key ∉ (start.run (ops ++ [.get key now])).keys) ∧
      (start.run (ops ++ [.clear])).keys = [] ∧
      (∀ key, key ∉ (start.run ops).keys → ∀ more : List (Op α), (∀ op ∈ more, ¬ op.Sets key) →
        ∀ now, ((start.run (ops ++ more)).get key now).1 = none) ∧
      (start.run ops).hits = answered (sinceClear (start.answers ops)) ∧
      (start.run ops).hits + (start.run ops).misses = gets (sinceClear (start.answers ops)) := by
  have created : create? (α := α) maxSize lifetime = some ⟨maxSize.toNat, lifetime, [], 0, 0⟩ :=
    if_neg (by omega)
  refine ⟨_, created, ?_⟩
  intro ops
  have tracks := tracks_run ⟨maxSize.toNat, lifetime, [], 0, 0⟩ rfl
    (by change 1 ≤ maxSize.toNat; omega) ops
  have counts := counts_run ⟨maxSize.toNat, lifetime, [], 0, 0⟩ rfl rfl ops
  refine ⟨tracks.distinct, ?_, ?_, ?_, ?_, ?_, counts.hits, counts.lookups⟩
  · have bounded := tracks.bounded
    rw [tracks.maxSize_eq] at bounded
    change _ ≤ maxSize.toNat at bounded
    omega
  · intro key now value found
    obtain ⟨setAt, last, fresh⟩ := tracks.lastSet_of_found found
    exact ⟨setAt, last, fresh, fun comparable => Number.le_of_not_lt comparable fresh⟩
  · intro key now missed
    rw [run_concat]
    exact not_mem_keys_of_missed missed
  · rw [run_concat]
    rfl
  · intro key absent more unset now
    rw [run_append]
    exact get_of_not_mem_keys (not_mem_keys_run absent more unset) now

/-- Reading an entry does not make it live longer. -/
theorem found_entries_are_current_sample :
    (1 : Int) ≤ 2 ∧ ∃ start : Cache Nat, create? 2 (.int 60) = some start ∧
      ((start.run [.set "a" 1 (.int 1000), .get "a" (.int 1050)]).get "a" (.int 1060)).1 = some 1 ∧
      ((start.run [.set "a" 1 (.int 1000), .get "a" (.int 1050)]).get "a" (.int 1061)).1 = none ∧
      (start.run [.set "a" 1 (.int 1000), .get "a" (.int 1050)]).keys.Nodup := by
  obtain ⟨start, created, current⟩ :=
    found_entries_are_current (α := Nat) (show (1 : Int) ≤ 2 by decide) (.int 60)
  refine ⟨by decide, start, created, ?_⟩
  have distinct := (current [.set "a" 1 (.int 1000), .get "a" (.int 1050)]).1
  cases created
  exact ⟨by decide, by decide, distinct⟩

/-- Between two infinite readings no time can be told, and an entry stays current. -/
theorem incomparable_age_is_found :
    let ops : List (Op Nat) := [.set "k" 0 (.real Decimal.infinity)]
    ((Cache.run ⟨1, .int 900, [], 0, 0⟩ ops).get "k" (.real Decimal.infinity)).1 = some 0 ∧
      ∀ setAt, LastSet ops "k" ⟨0, setAt⟩ →
        ((Number.real Decimal.infinity).sub setAt).le (.int 900) = false := by
  refine ⟨by decide, ?_⟩
  rintro setAt ⟨before, after, split, _⟩
  cases before with
  | nil =>
    cases split
    decide
  | cons op rest =>
    have longer := congrArg List.length split
    simp at longer

end Cache

end SpatialQuery
