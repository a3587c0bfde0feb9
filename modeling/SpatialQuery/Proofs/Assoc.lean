import SpatialQuery.Assoc

/-!
# Looking keys up

What is found under a key is there.  As long as each key has one member, the order of members does not
matter, and values may be changed and members left out without others being lost.
-/

set_option autoImplicit false

namespace SpatialQuery.Assoc

variable {α β γ : Type} [DecidableEq α]

theorem mem_of_get?_eq_some {key : α} {value : β} {members : List (α × β)}
    (found : get? key members = some value) : (key, value) ∈ members := by
  induction members with
  | nil => cases found
  | cons m rest ih =>
    rw [get?] at found
    split at found
    · rename_i same
      cases found
      rw [← same]
      exact List.mem_cons_self
    · exact List.mem_cons_of_mem _ (ih found)

theorem get?_eq_some_iff {members : List (α × β)} (distinct : (members.map (·.1)).Nodup) {key : α}
    {value : β} : get? key members = some value ↔ (key, value) ∈ members := by
  induction members with
  | nil => simp [get?]
  | cons m rest ih =>
    obtain ⟨first, stored⟩ := m
    obtain ⟨fresh, distinct⟩ := List.nodup_cons.mp distinct
    by_cases same : first = key
    · subst same
      have absent : (first, value) ∉ rest := fun member =>
        fresh (List.mem_map_of_mem (f := (·.1)) member)
      simp [get?, absent, eq_comm]
    · have other : (key, value) ≠ (first, stored) := fun equal => same (congrArg (·.1) equal).symm
      simp [get?, same, ih distinct, Ne.symm same]

theorem get?_perm {members moved : List (α × β)} (perm : members.Perm moved)
    (distinct : (members.map (·.1)).Nodup) (key : α) : get? key moved = get? key members := by
  have distinctMoved : (moved.map (·.1)).Nodup := (perm.map _).nodup_iff.mp distinct
  ext value
  rw [get?_eq_some_iff distinctMoved, get?_eq_some_iff distinct, perm.mem_iff]

theorem get?_append (key : α) (before after : List (α × β)) :
    get? key (before ++ after) = (get? key before).or (get? key after) := by
  induction before with
  | nil => rfl
  | cons m rest ih =>
    rw [List.cons_append, get?, get?]
    split
    · rfl
    · exact ih

theorem get?_map (f : β → γ) (key : α) (members : List (α × β)) :
    get? key (members.map fun m => (m.1, f m.2)) = (get? key members).map f := by
  induction members with
  | nil => rfl
  | cons m rest ih =>
    simp only [List.map_cons, get?]
    split
    · rfl
    · exact ih

theorem get?_filterMap {members : List (α × Option β)} (distinct : (members.map (·.1)).Nodup)
    (key : α) :
    get? key (members.filterMap fun m => m.2.map (m.1, ·)) = (get? key members).bind id := by
  induction members with
  | nil => rfl
  | cons m rest ih =>
    obtain ⟨first, stored⟩ := m
    obtain ⟨fresh, distinctRest⟩ := List.nodup_cons.mp distinct
    have others := ih distinctRest
    cases stored with
    | none =>
      by_cases same : first = key
      · -- The key has no other member, so there is none at all.
        subst same
        have absent : get? first rest = none := by
          cases found : get? first rest with
          | none => rfl
          | some value =>
            exact absurd (List.mem_map_of_mem ((get?_eq_some_iff distinctRest).mp found)) fresh
        simp [get?, others, absent]
      · simp [get?, others, same]
    | some value =>
      simp only [List.filterMap_cons, Option.map_some, get?, others]
      split <;> rfl

theorem get?_insert_self (key : α) (value : β) (members : List (α × β)) :
    get? key (insert key value members) = some value := by
  induction members with
  | nil => simp [insert, get?]
  | cons m rest ih =>
    simp only [insert]
    split
    · simp [get?]
    · rename_i other
      simp [get?, other, ih]

theorem get?_insert_of_ne {key other : α} (differ : other ≠ key) (value : β)
    (members : List (α × β)) : get? key (insert other value members) = get? key members := by
  induction members with
  | nil => simp [insert, get?, differ]
  | cons m rest ih =>
    simp only [insert]
    split
    · rename_i same
      simp [get?, same, differ]
    · simp [get?, ih]

theorem insert_of_fresh {key : α} {members : List (α × β)} (fresh : key ∉ members.map (·.1))
    (value : β) : insert key value members = members ++ [(key, value)] := by
  induction members with
  | nil => rfl
  | cons m rest ih =>
    rw [List.map_cons, List.mem_cons, not_or] at fresh
    rw [insert, if_neg (Ne.symm fresh.1), ih fresh.2, List.cons_append]

theorem settle_of_nodup {members : List (α × β)} (distinct : (members.map (·.1)).Nodup) :
    settle members = members := by
  have collect : ∀ rest settled : List (α × β), ((settled ++ rest).map (·.1)).Nodup →
      rest.foldl (fun settled m => insert m.1 m.2 settled) settled = settled ++ rest := by
    intro rest
    induction rest with
    | nil =>
      intro settled _
      rw [List.append_nil, List.foldl_nil]
    | cons m rest ih =>
      intro settled distinct
      have fresh : m.1 ∉ settled.map (·.1) := by
        intro member
        rw [List.map_append, List.nodup_append] at distinct
        exact distinct.2.2 m.1 member m.1 (by simp) rfl
      have step : settled ++ m :: rest = (settled ++ [m]) ++ rest := by simp
      rw [List.foldl_cons, insert_of_fresh fresh, step]
      rw [step] at distinct
      exact ih (settled ++ [m]) distinct
  exact collect members [] (by simpa using distinct)

theorem keys_insert (key : α) (value : β) (members : List (α × β)) :
    (insert key value members).map (·.1) =
      if key ∈ members.map (·.1) then members.map (·.1) else members.map (·.1) ++ [key] := by
  induction members with
  | nil => rfl
  | cons m rest ih =>
    rw [insert]
    by_cases same : m.1 = key
    · simp [same]
    · rw [if_neg same, List.map_cons, ih, List.map_cons]
      by_cases member : key ∈ rest.map (·.1)
      · rw [if_pos member, if_pos (List.mem_cons_of_mem _ member)]
      · have fresh : key ∉ m.1 :: rest.map (·.1) := by
          rw [List.mem_cons, not_or]
          exact ⟨Ne.symm same, member⟩
        rw [if_neg member, if_neg fresh, List.cons_append]

theorem mem_insert {key : α} {value : β} {members : List (α × β)} {m : α × β}
    (member : m ∈ insert key value members) : m = (key, value) ∨ m ∈ members := by
  induction members with
  | nil => exact Or.inl (List.mem_singleton.mp member)
  | cons first rest ih =>
    rw [insert] at member
    split at member
    · rcases List.mem_cons.mp member with same | later
      · exact Or.inl same
      · exact Or.inr (List.mem_cons_of_mem _ later)
    · rcases List.mem_cons.mp member with same | later
      · exact Or.inr (same ▸ List.mem_cons_self)
      · exact (ih later).imp_right (List.mem_cons_of_mem _)

theorem mem_of_mem_settle {members : List (α × β)} {m : α × β} (member : m ∈ settle members) :
    m ∈ members := by
  have collect : ∀ rest settled : List (α × β),
      m ∈ rest.foldl (fun settled m => insert m.1 m.2 settled) settled → m ∈ settled ∨ m ∈ rest := by
    intro rest
    induction rest with
    | nil => exact fun _ member => Or.inl member
    | cons first rest ih =>
      intro settled member
      rcases ih _ member with inserted | later
      · rcases mem_insert inserted with same | before
        · exact Or.inr (same ▸ List.mem_cons_self)
        · exact Or.inl before
      · exact Or.inr (List.mem_cons_of_mem _ later)
  exact (collect members [] member).resolve_left (by simp)

theorem nodup_settle (members : List (α × β)) : ((settle members).map (·.1)).Nodup := by
  have collect : ∀ rest settled : List (α × β), (settled.map (·.1)).Nodup →
      ((rest.foldl (fun settled m => insert m.1 m.2 settled) settled).map (·.1)).Nodup := by
    intro rest
    induction rest with
    | nil => exact fun _ distinct => distinct
    | cons m rest ih =>
      intro settled distinct
      refine ih _ ?_
      rw [keys_insert]
      split
      · exact distinct
      · rename_i fresh
        rw [List.nodup_append]
        refine ⟨distinct, by simp, ?_⟩
        rintro a inSettled b isKey rfl
        rw [List.mem_singleton] at isKey
        exact fresh (isKey ▸ inSettled)
  exact collect members [] List.nodup_nil

theorem get?_foldl_insert {key : α} {rest : List (α × β)} (fresh : key ∉ rest.map (·.1))
    (settled : List (α × β)) :
    get? key (rest.foldl (fun settled m => insert m.1 m.2 settled) settled) = get? key settled := by
  induction rest generalizing settled with
  | nil => rfl
  | cons m rest ih =>
    rw [List.map_cons, List.mem_cons, not_or] at fresh
    rw [List.foldl_cons, ih fresh.2, get?_insert_of_ne (Ne.symm fresh.1)]

theorem get?_settle {key : α} {value : β} {before after : List (α × β)}
    (last : key ∉ after.map (·.1)) :
    get? key (settle (before ++ (key, value) :: after)) = some value := by
  rw [settle, List.foldl_append, List.foldl_cons, get?_foldl_insert last, get?_insert_self]

theorem get?_settle_of_fresh {key : α} {members : List (α × β)}
    (fresh : key ∉ members.map (·.1)) : get? key (settle members) = none :=
  get?_foldl_insert fresh []

/-! ## Members left out -/

theorem get?_eq_none_iff {key : α} {members : List (α × β)} :
    get? key members = none ↔ key ∉ members.map (·.1) := by
  induction members with
  | nil => simp [get?]
  | cons m rest ih =>
    rw [get?, List.map_cons, List.mem_cons, not_or]
    by_cases same : m.1 = key
    · simp [same]
    · rw [if_neg same, ih]
      exact ⟨fun absent => ⟨Ne.symm same, absent⟩, And.right⟩

theorem erase_sublist (key : α) (members : List (α × β)) : (erase key members).Sublist members :=
  List.filter_sublist

theorem ne_of_mem_erase {key : α} {members : List (α × β)} {m : α × β}
    (member : m ∈ erase key members) : m.1 ≠ key := by
  simpa using (List.mem_filter.mp member).2

theorem not_mem_keys_erase (key : α) (members : List (α × β)) :
    key ∉ (erase key members).map (·.1) := by
  intro present
  obtain ⟨m, member, isKey⟩ := List.mem_map.mp present
  exact ne_of_mem_erase member isKey

theorem length_erase_lt {key : α} {value : β} {members : List (α × β)}
    (member : (key, value) ∈ members) : (erase key members).length < members.length := by
  apply List.length_filter_lt_length_iff_exists.mpr
  exact ⟨(key, value), member, by simp⟩

omit [DecidableEq α] in
theorem nodup_keys_concat {key : α} {members : List (α × β)} (distinct : (members.map (·.1)).Nodup)
    (fresh : key ∉ members.map (·.1)) (value : β) :
    ((members ++ [(key, value)]).map (·.1)).Nodup := by
  rw [List.map_append, List.nodup_append]
  refine ⟨distinct, by simp, ?_⟩
  rintro a inMembers b isKey rfl
  cases List.mem_singleton.mp isKey
  exact fresh inMembers

end SpatialQuery.Assoc
