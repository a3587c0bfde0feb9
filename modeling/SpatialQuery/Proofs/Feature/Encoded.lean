import SpatialQuery.Proofs.Feature.Meaning
import SpatialQuery.Proofs.Json.Nesting

/-!
# What can be written

A value comes to a text unless something is in its way: it is nested deeper than there is room for the search
or for the writing, or it holds a number that is not finite where none is searched for.  Such a number stands
in a fixed row of values, at whatever depth, or it is a decimal that is too large for a double.
-/

set_option autoImplicit false

namespace SpatialQuery

namespace Cell

/-! ## Numbers that nothing takes out -/

/-- A number that is not finite stands in the cell where none is searched for; the flag says that the cell
itself stands in a fixed row of values. -/
inductive Offends : Bool → Cell → Prop
  | number {n : Number} (notFinite : n.isFinite = false) : Offends true (.num n)
  /-- The nearest double to the decimal is infinite. -/
  | decimal {fixed : Bool} {d : DecimalValue} (tooLarge : (decimalJson d).isFinite = false) :
    Offends fixed (.decimal d)
  | item {fixed : Bool} {items : List Cell} {cell : Cell} (member : cell ∈ items)
    (offends : Offends fixed cell) : Offends fixed (.list items)
  | place {fixed : Bool} {items : List Cell} {cell : Cell} (member : cell ∈ items)
    (offends : Offends true cell) : Offends fixed (.tuple items)
  | field {fixed : Bool} {fields : List (Text × Cell)} {field : Text × Cell}
    (member : field ∈ fields) (offends : Offends fixed field.2) : Offends fixed (.record fields)

theorem offends_num_iff {fixed : Bool} {n : Number} :
    Offends fixed (.num n) ↔ fixed = true ∧ n.isFinite = false := by
  constructor
  · rintro ⟨⟩
    exact ⟨rfl, ‹_›⟩
  · rintro ⟨rfl, notFinite⟩
    exact .number notFinite

theorem offends_list_iff {fixed : Bool} {items : List Cell} :
    Offends fixed (.list items) ↔ ∃ cell ∈ items, Offends fixed cell := by
  constructor
  · rintro ⟨⟩
    exact ⟨_, ‹_›, ‹_›⟩
  · rintro ⟨cell, member, offends⟩
    exact .item member offends

theorem offends_tuple_iff {fixed : Bool} {items : List Cell} :
    Offends fixed (.tuple items) ↔ ∃ cell ∈ items, Offends true cell := by
  constructor
  · rintro ⟨⟩
    exact ⟨_, ‹_›, ‹_›⟩
  · rintro ⟨cell, member, offends⟩
    exact .place member offends

theorem offends_record_iff {fixed : Bool} {fields : List (Text × Cell)} :
    Offends fixed (.record fields) ↔ ∃ field ∈ fields, Offends fixed field.2 := by
  constructor
  · rintro ⟨⟩
    exact ⟨_, ‹_›, ‹_›⟩
  · rintro ⟨field, member, offends⟩
    exact .field member offends

mutual

/-- The search takes out what can be taken out: whatever is left offends. -/
theorem offends_cleaned_iff : ∀ cell : Cell, cell.cleaned.Offends true ↔ cell.Offends false
  | .null | .bool _ | .text _ | .moment _ | .bytes _ | .span _ | .other _ => ⟨nofun, nofun⟩
  | .decimal d => ⟨fun | .decimal tooLarge => .decimal tooLarge, fun | .decimal tooLarge => .decimal tooLarge⟩
  | .num n => by
    refine iff_of_false ?_ nofun
    rw [cleaned]
    split
    · rename_i finite
      exact fun offends => Bool.noConfusion (finite.symm.trans (offends_num_iff.mp offends).2)
    · nofun
  | .list items => by
    rw [cleaned, offends_list_iff, offends_list_iff, offends_allCleaned_iff items]
  | .tuple items => by rw [cleaned, offends_tuple_iff, offends_tuple_iff] <;> nofun
  | .record fields => by
    rw [cleaned, offends_record_iff, offends_record_iff, offends_fieldsCleaned_iff fields]

theorem offends_allCleaned_iff : ∀ items : List Cell,
    (∃ cell ∈ allCleaned items, Offends true cell) ↔ ∃ cell ∈ items, Offends false cell
  | [] => ⟨nofun, nofun⟩
  | cell :: rest => by
    rw [allCleaned, List.exists_mem_cons_iff, List.exists_mem_cons_iff, offends_cleaned_iff cell,
      offends_allCleaned_iff rest]

theorem offends_fieldsCleaned_iff : ∀ fields : List (Text × Cell),
    (∃ field ∈ fieldsCleaned fields, Offends true field.2) ↔ ∃ field ∈ fields, Offends false field.2
  | [] => ⟨nofun, nofun⟩
  | (key, cell) :: rest => by
    rw [fieldsCleaned, List.exists_mem_cons_iff, List.exists_mem_cons_iff, offends_cleaned_iff cell,
      offends_fieldsCleaned_iff rest]

end

mutual

theorem offends_of_meaning (fixed : Bool) : ∀ {cell : Cell}, cell.meaning.isFinite = false → cell.Offends fixed
  | .num n, notFinite => by
    rw [meaning] at notFinite
    split at notFinite
    · rename_i finite
      exact Bool.noConfusion (finite.symm.trans notFinite)
    · cases notFinite
  | .decimal (.finite _ _), notFinite => .decimal notFinite
  | .list _, notFinite => offends_list_iff.mpr (offends_of_allMeaning fixed notFinite)
  | .tuple _, notFinite => offends_tuple_iff.mpr (offends_of_allMeaning true notFinite)
  | .record _, notFinite => offends_record_iff.mpr (offends_of_fieldsMeaning fixed notFinite)

theorem offends_of_allMeaning (fixed : Bool) : ∀ {items : List Cell},
    Json.areFinite (allMeaning items) = false → ∃ cell ∈ items, cell.Offends fixed
  | cell :: rest, notFinite => by
    rw [List.exists_mem_cons_iff]
    rcases Bool.and_eq_false_iff.mp notFinite with first | later
    · exact .inl (offends_of_meaning fixed first)
    · exact .inr (offends_of_allMeaning fixed later)

theorem offends_of_fieldsMeaning (fixed : Bool) : ∀ {fields : List (Text × Cell)},
    Json.membersAreFinite (fieldsMeaning fields) = false → ∃ field ∈ fields, field.2.Offends fixed
  | (key, cell) :: rest, notFinite => by
    rw [List.exists_mem_cons_iff]
    rcases Bool.and_eq_false_iff.mp notFinite with first | later
    · exact .inl (offends_of_meaning fixed first)
    · exact .inr (offends_of_fieldsMeaning fixed later)

end

mutual

theorem not_offends_ofJson : ∀ j : Json, ¬ (ofJson j).Offends false
  | .null | .bool _ | .num _ | .str _ => nofun
  | .arr items => fun offends => not_offends_allOfJson items (offends_list_iff.mp offends)
  | .obj members => fun offends => not_offends_fieldsOfJson members (offends_record_iff.mp offends)

theorem not_offends_allOfJson : ∀ items : List Json, ¬ ∃ cell ∈ allOfJson items, cell.Offends false
  | [] => nofun
  | j :: rest => by
    rw [allOfJson, List.exists_mem_cons_iff]
    exact not_or.mpr ⟨not_offends_ofJson j, not_offends_allOfJson rest⟩

theorem not_offends_fieldsOfJson : ∀ members : List (Text × Json),
    ¬ ∃ field ∈ fieldsOfJson members, field.2.Offends false
  | [] => nofun
  | (key, j) :: rest => by
    rw [fieldsOfJson, List.exists_mem_cons_iff]
    exact not_or.mpr ⟨not_offends_ofJson j, not_offends_fieldsOfJson rest⟩

end

/-! ## Where cells stand -/

/-- What stands directly in a cell; the flag says whether fixed rows of values are gone into. -/
def parts (through : Bool) : Cell → List Cell
  | .list items => items
  | .record fields => fields.map (·.2)
  | .tuple items => if through then items else []
  | _ => []

/-- A cell stands so deep in another one. -/
inductive Stands (through : Bool) (inner : Cell) : Nat → Cell → Prop
  | itself : Stands through inner 0 inner
  | part {depth : Nat} {part cell : Cell} (member : part ∈ cell.parts through)
    (stands : Stands through inner depth part) : Stands through inner (depth + 1) cell

variable {through : Bool}

/-- Where the cell stands so deep, nothing in it stands deeper than there is room for. -/
def StaysWithin (room : Cell → Nat) (through : Bool) (depth : Nat) (cell : Cell) : Prop :=
  ∀ inner below, Stands through inner below cell → depth + below ≤ room inner

theorem staysWithin_iff {room : Cell → Nat} {depth : Nat} {cell : Cell} :
    cell.StaysWithin room through depth ↔
      depth ≤ room cell ∧ ∀ part ∈ cell.parts through, part.StaysWithin room through (depth + 1) := by
  constructor
  · intro within
    refine ⟨within cell 0 .itself, fun part member inner below stands => ?_⟩
    rw [Nat.add_right_comm, Nat.add_assoc]
    exact within inner (below + 1) (.part member stands)
  · rintro ⟨itself, others⟩ inner below stands
    cases stands with
    | itself => exact itself
    | @part below part _ member stands =>
      have within := others part member inner below stands
      rwa [Nat.add_right_comm, Nat.add_assoc] at within

theorem allCleaned_eq (items : List Cell) : allCleaned items = items.map cleaned := by
  induction items with
  | nil => rfl
  | cons cell rest ih => exact congrArg (cell.cleaned :: ·) ih

theorem fieldsCleaned_eq (fields : List (Text × Cell)) :
    fieldsCleaned fields = fields.map fun field => (field.1, field.2.cleaned) := by
  induction fields with
  | nil => rfl
  | cons field rest ih => exact congrArg ((field.1, field.2.cleaned) :: ·) ih

theorem parts_cleaned {cell part : Cell} (member : part ∈ cell.cleaned.parts through) :
    part ∈ cell.parts through ∨ ∃ own ∈ cell.parts through, part = own.cleaned := by
  cases cell with
  | num n =>
    rw [cleaned] at member
    split at member <;> cases member
  | list items =>
    rw [cleaned, parts, allCleaned_eq] at member
    obtain ⟨own, isOwn, rfl⟩ := List.mem_map.mp member
    exact .inr ⟨own, isOwn, rfl⟩
  | record fields =>
    rw [cleaned, parts, fieldsCleaned_eq, List.map_map] at member
    obtain ⟨field, isOwn, rfl⟩ := List.mem_map.mp member
    exact .inr ⟨field.2, List.mem_map_of_mem isOwn, rfl⟩
  | _ => exact .inl member

/-- Taking numbers out moves nothing. -/
theorem exists_stands_of_cleaned {inner cell : Cell} {below : Nat}
    (stands : Stands through inner below cell.cleaned) : ∃ own, Stands through own below cell := by
  generalize same : cell.cleaned = clean at stands
  induction stands generalizing cell with
  | itself => exact ⟨cell, .itself⟩
  | @part below part clean member stands ih =>
    subst same
    rcases parts_cleaned member with isOwn | ⟨own, isOwn, rfl⟩
    · exact ⟨inner, .part isOwn stands⟩
    · obtain ⟨other, deeper⟩ := ih rfl
      exact ⟨other, .part isOwn deeper⟩

theorem allOfJson_eq (items : List Json) : allOfJson items = items.map ofJson := by
  induction items with
  | nil => rfl
  | cons j rest ih => exact congrArg (ofJson j :: ·) ih

theorem fieldsOfJson_eq (members : List (Text × Json)) :
    fieldsOfJson members = members.map fun m => (m.1, ofJson m.2) := by
  induction members with
  | nil => rfl
  | cons m rest ih => exact congrArg ((m.1, ofJson m.2) :: ·) ih

theorem exists_of_mem_parts_ofJson {j : Json} {part : Cell} (member : part ∈ (ofJson j).parts through) :
    ∃ inner : Json, part = ofJson inner ∧ inner.depth < j.depth := by
  cases j with
  | arr items =>
    rw [ofJson, parts, allOfJson_eq] at member
    obtain ⟨inner, among, rfl⟩ := List.mem_map.mp member
    exact ⟨inner, rfl, Nat.lt_succ_of_le (Json.itemDepth_le_iff.mp (Nat.le_refl _) inner among)⟩
  | obj members =>
    rw [ofJson, parts, fieldsOfJson_eq, List.map_map] at member
    obtain ⟨m, among, rfl⟩ := List.mem_map.mp member
    exact ⟨m.2, rfl, Nat.lt_succ_of_le (Json.memberDepth_le_iff.mp (Nat.le_refl _) m among)⟩
  | _ => cases member

theorem below_le_depth {inner : Cell} {j : Json} {below : Nat}
    (stands : Stands through inner below (ofJson j)) : below ≤ j.depth := by
  generalize same : ofJson j = cell at stands
  induction stands generalizing j with
  | itself => exact Nat.zero_le _
  | part member stands ih =>
    subst same
    obtain ⟨part, rfl, deeper⟩ := exists_of_mem_parts_ofJson member
    exact Nat.le_trans (Nat.succ_le_succ (ih rfl)) deeper

end Cell

/-! ## Outcomes -/

namespace Feature

/-- What comes of writing: the result, where it fits and nothing in it offends, or else the fault. -/
inductive Comes {α : Type} (fits offends : Prop) (result : α) : Except Fault α → Prop
  | written (does : fits) (sound : ¬ offends) : Comes fits offends result (.ok result)
  | tooDeep (deep : ¬ fits) : Comes fits offends result (.error .tooDeep)
  | notFinite (does : offends) : Comes fits offends result (.error .notFinite)

namespace Comes

variable {α β : Type} {fits offends fits' offends' : Prop} {a : α} {b : β}

theorem congr {outcome : Except Fault α} (comes : Comes fits offends a outcome) (same : fits ↔ fits')
    (alike : offends ↔ offends') : Comes fits' offends' a outcome := by
  rw [← propext same, ← propext alike]
  exact comes

theorem map {outcome : Except Fault α} (comes : Comes fits offends a outcome) (f : α → β) :
    Comes fits offends (f a) (outcome.map f) := by
  cases comes with
  | written does sound => exact .written does sound
  | tooDeep deep => exact .tooDeep deep
  | notFinite does => exact .notFinite does

theorem both {γ : Type} {first : Except Fault α} {second : Except Fault β}
    (comes : Comes fits offends a first) (later : Comes fits' offends' b second) (f : α → β → γ) :
    Comes (fits ∧ fits') (offends ∨ offends') (f a b) (do return f (← first) (← second)) := by
  cases comes with
  | tooDeep deep => exact .tooDeep fun both => deep both.1
  | notFinite does => exact .notFinite (.inl does)
  | written does sound =>
    cases later with
    | tooDeep deep => exact .tooDeep fun both => deep both.2
    | notFinite does => exact .notFinite (.inr does)
    | written does' sound' => exact .written ⟨does, does'⟩ (not_or.mpr ⟨sound, sound'⟩)

theorem ok {outcome : Except Fault α} (comes : Comes fits offends a outcome) {result : α}
    (written : outcome = .ok result) : result = a ∧ fits ∧ ¬ offends := by
  subst written
  cases comes with
  | written does sound => exact ⟨rfl, does, sound⟩

end Comes

variable [Stack]

theorem standing_comes {depth : Nat} {cell : Cell} {outcome : Except Fault Json}
    (comes : Comes (∀ part ∈ cell.parts true, part.StaysWithin Stack.writing true (depth + 1))
      (cell.Offends true) cell.meaning outcome) :
    Comes (cell.StaysWithin Stack.writing true depth) (cell.Offends true) cell.meaning
      (if Stack.writing cell < depth then .error .tooDeep else outcome) := by
  split
  · rename_i deep
    exact .tooDeep fun within => Nat.not_le.mpr deep (Cell.staysWithin_iff.mp within).1
  · rename_i room
    exact comes.congr ((and_iff_right (Nat.not_lt.mp room)).symm.trans Cell.staysWithin_iff.symm) Iff.rfl

theorem plain_comes {depth : Nat} {cell : Cell} {j : Json} (noParts : cell.parts true = [])
    (sound : ¬ cell.Offends true) (means : cell.meaning = j) :
    Comes (∀ part ∈ cell.parts true, part.StaysWithin Stack.writing true (depth + 1))
      (cell.Offends true) cell.meaning (.ok j) := by
  rw [noParts, ← means]
  exact .written nofun sound

theorem number_comes {depth : Nat} {cell : Cell} {j : Json} (noParts : cell.parts true = [])
    (offends : cell.Offends true ↔ j.isFinite = false) (means : j.isFinite = true → cell.meaning = j) :
    Comes (∀ part ∈ cell.parts true, part.StaysWithin Stack.writing true (depth + 1))
      (cell.Offends true) cell.meaning (finite j) := by
  unfold finite
  split
  · rename_i isFinite
    exact plain_comes noParts (fun contrary => Bool.noConfusion (isFinite.symm.trans (offends.mp contrary)))
      (means isFinite)
  · rename_i notFinite
    exact .notFinite (offends.mpr (Bool.not_eq_true _ ▸ notFinite))

mutual

/-- A cell is written as what it says, unless there is too little room or it offends. -/
theorem encode_comes (depth : Nat) : ∀ cell : Cell,
    Comes (cell.StaysWithin Stack.writing true depth) (cell.Offends true) cell.meaning (encode depth cell)
  | .null => standing_comes (plain_comes rfl nofun rfl)
  | .bool _ => standing_comes (plain_comes rfl nofun rfl)
  | .text _ => standing_comes (plain_comes rfl nofun rfl)
  | .moment _ => standing_comes (plain_comes rfl nofun rfl)
  | .bytes _ => standing_comes (plain_comes rfl nofun rfl)
  | .span _ => standing_comes (plain_comes rfl nofun rfl)
  | .other _ => standing_comes (plain_comes rfl nofun rfl)
  | .num _ =>
    standing_comes (number_comes rfl (Cell.offends_num_iff.trans (and_iff_right rfl)) fun isFinite =>
      if_pos isFinite)
  | .decimal d =>
    standing_comes (number_comes rfl ⟨fun | .decimal tooLarge => tooLarge, .decimal⟩ fun _ => by
      cases d <;> rfl)
  | .list items =>
    standing_comes (((encodeAll_comes (depth + 1) items).map Json.arr).congr Iff.rfl
      Cell.offends_list_iff.symm)
  | .tuple items =>
    standing_comes (((encodeAll_comes (depth + 1) items).map Json.arr).congr Iff.rfl
      Cell.offends_tuple_iff.symm)
  | .record fields =>
    standing_comes (((encodeFields_comes (depth + 1) fields).map Json.obj).congr
      List.forall_mem_map.symm Cell.offends_record_iff.symm)

theorem encodeAll_comes (depth : Nat) : ∀ items : List Cell,
    Comes (∀ cell ∈ items, cell.StaysWithin Stack.writing true depth) (∃ cell ∈ items, cell.Offends true)
      (Cell.allMeaning items) (encodeAll depth items)
  | [] => .written nofun nofun
  | cell :: rest =>
    ((encode_comes depth cell).both (encodeAll_comes depth rest) List.cons).congr
      List.forall_mem_cons.symm (List.exists_mem_cons_iff ..).symm

theorem encodeFields_comes (depth : Nat) : ∀ fields : List (Text × Cell),
    Comes (∀ field ∈ fields, field.2.StaysWithin Stack.writing true depth)
      (∃ field ∈ fields, field.2.Offends true) (Cell.fieldsMeaning fields) (encodeFields depth fields)
  | [] => .written nofun nofun
  | (key, cell) :: rest =>
    ((encode_comes depth cell).both (encodeFields_comes depth rest) fun j members =>
      (key, j) :: members).congr
        (List.forall_mem_cons (p := fun field : Text × Cell => field.2.StaysWithin _ _ _)
          (a := (key, cell))).symm
        (List.exists_mem_cons_iff (fun field => field.2.Offends true) (key, cell) rest).symm

end

mutual

theorem searchable_iff (depth : Nat) : ∀ cell : Cell,
    searchable depth cell = true ↔ cell.StaysWithin Stack.searching false depth
  | .list items => by
    rw [searchable, Bool.and_eq_true, decide_eq_true_iff, Cell.staysWithin_iff, allSearchable_iff]
    rfl
  | .record fields => by
    rw [searchable, Bool.and_eq_true, decide_eq_true_iff, Cell.staysWithin_iff, fieldsSearchable_iff,
      Cell.parts, List.forall_mem_map]
  | .null | .bool _ | .num _ | .text _ | .decimal _ | .moment _ | .bytes _ | .span _ | .other _
  | .tuple _ => by
    rw [searchable, Bool.and_true, decide_eq_true_iff, Cell.staysWithin_iff]
    · exact (and_iff_left nofun).symm
    all_goals nofun

theorem allSearchable_iff (depth : Nat) : ∀ items : List Cell,
    allSearchable depth items = true ↔ ∀ cell ∈ items, cell.StaysWithin Stack.searching false depth
  | [] => iff_of_true rfl nofun
  | cell :: rest => by
    rw [allSearchable, Bool.and_eq_true, List.forall_mem_cons, searchable_iff depth cell,
      allSearchable_iff depth rest]

theorem fieldsSearchable_iff (depth : Nat) : ∀ fields : List (Text × Cell),
    fieldsSearchable depth fields = true ↔
      ∀ field ∈ fields, field.2.StaysWithin Stack.searching false depth
  | [] => iff_of_true rfl nofun
  | (_, cell) :: rest => by
    rw [fieldsSearchable, Bool.and_eq_true, List.forall_mem_cons, searchable_iff depth cell,
      fieldsSearchable_iff depth rest]

end

/-- There is room for the search of a cell and for the writing of what is left of it. -/
def Fits (cell : Cell) : Prop :=
  cell.StaysWithin Stack.searching false 0 ∧ cell.cleaned.StaysWithin Stack.writing true 0

theorem write_comes (cell : Cell) :
    Comes (Fits cell) (cell.Offends false) (Text.ofString (Json.spaced.render cell.meaning))
      (write cell) := by
  unfold write
  split
  · rename_i searched
    have comes := (encode_comes 0 cell.cleaned).map fun j => Text.ofString (Json.spaced.render j)
    rw [Cell.meaning_cleaned] at comes
    exact comes.congr (and_iff_right ((searchable_iff 0 cell).mp searched)).symm
      (Cell.offends_cleaned_iff cell)
  · rename_i unsearched
    exact .tooDeep fun fits => unsearched ((searchable_iff 0 cell).mpr fits.1)

theorem write_ok {cell : Cell} {t : Text} (written : write cell = .ok t) :
    cell.meaning.isFinite = true ∧ t.marks = (Json.spaced.chars cell.meaning).map .char := by
  obtain ⟨rfl, -, sound⟩ := (write_comes cell).ok written
  refine ⟨?_, ?_⟩
  · exact Bool.not_eq_false _ ▸ fun contrary => sound (Cell.offends_of_meaning false contrary)
  · change (String.ofList _).toList.map Mark.char = _
    rw [String.toList_ofList]

theorem exists_write {cell : Cell} (fits : Fits cell) (sound : ¬ cell.Offends false) :
    ∃ t, write cell = .ok t := by
  have comes := write_comes cell
  cases written : write cell with
  | ok t => exact ⟨t, rfl⟩
  | error fault =>
    rw [written] at comes
    cases comes with
    | tooDeep deep => exact absurd fits deep
    | notFinite offends => exact absurd offends sound

theorem exists_write_ofJson {j : Json} (shallow : j.depth ≤ 16) : ∃ t, write (.ofJson j) = .ok t := by
  refine exists_write ⟨fun inner below stands => ?_, fun inner below stands => ?_⟩
    (Cell.not_offends_ofJson j)
  · rw [Nat.zero_add]
    exact ((Cell.below_le_depth stands).trans shallow).trans (Stack.searching_ample inner)
  · obtain ⟨own, stands⟩ := Cell.exists_stands_of_cleaned stands
    rw [Nat.zero_add]
    exact ((Cell.below_le_depth stands).trans shallow).trans (Stack.writing_ample inner)

end Feature

end SpatialQuery
