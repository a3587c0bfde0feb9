import SpatialQuery.Feature.Collection
import SpatialQuery.Proofs.Json.Settled
import SpatialQuery.Proofs.Success

/-!
# What rows say

The JSON value that each cell of a row stands for, said once for all depths.  Fixed rows of values are not
searched for numbers that are not finite; where such a row holds one, the row cannot be written at all, so a
row that is written says what its cells say.
-/

set_option autoImplicit false

namespace SpatialQuery

namespace Cell

mutual

/-- What a cell says: null for a number that is not finite, the nearest double for a decimal, arrays
for lists and for fixed rows of values, and texts for what has no place in JSON. -/
def meaning : Cell → Json
  | .null => .null
  | .bool b => .bool b
  | .num n => if n.isFinite then .num n else .null
  | .text t => .str t
  | .decimal (.finite negative magnitude) =>
    .real (if negative then -magnitude.nearest else magnitude.nearest)
  | .decimal .notFinite => .null
  | .moment iso => .str iso
  | .bytes bs => .str (Text.ofChars (bs.flatMap fun b => Text.hexDigits 2 b.toNat))
  | .span micros => .str (spanText micros)
  | .other s => .str s
  | .list items => .arr (allMeaning items)
  | .tuple items => .arr (allMeaning items)
  | .record fields => .obj (fieldsMeaning fields)

def allMeaning : List Cell → List Json
  | [] => []
  | cell :: rest => meaning cell :: allMeaning rest

def fieldsMeaning : List (Text × Cell) → List (Text × Json)
  | [] => []
  | (key, cell) :: rest => (key, meaning cell) :: fieldsMeaning rest

end

mutual

theorem meaning_ofJson : ∀ j : Json, (ofJson j).meaning = j.finiteOrNull
  | .null | .bool _ | .num _ | .str _ => rfl
  | .arr items => congrArg Json.arr (allMeaning_allOfJson items)
  | .obj members => congrArg Json.obj (fieldsMeaning_fieldsOfJson members)

theorem allMeaning_allOfJson : ∀ items : List Json,
    allMeaning (allOfJson items) = Json.allFiniteOrNull items
  | [] => rfl
  | j :: rest => congrArg₂ List.cons (meaning_ofJson j) (allMeaning_allOfJson rest)

theorem fieldsMeaning_fieldsOfJson : ∀ members : List (Text × Json),
    fieldsMeaning (fieldsOfJson members) = Json.membersFiniteOrNull members
  | [] => rfl
  | (key, j) :: rest =>
    congrArg₂ List.cons (congrArg (key, ·) (meaning_ofJson j)) (fieldsMeaning_fieldsOfJson rest)

end

mutual

theorem meaning_cleaned : ∀ cell : Cell, cell.cleaned.meaning = cell.meaning
  | .null | .bool _ | .text _ | .decimal _ | .moment _ | .bytes _ | .span _ | .other _ | .tuple _ => rfl
  | .num n => by
    rw [cleaned, meaning]
    split
    · rename_i finite
      rw [meaning, if_pos finite]
    · rfl
  | .list items => congrArg Json.arr (allMeaning_allCleaned items)
  | .record fields => congrArg Json.obj (fieldsMeaning_fieldsCleaned fields)

theorem allMeaning_allCleaned : ∀ items : List Cell, allMeaning (allCleaned items) = allMeaning items
  | [] => rfl
  | cell :: rest => congrArg₂ List.cons (meaning_cleaned cell) (allMeaning_allCleaned rest)

theorem fieldsMeaning_fieldsCleaned : ∀ fields : List (Text × Cell),
    fieldsMeaning (fieldsCleaned fields) = fieldsMeaning fields
  | [] => rfl
  | (key, cell) :: rest =>
    congrArg₂ List.cons (congrArg (key, ·) (meaning_cleaned cell)) (fieldsMeaning_fieldsCleaned rest)

end

mutual

/-- The cell is as a database hands it out: its texts hold characters only, and the keys of its records
are distinct. -/
def IsStored : Cell → Prop
  | .text t | .moment t | .other t => t.toString?.isSome = true
  | .list items | .tuple items => AreStored items
  | .record fields => (fields.map (·.1)).Nodup ∧ FieldsAreStored fields
  | _ => True

def AreStored : List Cell → Prop
  | [] => True
  | cell :: rest => IsStored cell ∧ AreStored rest

def FieldsAreStored : List (Text × Cell) → Prop
  | [] => True
  | (key, cell) :: rest => key.toString?.isSome = true ∧ IsStored cell ∧ FieldsAreStored rest

end

theorem keys_fieldsMeaning (fields : List (Text × Cell)) :
    (fieldsMeaning fields).map (·.1) = fields.map (·.1) := by
  induction fields with
  | nil => rfl
  | cons m rest ih => rw [fieldsMeaning, List.map_cons, List.map_cons, ih]

theorem isWhole_ofChars (cs : List Char) : (Text.ofChars cs).IsWhole := by
  refine Text.marksAreWhole_of_characters fun m member => ?_
  obtain ⟨c, _, rfl⟩ := List.mem_map.mp member
  exact ⟨c, rfl⟩

mutual

theorem isSettled_meaning : ∀ {cell : Cell}, cell.IsStored → cell.meaning.IsSettled
  | .null, _ | .bool _, _ | .decimal (.finite _ _), _ | .decimal .notFinite, _ => trivial
  | .num n, _ => by
    rw [meaning]
    split <;> trivial
  | .text _, ordinary | .moment _, ordinary | .other _, ordinary =>
    Text.isWhole_of_ordinary ordinary
  | .bytes _, _ => isWhole_ofChars _
  | .span _, _ => isWhole_ofChars _
  | .list _, stored | .tuple _, stored => areSettled_allMeaning stored
  | .record fields, stored => by
    refine ⟨?_, membersAreSettled_fieldsMeaning stored.2⟩
    rw [keys_fieldsMeaning]
    exact stored.1

theorem areSettled_allMeaning : ∀ {items : List Cell}, AreStored items →
    Json.AreSettled (allMeaning items)
  | [], _ => trivial
  | _ :: _, stored => ⟨isSettled_meaning stored.1, areSettled_allMeaning stored.2⟩

theorem membersAreSettled_fieldsMeaning : ∀ {fields : List (Text × Cell)}, FieldsAreStored fields →
    Json.MembersAreSettled (fieldsMeaning fields)
  | [], _ => trivial
  | (_, _) :: _, stored =>
    ⟨Text.isWhole_of_ordinary stored.1, isSettled_meaning stored.2.1,
      membersAreSettled_fieldsMeaning stored.2.2⟩

end

theorem fieldsAreStored_iff {fields : List (Text × Cell)} :
    FieldsAreStored fields ↔ ∀ m ∈ fields, m.1.toString?.isSome = true ∧ m.2.IsStored := by
  induction fields with
  | nil => simp [FieldsAreStored]
  | cons m rest ih => simp [FieldsAreStored, ih, and_assoc]

end Cell

def Row.IsStored (row : Row) : Prop := (Cell.record row).IsStored

namespace Feature

variable [Stack]

/-- What a property holds: in a list field the list that a text holds, else the cell as it is. -/
def value (listFields : List Text) (column : Text × Cell) : Cell :=
  match column.2 with
  | .text t =>
    match listFields.contains column.1, Json.read (Stack.reading .listField) t with
    | true, .ok (.arr items) => .ofJson (.arr items)
    | _, _ => .text t
  | cell => cell

def rowValue (listFields : List Text) (row : Row) : Cell :=
  .record ((row.filter fun column => column.1 ≠ geometryKey).map fun column =>
    (column.1, value listFields column))

/-- What a property says: in a list field the text of a list says the list, with null for each number
that is not finite. -/
def meaning (listFields : List Text) (column : Text × Cell) : Json := (value listFields column).meaning

def rowMeaning (listFields : List Text) (row : Row) : Json :=
  .obj ((row.filter fun column => column.1 ≠ geometryKey).map fun column =>
    (column.1, meaning listFields column))

theorem meaning_rowValue (listFields : List Text) (row : Row) :
    (rowValue listFields row).meaning = rowMeaning listFields row := by
  have each : ∀ columns : List (Text × Cell),
      Cell.fieldsMeaning (columns.map fun column => (column.1, value listFields column)) =
        columns.map fun column => (column.1, meaning listFields column) := by
    intro columns
    induction columns with
    | nil => rfl
    | cons column rest ih => exact congrArg (_ :: ·) ih
  exact congrArg Json.obj (each _)

theorem listOf?_some {cell : Cell} {items : List Json} (read : listOf? cell = .ok (some items)) :
    ∃ t, cell = .text t ∧ Json.read (Stack.reading .listField) t = .ok (.arr items) := by
  unfold listOf? at read
  split at read
  · rename_i t
    split at read
    · rename_i found
      cases read
      exact ⟨t, rfl, found⟩
    · cases read
    · cases read
  · cases read

theorem listOf?_none {t : Text} (read : listOf? (.text t) = .ok none) (items : List Json) :
    Json.read (Stack.reading .listField) t ≠ .ok (.arr items) := by
  intro found
  rw [listOf?, found] at read
  cases read

theorem value_of_no_list {listFields : List Text} {column : Text × Cell}
    (noList : listFields.contains column.1 = true → ∀ t items, column.2 = .text t →
      Json.read (Stack.reading .listField) t ≠ .ok (.arr items)) :
    value listFields column = column.2 := by
  obtain ⟨key, cell⟩ := column
  unfold value
  dsimp only at noList ⊢
  split
  · rename_i t
    split
    · rename_i items listed found
      exact absurd found (noList listed t items rfl)
    · rfl
  · rfl

theorem property_ok {listFields : List Text} {column m : Text × Cell}
    (read : property listFields column = .ok m) : m = (column.1, value listFields column) := by
  obtain ⟨key, cell⟩ := column
  unfold property at read
  dsimp only at read
  split at read
  · rename_i listed
    split at read
    · cases read
    · rename_i items isList
      cases read
      obtain ⟨t, rfl, found⟩ := listOf?_some isList
      simp only [value, listed, found]
    · rename_i noList
      cases read
      rw [value_of_no_list]
      rintro _ t items rfl
      exact listOf?_none noList items
  · rename_i unlisted
    cases read
    rw [value_of_no_list fun listed => absurd listed unlisted]

theorem properties_ok {listFields : List Text} {row : Row} {c : Cell}
    (read : properties listFields row = .ok c) : c = rowValue listFields row := by
  obtain ⟨fields, each, rfl⟩ := map_eq_ok_iff.mp read
  have same : ∀ {columns fields : List (Text × Cell)},
      List.Forall₂ (fun column m => property listFields column = .ok m) columns fields →
        fields = columns.map fun column => (column.1, value listFields column) := by
    intro columns fields all
    induction all with
    | nil => rfl
    | cons first _ ih => rw [List.map_cons, ← ih, property_ok first]
  exact congrArg Cell.record (same (forall₂_of_mapM each))

theorem isSettled_columnMeaning (listFields : List Text) {column : Text × Cell}
    (stored : column.2.IsStored) : (meaning listFields column).IsSettled := by
  obtain ⟨key, cell⟩ := column
  unfold meaning value
  dsimp only at stored ⊢
  split
  · split
    · rename_i found
      rw [Cell.meaning_ofJson]
      exact Json.isSettled_finiteOrNull (Json.isSettled_of_read stored found)
    · exact Text.isWhole_of_ordinary stored
  · exact Cell.isSettled_meaning stored

theorem isSettled_rowMeaning (listFields : List Text) {row : Row} (stored : row.IsStored) :
    (rowMeaning listFields row).IsSettled := by
  refine ⟨?_, Json.membersAreSettled_iff.mpr fun m member => ?_⟩
  · rw [List.map_map]
    exact ((List.filter_sublist).map _).nodup stored.1
  · obtain ⟨column, kept, rfl⟩ := List.mem_map.mp member
    obtain ⟨ordinary, storedCell⟩ :=
      Cell.fieldsAreStored_iff.mp stored.2 column (List.mem_of_mem_filter kept)
    exact ⟨Text.isWhole_of_ordinary ordinary, isSettled_columnMeaning listFields storedCell⟩

end Feature

end SpatialQuery
