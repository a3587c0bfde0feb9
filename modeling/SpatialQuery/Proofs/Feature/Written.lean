import SpatialQuery.Proofs.Feature.Body
import SpatialQuery.Proofs.Feature.Facts
import SpatialQuery.Proofs.Json.Outside

/-!
# Which rows are written

A row becomes the text of a feature unless one of three things is in its way: a list field whose text is
nested too deep to be read, a property that is nested too deep for the search or for the writing, or a number
that is not finite where none is searched for.  The last is a number in a fixed row of values, at whatever
depth, or a decimal that is too large for a double.  In every other row each number that is not finite is
written as null.
-/

set_option autoImplicit false

namespace SpatialQuery.Feature

/-! ## Properties -/

theorem mem_columns_iff {row : Row} {column : Text × Cell} :
    column ∈ row.filter (fun column => column.1 ≠ geometryKey) ↔
      column ∈ row ∧ column.1 ≠ geometryKey := by
  rw [List.mem_filter, decide_eq_true_iff]

section

variable [Stack] {listFields : List Text} {row : Row}

def IsUnreadable (listFields : List Text) (column : Text × Cell) (isArray : Bool) : Prop :=
  listFields.contains column.1 = true ∧ ∃ t, column.2 = .text t ∧
    Json.read (Stack.reading .listField) t = .error (.excessive (.nesting isArray))

/-- Why a row is not written. -/
inductive Lapse (listFields : List Text) (row : Row) : Fault → Prop
  | unreadable {column : Text × Cell} {isArray : Bool} (member : column ∈ row)
    (isProperty : column.1 ≠ geometryKey) (deep : IsUnreadable listFields column isArray) :
    Lapse listFields row (.unreadable isArray)
  /-- In lists and records a cell stands deeper than there is room for the search. -/
  | unsearched {cell : Cell} {depth : Nat} (stands : Cell.Stands false cell depth (rowValue listFields row))
      (deep : Stack.searching cell < depth) : Lapse listFields row .tooDeep
  /-- After the search a cell stands deeper than there is room for the writing. -/
  | unwritten {cell : Cell} {depth : Nat}
      (stands : Cell.Stands true cell depth (rowValue listFields row).cleaned)
      (deep : Stack.writing cell < depth) : Lapse listFields row .tooDeep
  | notFinite {column : Text × Cell} (member : column ∈ row) (isProperty : column.1 ≠ geometryKey)
    (offends : column.2.Offends false) : Lapse listFields row .notFinite

def IsWritable (listFields : List Text) (row : Row) : Prop := ∀ fault, ¬ Lapse listFields row fault

theorem listOf?_error {cell : Cell} {fault : Fault} (failed : listOf? cell = .error fault) :
    ∃ t isArray, cell = .text t ∧ fault = .unreadable isArray ∧
      Json.read (Stack.reading .listField) t = .error (.excessive (.nesting isArray)) := by
  unfold listOf? at failed
  split at failed
  · rename_i t
    split at failed
    · cases failed
    · rename_i isArray read
      cases failed
      exact ⟨t, isArray, rfl, rfl, read⟩
    · cases failed
  · cases failed

theorem property_error {column : Text × Cell} {fault : Fault}
    (failed : property listFields column = .error fault) :
    ∃ isArray, fault = .unreadable isArray ∧ IsUnreadable listFields column isArray := by
  unfold property at failed
  split at failed
  · rename_i listed
    split at failed
    · rename_i inner
      cases failed
      obtain ⟨t, isArray, isText, rfl, read⟩ := listOf?_error inner
      exact ⟨isArray, rfl, listed, t, isText, read⟩
    · cases failed
    · cases failed
  · cases failed

theorem not_isUnreadable_of_property {column m : Text × Cell}
    (read : property listFields column = .ok m) (isArray : Bool) :
    ¬ IsUnreadable listFields column isArray := by
  obtain ⟨key, cell⟩ := column
  rintro ⟨listed, t, rfl, failed⟩
  rw [property, if_pos listed] at read
  simp only [listOf?, failed] at read
  cases read

/-- A text offends nowhere, and neither does a list that is read from one. -/
theorem offends_value_iff {column : Text × Cell} :
    (value listFields column).Offends false ↔ column.2.Offends false := by
  obtain ⟨key, cell⟩ := column
  unfold value
  dsimp only
  split
  · split
    · refine iff_of_false (Cell.not_offends_ofJson _) ?_
      rintro ⟨⟩
    · rfl
  · rfl

/-! ## Rows -/

theorem offends_rowValue_iff :
    (rowValue listFields row).Offends false ↔ Lapse listFields row .notFinite := by
  rw [rowValue, Cell.offends_record_iff]
  constructor
  · rintro ⟨field, inRow, offends⟩
    obtain ⟨column, kept, rfl⟩ := List.mem_map.mp inRow
    obtain ⟨member, isProperty⟩ := mem_columns_iff.mp kept
    exact .notFinite member isProperty (offends_value_iff.mp offends)
  · rintro ⟨⟩
    exact ⟨_, List.mem_map_of_mem (mem_columns_iff.mpr ⟨‹_›, ‹_›⟩), offends_value_iff.mpr ‹_›⟩

theorem properties_error {fault : Fault} (failed : properties listFields row = .error fault) :
    Lapse listFields row fault := by
  unfold properties at failed
  cases collected : (row.filter fun column => column.1 ≠ geometryKey).mapM (property listFields) with
  | ok members =>
    rw [collected] at failed
    cases failed
  | error other =>
    rw [collected] at failed
    cases failed
    obtain ⟨column, kept, fails⟩ := exists_of_mapM_error collected
    obtain ⟨member, isProperty⟩ := mem_columns_iff.mp kept
    obtain ⟨isArray, rfl, deep⟩ := property_error fails
    exact .unreadable member isProperty deep

theorem readable_of_properties {c : Cell} (read : properties listFields row = .ok c) (isArray : Bool) :
    ¬ Lapse listFields row (.unreadable isArray) := by
  obtain ⟨fields, each, -⟩ := map_eq_ok_iff.mp read
  rintro ⟨⟩
  obtain ⟨m, written⟩ := exists_of_mapM each _ (mem_columns_iff.mpr ⟨‹_›, ‹_›⟩)
  exact not_isUnreadable_of_property written isArray ‹_›

theorem not_fits_rowValue (deep : ¬ Fits (rowValue listFields row)) :
    Lapse listFields row .tooDeep := by
  have stray : ∀ {room : Cell → Nat} {through : Bool} {cell : Cell},
      ¬ cell.StaysWithin room through 0 → ∃ inner below, Cell.Stands through inner below cell ∧
        room inner < below := by
    intro room through cell strays
    simp only [Cell.StaysWithin, Nat.zero_add, not_forall, Nat.not_le] at strays
    obtain ⟨inner, below, stands, deep⟩ := strays
    exact ⟨inner, below, stands, deep⟩
  rcases not_and_or.mp deep with unsearched | unwritten
  · obtain ⟨inner, below, stands, deep⟩ := stray unsearched
    exact .unsearched stands deep
  · obtain ⟨inner, below, stands, deep⟩ := stray unwritten
    exact .unwritten stands deep

theorem not_deep_of_fits (fits : Fits (rowValue listFields row)) : ¬ Lapse listFields row .tooDeep := by
  rintro (_ | ⟨stands, deep⟩ | ⟨stands, deep⟩)
  · have within := fits.1 _ _ stands
    omega
  · have within := fits.2 _ _ stands
    omega

/-- Three texts around the geometry and the properties, which are JSON.  Where the geometry is JSON as well,
so is the whole. -/
structure IsFeatureText (listFields : List Text) (row : Row) (t : Text) : Prop where
  assembled : ∃ properties : Text,
    t = "\x7b\"type\":\"Feature\",\"geometry\":" ++ geometryText row ++ ",\"properties\":" ++
      properties ++ "\x7d" ∧
    Json.Denotes properties (rowMeaning listFields row).told ∧ Json.NamesNoSpecial properties
  denotes : ∀ g, IsGeometry row g →
    Json.Denotes t (featureJson g (rowMeaning listFields row).told) ∧ Json.NamesNoSpecial t

theorem isFeatureText {t : Text} (written : text listFields row = .ok t) :
    IsFeatureText listFields row t := by
  constructor
  · unfold text at written
    obtain ⟨value, collected, more⟩ := (bind_ok_iff ..).mp written
    obtain ⟨properties, printed, last⟩ := (bind_ok_iff ..).mp more
    cases last
    have denotes : Json.Denotes properties (rowMeaning listFields row).told := by
      rw [← meaning_rowValue, ← properties_ok collected]
      exact spells_write printed
    exact ⟨properties, rfl, denotes, denotes.namesNoSpecial⟩
  · intro g isGeometry
    have denotes : Json.Denotes t (featureJson g (rowMeaning listFields row).told) :=
      (spells_text written isGeometry).bare
    exact ⟨denotes, denotes.namesNoSpecial⟩

/-- The cases come in the order of writing: what is read, how deep it is, and then its numbers. -/
theorem text_cases (listFields : List Text) (row : Row) :
    (∃ fault, text listFields row = .error fault ∧ Lapse listFields row fault) ∨
      (∃ t, text listFields row = .ok t) ∧ IsWritable listFields row := by
  cases collected : properties listFields row with
  | error fault =>
    exact .inl ⟨fault, by rw [text, collected]; rfl, properties_error collected⟩
  | ok value =>
    have readable := readable_of_properties collected
    rw [properties_ok collected] at collected
    have comes := write_comes (rowValue listFields row)
    cases printed : write (rowValue listFields row) with
    | error fault =>
      rw [printed] at comes
      refine .inl ⟨fault, by rw [text, collected]; simp only [bind, Except.bind, printed], ?_⟩
      cases comes with
      | tooDeep deep => exact not_fits_rowValue deep
      | notFinite offends => exact offends_rowValue_iff.mp offends
    | ok properties =>
      obtain ⟨-, fits, sound⟩ := comes.ok printed
      refine .inr ⟨⟨_, (bind_ok_iff ..).mpr ⟨_, collected, (bind_ok_iff ..).mpr ⟨_, printed, rfl⟩⟩⟩, ?_⟩
      intro fault lapse
      cases lapse with
      | unreadable member isProperty deep => exact readable _ (.unreadable member isProperty deep)
      | unsearched stands deep => exact not_deep_of_fits fits (.unsearched stands deep)
      | unwritten stands deep => exact not_deep_of_fits fits (.unwritten stands deep)
      | notFinite member isProperty offends =>
        exact sound (offends_rowValue_iff.mpr (.notFinite member isProperty offends))

theorem exists_text (writable : IsWritable listFields row) : ∃ t, text listFields row = .ok t := by
  rcases text_cases listFields row with ⟨fault, -, lapse⟩ | ⟨written, -⟩
  · exact absurd lapse (writable fault)
  · exact written

theorem exists_allText {rows : List Row} (writable : ∀ row ∈ rows, IsWritable listFields row) :
    ∃ features, allText listFields rows = .ok features := by
  obtain ⟨texts, written⟩ := exists_mapM fun row member => exists_text (writable row member)
  exact ⟨_, map_eq_ok_iff.mpr ⟨texts, written, rfl⟩⟩

/-- A row is written unless something is in its way, and the fault tells what.  What is written has null for
each number that is not finite, at any depth. -/
theorem text_written_unless_lapse (listFields : List Text) (row : Row) :
    (∃ fault, text listFields row = .error fault ∧ Lapse listFields row fault) ∨
      ∃ t, text listFields row = .ok t ∧ (∀ fault, ¬ Lapse listFields row fault) ∧
        IsFeatureText listFields row t := by
  rcases text_cases listFields row with lapse | ⟨⟨t, written⟩, writable⟩
  · exact .inl lapse
  · exact .inr ⟨t, written, writable, isFeatureText written⟩

end

section

open Stack.Usual

/-- Taken out of a list, a number that is not finite stays in a fixed row of values; a decimal can be too
large wherever it stands. -/
theorem numbers_in_the_way :
    text [] [("a", .list [.num (.real Decimal.notANumber)])] =
      .ok "\x7b\"type\":\"Feature\",\"geometry\":null,\"properties\":\x7b\"a\": [null]\x7d\x7d" ∧
    text [] [("a", .tuple [.num (.real Decimal.notANumber)])] = .error .notFinite ∧
    text [] [("a", .decimal (.finite false ⟨1, 400⟩))] = .error .notFinite := by
  decide +kernel

end

end SpatialQuery.Feature
