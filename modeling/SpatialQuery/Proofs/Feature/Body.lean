import SpatialQuery.Proofs.Feature.Encoded
import SpatialQuery.Proofs.Json.Refused

/-!
# Bodies are JSON

The body of an answer is put together from pieces of text.  It is JSON all the same, and it says what the
rows say: a feature for each row, in their order, with the geometry that its text stands for.  A geometry
that no JSON starts like spoils the whole of it.
-/

set_option autoImplicit false

namespace SpatialQuery.Feature

open Json (NoStart Part Spells Quotation)

/-! ## Keys -/

theorem quotation_key (key : String) {marks : List Mark}
    (plain : (Json.quoted key).map Mark.char = marks) : Quotation marks key := by
  have quotation := Json.quotation_quoted key
  rw [plain, Text.rejoined_of_whole (Text.isWhole_ofString key)] at quotation
  exact quotation

theorem spells_literal (word : String) :
    Spells (.element (.str word)) ((Json.quoted word).map Mark.char) :=
  (Spells.string (quotation_key word rfl)).bare

def keyMarks (key : String) : List Mark := (Json.quoted key).map .char ++ [.char ':']

theorem spells_member (key : String) {marks : List Mark} {j : Json}
    (inner : Spells (.element j) marks) : Spells (.member key j) (keyMarks key ++ marks) := by
  have member := Spells.member Json.isBlank_nil (quotation_key key rfl) Json.isBlank_nil inner
  simpa [keyMarks] using member

theorem spells_object (a b c : String) {marksA marksB marksC : List Mark} {x y z : Json}
    (distinct : [(a : Text), b, c].Nodup) (first : Spells (.element x) marksA)
    (second : Spells (.element y) marksB) (third : Spells (.element z) marksC) :
    Spells (.value (.obj [(a, x), (b, y), (c, z)]))
      (.char '\x7b' :: (keyMarks a ++ (marksA ++ (.char ',' :: (keyMarks b ++ (marksB ++
        (.char ',' :: (keyMarks c ++ (marksC ++ [.char '\x7d']))))))))) := by
  have object := Spells.object (.nextMember (spells_member a first)
    (.nextMember (spells_member b second) (.lastMember (spells_member c third))))
  have keys : (List.map (·.1) [((a : Text), x), ((b : Text), y), ((c : Text), z)]).Nodup := distinct
  rw [Assoc.settle_of_nodup keys] at object
  simpa using object

theorem spells_write [Stack] {cell : Cell} {t : Text} (written : write cell = .ok t) :
    Spells (.element cell.meaning.told) t.marks := by
  obtain ⟨finite, marks⟩ := write_ok written
  rw [marks]
  exact (Json.spells_chars Json.isOpen_spaced cell.meaning finite).bare

/-! ## Geometries -/

def geometryCell? (row : Row) : Option Text :=
  match Assoc.get? geometryKey row with
  | some (.text t) => if t.isAllBlank then none else some t
  | _ => none

/-- The geometry that a row says: what its text stands for, null if it has none. -/
def IsGeometry (row : Row) (g : Json) : Prop :=
  match geometryCell? row with
  | some t => Json.Denotes t g
  | none => g = .null

theorem geometryText_eq (row : Row) : geometryText row = (geometryCell? row).getD "null" := by
  unfold geometryText geometryCell?
  generalize Assoc.get? geometryKey row = cell
  rcases cell with _ | cell
  · rfl
  · cases cell with
    | text t =>
      dsimp only
      split <;> rfl
    | _ => rfl

theorem spells_geometry {row : Row} {g : Json} (isGeometry : IsGeometry row g) :
    Spells (.element g) (geometryText row).marks := by
  rw [geometryText_eq]
  unfold IsGeometry at isGeometry
  cases cell : geometryCell? row with
  | some t =>
    rw [cell] at isGeometry
    exact isGeometry
  | none =>
    rw [cell] at isGeometry
    subst isGeometry
    exact Spells.null.bare

theorem exists_geometry {row : Row} (denoted : ∀ t ∈ geometryCell? row, ∃ g, Json.Denotes t g) :
    ∃ g, IsGeometry row g := by
  unfold IsGeometry
  cases cell : geometryCell? row with
  | none => exact ⟨.null, rfl⟩
  | some t => exact denoted t cell

/-! ## Lists of features -/

theorem marks_intercalate (t u : Text) (rest : List Text) :
    (Text.intercalate "," (t :: u :: rest)).marks =
      t.marks ++ .char ',' :: (Text.intercalate "," (u :: rest)).marks := by
  change (t.marks ++ [.char ',']) ++ (Text.intercalate "," (u :: rest)).marks = _
  rw [List.append_assoc, List.singleton_append]

theorem spells_intercalate {features : List Json} {texts : List Text} (some : features ≠ [])
    (each : List.Forall₂ (fun j t => Spells (.value j) t.marks) features texts) :
    Spells (.items features) (Text.intercalate "," texts).marks := by
  induction each with
  | nil => exact absurd rfl some
  | @cons j t features texts first others ih =>
    cases others with
    | nil => exact .lastItem first.bare
    | cons second rest =>
      rw [marks_intercalate]
      exact .nextItem first.bare (ih (List.cons_ne_nil _ _))

theorem spells_features {features : List Json} {texts : List Text}
    (each : List.Forall₂ (fun j t => Spells (.value j) t.marks) features texts) :
    Spells (.value (.arr features))
      (.char '[' :: (Text.intercalate "," texts).marks ++ [.char ']']) := by
  cases each with
  | nil => exact .emptyArray Json.isBlank_nil
  | cons first others => exact .array (spells_intercalate (List.cons_ne_nil _ _) (.cons first others))

theorem isInfix_intercalate {texts : List Text} {t : Text} (member : t ∈ texts) :
    t.marks <:+: (Text.intercalate "," texts).marks := by
  induction texts with
  | nil => cases member
  | cons first rest ih =>
    cases rest with
    | nil =>
      rw [List.mem_singleton.mp member]
      exact List.infix_rfl
    | cons second rest =>
      rw [marks_intercalate]
      rcases List.mem_cons.mp member with rfl | later
      · exact (List.prefix_append _ _).isInfix
      · exact (ih later).trans ((List.suffix_cons _ _).trans (List.suffix_append _ _)).isInfix

/-! ## Features -/

def featureJson (g properties : Json) : Json :=
  .obj [("type", .str "Feature"), ("geometry", g), ("properties", properties)]

def collectionJson (items : List Json) (facts : Json) : Json :=
  .obj [("type", .str "FeatureCollection"), ("features", .arr items), ("metadata", facts)]

section

variable [Stack]

theorem text_ok {listFields : List Text} {row : Row} {t : Text}
    (written : text listFields row = .ok t) : ∃ properties,
      write (rowValue listFields row) = .ok properties ∧
        t.marks = .char '\x7b' :: (keyMarks "type" ++ ((Json.quoted "Feature").map .char ++
          (.char ',' :: (keyMarks "geometry" ++ ((geometryText row).marks ++
            (.char ',' :: (keyMarks "properties" ++ (properties.marks ++ [.char '\x7d'])))))))) := by
  unfold text at written
  obtain ⟨value, collected, more⟩ := (bind_ok_iff ..).mp written
  obtain ⟨properties, printed, last⟩ := (bind_ok_iff ..).mp more
  cases last
  rw [properties_ok collected] at printed
  refine ⟨properties, printed, ?_⟩
  have opening : (Text.ofString "\x7b\"type\":\"Feature\",\"geometry\":").marks =
      .char '\x7b' :: (keyMarks "type" ++ ((Json.quoted "Feature").map Mark.char ++
        .char ',' :: keyMarks "geometry")) := rfl
  have middle : (Text.ofString ",\"properties\":").marks = .char ',' :: keyMarks "properties" := rfl
  change (((Text.ofString _).marks ++ (geometryText row).marks) ++
    (Text.ofString ",\"properties\":").marks ++ properties.marks) ++ [.char '\x7d'] = _
  rw [opening, middle]
  simp only [List.cons_append, List.append_assoc]

theorem spells_text {listFields : List Text} {row : Row} {t : Text}
    (written : text listFields row = .ok t) {g : Json} (isGeometry : IsGeometry row g) :
    Spells (.value (featureJson g (rowMeaning listFields row).told)) t.marks := by
  obtain ⟨properties, printed, marks⟩ := text_ok written
  rw [marks, ← meaning_rowValue]
  exact spells_object "type" "geometry" "properties" (by decide) (spells_literal "Feature")
    (spells_geometry isGeometry) (spells_write printed)

theorem isInfix_geometry {listFields : List Text} {row : Row} {t : Text}
    (written : text listFields row = .ok t) : (geometryText row).marks <:+: t.marks := by
  obtain ⟨properties, -, marks⟩ := text_ok written
  refine ⟨.char '\x7b' :: (keyMarks "type" ++ ((Json.quoted "Feature").map .char ++
    (.char ',' :: keyMarks "geometry"))),
    .char ',' :: (keyMarks "properties" ++ (properties.marks ++ [.char '\x7d'])), ?_⟩
  rw [marks]
  simp only [List.cons_append, List.append_assoc]

/-! ## Bodies -/

/-- The feature says the row, and stands in the body with the text of the geometry as it was. -/
structure Tells (listFields : List Text) (body : Text) (row : Row) (feature : Json) : Prop where
  shape : ∃ g properties, feature = featureJson g properties ∧ IsGeometry row g ∧
    properties = (rowMeaning listFields row).told ∧
    (row.IsStored → properties = rowMeaning listFields row)
  verbatim : ∀ t ∈ geometryCell? row, t.marks <:+: body.marks

theorem exists_features {listFields : List Text} {body : Text} {rows : List Row} {texts : List Text}
    (written : List.Forall₂ (fun row t => text listFields row = .ok t) rows texts)
    (within : ∀ t ∈ texts, t.marks <:+: body.marks)
    (geometries : ∀ row ∈ rows, ∀ t ∈ geometryCell? row, ∃ g, Json.Denotes t g) :
    ∃ features, List.Forall₂ (Tells listFields body) rows features ∧
      List.Forall₂ (fun j t => Spells (.value j) t.marks) features texts := by
  induction written with
  | nil => exact ⟨[], .nil, .nil⟩
  | @cons row t rows texts first others ih =>
    obtain ⟨withinFirst, withinOthers⟩ := List.forall_mem_cons.mp within
    obtain ⟨denoted, denotedOthers⟩ := List.forall_mem_cons.mp geometries
    obtain ⟨features, told, spells⟩ := ih withinOthers denotedOthers
    obtain ⟨g, isGeometry⟩ := exists_geometry denoted
    refine ⟨_, .cons ⟨⟨g, _, rfl, isGeometry, rfl, ?_⟩, ?_⟩ told,
      .cons (spells_text first isGeometry) spells⟩
    · exact fun stored => Json.told_eq (isSettled_rowMeaning listFields stored)
    · intro cell given
      have stands := (isInfix_geometry first).trans withinFirst
      rw [geometryText_eq, Option.mem_def.mp given] at stands
      exact stands

theorem collection_ok {features body : Text} {facts : Json}
    (answered : collection features facts = .ok body) : ∃ factsText, write (.ofJson facts) = .ok factsText ∧
      body.marks = .char '\x7b' :: (keyMarks "type" ++ ((Json.quoted "FeatureCollection").map .char ++
        (.char ',' :: (keyMarks "features" ++ ((.char '[' :: features.marks ++ [.char ']']) ++
          (.char ',' :: (keyMarks "metadata" ++ (factsText.marks ++ [.char '\x7d'])))))))) := by
  unfold collection enclose at answered
  obtain ⟨factsText, printed, last⟩ := (bind_ok_iff ..).mp answered
  cases last
  refine ⟨factsText, printed, ?_⟩
  have opening : (Text.ofString "\x7b\"type\":\"FeatureCollection\",\"features\":[").marks =
      .char '\x7b' :: (keyMarks "type" ++ ((Json.quoted "FeatureCollection").map Mark.char ++
        .char ',' :: (keyMarks "features" ++ [.char '[']))) := rfl
  have middle : (Text.ofString "],\"metadata\":").marks =
      .char ']' :: .char ',' :: keyMarks "metadata" := rfl
  change (((Text.ofString _).marks ++ features.marks) ++
    (Text.ofString "],\"metadata\":").marks ++ factsText.marks) ++ [.char '\x7d'] = _
  rw [opening, middle]
  simp only [List.cons_append, List.append_assoc, List.nil_append]

theorem isInfix_features {features body : Text} {facts : Json}
    (answered : collection features facts = .ok body) : features.marks <:+: body.marks := by
  obtain ⟨factsText, -, marks⟩ := collection_ok answered
  refine ⟨.char '\x7b' :: (keyMarks "type" ++ ((Json.quoted "FeatureCollection").map .char ++
    (.char ',' :: (keyMarks "features" ++ [.char '['])))),
    .char ']' :: .char ',' :: (keyMarks "metadata" ++ (factsText.marks ++ [.char '\x7d'])), ?_⟩
  rw [marks]
  simp only [List.cons_append, List.append_assoc, List.nil_append]

theorem exists_items {listFields : List Text} {rows : List Row} {features body : Text}
    (written : allText listFields rows = .ok features) (within : features.marks <:+: body.marks)
    (geometries : ∀ row ∈ rows, ∀ t ∈ geometryCell? row, ∃ g, Json.Denotes t g) :
    ∃ items, List.Forall₂ (Tells listFields body) rows items ∧
      Spells (.value (.arr items)) (.char '[' :: features.marks ++ [.char ']']) := by
  obtain ⟨texts, each, rfl⟩ := map_eq_ok_iff.mp written
  obtain ⟨items, told, spells⟩ := exists_features (forall₂_of_mapM each)
    (fun t member => (isInfix_intercalate member).trans within) geometries
  exact ⟨items, told, spells_features spells⟩

theorem denotes_collection {features body : Text} {facts : Json}
    (answered : collection features facts = .ok body) {items : List Json}
    (spells : Spells (.value (.arr items)) (.char '[' :: features.marks ++ [.char ']'])) (j : Json) :
    Json.Denotes body j ↔ j = collectionJson items facts.finiteOrNull.told := by
  obtain ⟨factsText, printed, marks⟩ := collection_ok answered
  have denotes : Json.Denotes body (collectionJson items facts.finiteOrNull.told) := by
    rw [Json.Denotes, marks, ← Cell.meaning_ofJson]
    exact (spells_object "type" "features" "metadata" (by decide) (spells_literal "FeatureCollection")
      spells.bare (spells_write printed)).bare
  refine ⟨fun other => other.unique denotes, ?_⟩
  rintro rfl
  exact denotes

/-- The body of an answer is JSON and stands for one value.  It has one feature for each row, in their
order, and each tells its row; the facts stand beside them, with null for each number that is not finite. -/
theorem body_tells_rows {listFields : List Text} {rows : List Row} {features body : Text}
    {facts : Json} (written : allText listFields rows = .ok features)
    (answered : collection features facts = .ok body)
    (geometries : ∀ row ∈ rows, ∀ t ∈ geometryCell? row, ∃ g, Json.Denotes t g) :
    ∃ items, List.Forall₂ (Tells listFields body) rows items ∧
      ∀ j, Json.Denotes body j ↔ j = collectionJson items facts.finiteOrNull.told := by
  obtain ⟨items, told, spells⟩ := exists_items written (isInfix_features answered) geometries
  exact ⟨items, told, denotes_collection answered spells⟩

end

/-- A point, the text of a list, and a number that is not finite in a list of numbers. -/
def parkRow : Row := [
  ("name", .text "North Park"),
  ("geometry", .text "\x7b\"type\":\"Point\",\"coordinates\":[-105,40]\x7d"),
  ("tags", .text "[\"park\", NaN]"),
  ("heights", .list [.num (.int 5340), .num (.real Decimal.notANumber)])]

def parkFeature : Text :=
  "\x7b\"type\":\"Feature\"," ++ "\"geometry\":" ++ "\x7b\"type\":\"Point\"," ++
    "\"coordinates\":[-105,40]\x7d," ++ "\"properties\":\x7b" ++ "\"name\": \"North Park\", " ++
    "\"tags\": [\"park\", null], " ++ "\"heights\": [5340, null]\x7d\x7d"

def parkBody : Text :=
  "\x7b\"type\":\"FeatureCollection\"," ++ "\"features\":[" ++ parkFeature ++
    "],\"metadata\":\x7b\"count\": 1\x7d\x7d"

theorem denotes_point : Json.Denotes "\x7b\"type\":\"Point\",\"coordinates\":[-105,40]\x7d"
    (.obj [("type", .str "Point"), ("coordinates", .arr [.int (-105), .int 40])]) :=
  (Json.spells_chars Json.isOpen_compact (.obj [("type", .str "Point"),
    ("coordinates", .arr [.int (-105), .int 40])]) rfl).bare

section

open Stack.Usual

theorem park_body_tells_row : allText ["tags"] [parkRow] = .ok parkFeature ∧
    collection parkFeature (.obj [("count", .int 1)]) = .ok parkBody ∧
    ∃ items, List.Forall₂ (Tells ["tags"] parkBody) [parkRow] items ∧
      ∀ j, Json.Denotes parkBody j ↔
        j = collectionJson items (Json.obj [("count", .int 1)]).finiteOrNull.told := by
  have written : allText ["tags"] [parkRow] = .ok parkFeature := by decide +kernel
  have answered : collection parkFeature (.obj [("count", .int 1)]) = .ok parkBody := by
    decide +kernel
  refine ⟨written, answered, body_tells_rows written answered ?_⟩
  intro row member t given
  rw [List.mem_singleton.mp member] at given
  cases given
  exact ⟨_, denotes_point⟩

end

/-! ## Geometries that are no JSON -/

theorem noStart_object (a b : String) {first marks : List Mark} {x : Json}
    (member : Spells (.element x) first) (none : NoStart Part.element marks) :
    NoStart Part.element
      (.char '\x7b' :: (keyMarks a ++ (first ++ .char ',' :: (keyMarks b ++ marks)))) := by
  have later : NoStart Part.ofMember (keyMarks b ++ marks) := by
    simpa [keyMarks] using Json.noStart_member (quotation_key b rfl) none
  have members := Json.noStart_members (spells_member a member) later
  rw [List.append_assoc] at members
  exact Json.noStart_element rfl (Json.noStart_object members)

section

variable [Stack] {listFields : List Text} {row : Row} (none : NoStart Part.element (geometryText row).marks)

include none

theorem noStart_text {t : Text} (written : text listFields row = .ok t) :
    ∃ marks, t.marks = .char '\x7b' :: marks ∧ NoStart Part.element (.char '\x7b' :: marks) := by
  obtain ⟨properties, -, marks⟩ := text_ok written
  exact ⟨_, marks, noStart_object "type" "geometry" (spells_literal "Feature") (none.append _)⟩

theorem noStart_allText {rows : List Row} {features : Text}
    (written : allText listFields (row :: rows) = .ok features) :
    ∃ marks, features.marks = .char '\x7b' :: marks ∧
      NoStart Part.element (.char '\x7b' :: marks) := by
  obtain ⟨texts, each, rfl⟩ := map_eq_ok_iff.mp written
  cases forall₂_of_mapM each with
  | @cons _ t _ others first later =>
    obtain ⟨marks, starts, noStart⟩ := noStart_text none first
    cases others with
    | nil => exact ⟨marks, starts, noStart⟩
    | cons second others =>
      rw [marks_intercalate, starts]
      exact ⟨_, rfl, noStart.append _⟩

theorem not_denotes_of_geometry {rows : List Row} {features body : Text} {facts : Json}
    (written : allText listFields (row :: rows) = .ok features)
    (answered : collection features facts = .ok body) (j : Json) : ¬ Json.Denotes body j := by
  obtain ⟨inner, starts, noStart⟩ := noStart_allText none written
  obtain ⟨factsText, -, marks⟩ := collection_ok answered
  have array : NoStart Part.element (.char '[' :: .char '\x7b' :: inner) :=
    Json.noStart_element rfl (Json.noStart_array rfl (by decide) (Json.noStart_items noStart))
  have spoilt : NoStart Part.element body.marks := by
    rw [marks, starts]
    exact noStart_object "type" "features" (spells_literal "FeatureCollection")
      ((array.append _).append _)
  exact spoilt.not_denotes j

end

end SpatialQuery.Feature
