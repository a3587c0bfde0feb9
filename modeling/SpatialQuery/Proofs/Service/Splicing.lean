import SpatialQuery.Database.Engine
import SpatialQuery.Proofs.Feature.Written
import SpatialQuery.Proofs.Sql.Columns
import SpatialQuery.Proofs.Sql.Outputs

/-!
# What is spliced is a geometry

The text of a geometry goes into the answer as it is.  That is safe because of what statements put out:
the cell under `geometry` is always the one that the database wrote as GeoJSON.  A metric may be given any
name, however, and one that is called `geometry` takes that place.
-/

set_option autoImplicit false

namespace SpatialQuery

open Sql
open Database (Table)
open Feature (geometryKey geometryCell? Tells)

/-! ## Results of a statement -/

namespace Sql

structure ResultColumn where
  output : Output
  name : Text

def Output.columns (attributes : List Text) (o : Output) : List ResultColumn :=
  match o.name? with
  | some name => [⟨o, name⟩]
  | none => attributes.map (⟨o, ·⟩)

/-- The columns of a result, if the table has these columns besides its two geometries. -/
def Select.columns (attributes : List Text) (s : Select) : List ResultColumn :=
  s.outputs.flatMap (Output.columns attributes)

end Sql

def Cell.IsJsonOrNull (cell : Cell) : Prop :=
  cell = .null ∨ ∃ t g, cell = .text t ∧ Json.Denotes t g

/-- The table is a result of the statement, and its geometries are written as JSON. -/
structure Database.Table.Answers (t : Table) (s : Select) (attributes : List Text) : Prop where
  columns : t.columns = some ((s.columns attributes).map ResultColumn.name)
  full : ∀ cells ∈ t.rows, cells.length = (s.columns attributes).length
  geometries : ∀ cells ∈ t.rows, ∀ shown ∈ (s.columns attributes).zip cells,
    shown.1.output.isGeometry = true → shown.2.IsJsonOrNull

/-- The row keeps its cells: what is spliced is the cell of the geometry and nothing else, and no cell is
lost unless a later column has its name. -/
structure Row.Keeps (columns : List ResultColumn) (cells : List Cell) (row : Row) : Prop where
  spliced : ∀ t, geometryCell? row = some t ↔
    ∃ column, (column, .text t) ∈ columns.zip cells ∧ column.output.isGeometry = true
  kept : ∀ before column cell after, columns.zip cells = before ++ (column, cell) :: after →
    column.name ∉ after.map (·.1.name) → (column.name, cell) ∈ row

/-! ## Texts of JSON values are not blank -/

theorem Text.not_blank_of_digit {c : Char} (digit : c.isDigit = true) : Text.isBlank c = false := by
  simp only [Char.isDigit, Bool.and_eq_true, decide_eq_true_eq] at digit
  have bounds : 48 ≤ c.toNat ∧ c.toNat ≤ 57 := digit
  rw [Bool.eq_false_iff]
  intro blank
  simp [Text.isBlank, Text.inRanges, Text.blankRanges] at blank
  omega

theorem Json.not_blank_of_kind {c : Char} {kind : Json.Kind} (isKind : Json.kind? c = some kind) :
    Text.isBlank c = false := by
  by_cases digit : c.isDigit = true
  · exact Text.not_blank_of_digit digit
  · have starts : c ∈ ['n', 't', 'f', '"', '[', '\x7b', '-', 'N', 'I'] := by
      by_contra other
      simp only [List.mem_cons, List.not_mem_nil, or_false, not_or] at other
      simp [Json.kind?, digit, other] at isKind
    have none : ['n', 't', 'f', '"', '[', '\x7b', '-', 'N', 'I'].all (fun c => !Text.isBlank c) =
        true := by decide
    simpa using List.all_eq_true.mp none c starts

theorem Json.Denotes.not_blank {t : Text} {g : Json} (denotes : Json.Denotes t g) :
    t.isAllBlank = false := by
  unfold Json.Denotes at denotes
  generalize written : t.marks = marks at denotes
  cases denotes with
  | element _ inner _ =>
    obtain ⟨c, rest, rfl, isKind⟩ := inner.kind
    have member : c ∈ t.shown := by
      rw [Text.shown, written]
      exact List.mem_map.mpr ⟨.char c, by simp, rfl⟩
    rw [Text.isAllBlank, List.all_eq_false]
    exact ⟨c, member, by simp [Json.not_blank_of_kind isKind]⟩

/-! ## Rows of a result -/

namespace Row

variable {columns : List ResultColumn} {cells : List Cell}

theorem rowCells_eq : Table.rowCells (columns.map ResultColumn.name) cells =
    Assoc.settle ((columns.zip cells).map fun shown => (shown.1.name, shown.2)) := by
  rw [Table.rowCells, List.zip_map_left]
  rfl

theorem mem_rowCells {before after : List (ResultColumn × Cell)} {column : ResultColumn} {cell : Cell}
    (split : columns.zip cells = before ++ (column, cell) :: after)
    (last : column.name ∉ after.map (·.1.name)) :
    Assoc.get? column.name (Table.rowCells (columns.map ResultColumn.name) cells) = some cell := by
  rw [rowCells_eq, split, List.map_append, List.map_cons]
  refine Assoc.get?_settle ?_
  simpa using last

theorem keeps_of_none (other : ∀ column ∈ columns, column.name ≠ geometryKey)
    (none : ∀ column ∈ columns, column.output.isGeometry = false) :
    Row.Keeps columns cells (Table.rowCells (columns.map ResultColumn.name) cells) where
  spliced := by
    intro t
    have absent : Assoc.get? geometryKey (Table.rowCells (columns.map ResultColumn.name) cells) =
        .none := by
      rw [rowCells_eq]
      refine Assoc.get?_settle_of_fresh fun member => ?_
      simp only [List.map_map, List.mem_map] at member
      obtain ⟨⟨column, cell⟩, inZip, same⟩ := member
      exact other column (List.of_mem_zip inZip).1 same
    constructor
    · intro given
      rw [geometryCell?, absent] at given
      cases given
    · rintro ⟨column, inZip, isGeometry⟩
      rw [none column (List.of_mem_zip inZip).1] at isGeometry
      cases isGeometry
  kept := fun _ _ _ _ split last => Assoc.mem_of_get?_eq_some (mem_rowCells split last)

theorem keeps_of_last {others : List ResultColumn} {geometry : ResultColumn} {first : List Cell}
    {cell : Cell} (called : geometry.name = geometryKey) (isGeometry : geometry.output.isGeometry = true)
    (none : ∀ column ∈ others, column.output.isGeometry = false) (full : first.length = others.length)
    (written : cell.IsJsonOrNull) :
    Row.Keeps (others ++ [geometry]) (first ++ [cell])
      (Table.rowCells ((others ++ [geometry]).map ResultColumn.name) (first ++ [cell])) where
  spliced := by
    intro t
    have zipped : (others ++ [geometry]).zip (first ++ [cell]) =
        others.zip first ++ [(geometry, cell)] := List.zip_append full.symm
    have found := mem_rowCells zipped (by simp)
    rw [called] at found
    have only : (∃ column, (column, .text t) ∈ (others ++ [geometry]).zip (first ++ [cell]) ∧
        column.output.isGeometry = true) ↔ cell = .text t := by
      rw [zipped]
      constructor
      · rintro ⟨column, member, itself⟩
        rcases List.mem_append.mp member with before | last
        · rw [none column (List.of_mem_zip before).1] at itself
          cases itself
        · exact (congrArg Prod.snd (List.mem_singleton.mp last)).symm
      · rintro rfl
        exact ⟨geometry, by simp, isGeometry⟩
    rw [only, geometryCell?, found]
    rcases written with rfl | ⟨u, g, rfl, denotes⟩
    · simp
    · simp [denotes.not_blank]
  kept := fun _ _ _ _ split last => Assoc.mem_of_get?_eq_some (mem_rowCells split last)

end Row

/-! ## Columns of a statement -/

namespace Sql

theorem mem_columns {outputs : List Output} {attributes : List Text} {column : ResultColumn}
    (member : column ∈ outputs.flatMap (Output.columns attributes)) :
    column.output ∈ outputs ∧
      (column.output.name? = some column.name ∨ column.output.name? = none) := by
  obtain ⟨o, inOutputs, among⟩ := List.mem_flatMap.mp member
  unfold Output.columns at among
  split at among
  · rename_i name called
    rw [List.mem_singleton.mp among]
    exact ⟨inOutputs, Or.inl called⟩
  · rename_i unnamed
    obtain ⟨name, _, rfl⟩ := List.mem_map.mp among
    exact ⟨inOutputs, Or.inr unnamed⟩

theorem not_isGeometry_of_filter {outputs : List Output}
    (none : outputs.filter (Output.isCalled geometryKey) = []) :
    ∀ o ∈ outputs, o.isGeometry = false := by
  intro o member
  have uncalled := List.filter_eq_nil_iff.mp none o member
  cases o with
  | geometry tolerance => exact absurd (beq_self_eq_true (some geometryKey)) uncalled
  | _ => rfl

end Sql

namespace Query

variable {q : Query} {attributes : List Text} {tolerance : Number} {cells : List Cell}

theorem keeps_of_grouped {a : Aggregate} (aggregated : q.aggregate = some a) (plain : q.nearest = [])
    (none : (q.statement tolerance).outputs.filter (Output.isCalled geometryKey) = []) :
    Row.Keeps ((q.statement tolerance).columns attributes) cells
      (Table.rowCells (((q.statement tolerance).columns attributes).map ResultColumn.name) cells) := by
  have outputs : (q.statement tolerance).outputs =
      a.groupBy.map .column ++ a.metrics.map Metric.output := by
    rw [statement, plain, aggregated]
  have named : ∀ o ∈ (q.statement tolerance).outputs, o.name? ≠ .none := by
    rw [outputs]
    refine List.forall_mem_append.mpr ⟨?_, ?_⟩
    · exact List.forall_mem_map.mpr fun _ _ => Option.some_ne_none _
    · exact List.forall_mem_map.mpr fun _ _ => Option.some_ne_none _
  refine Row.keeps_of_none (fun column member same => ?_) fun column member =>
    not_isGeometry_of_filter none _ (mem_columns member).1
  obtain ⟨inOutputs, called | unnamed⟩ := mem_columns member
  · have uncalled := List.filter_eq_nil_iff.mp none _ inOutputs
    rw [same] at called
    exact uncalled (by rw [Output.isCalled, called]; exact beq_self_eq_true _)
  · exact named _ inOutputs unnamed

theorem keeps_of_ungrouped (ungrouped : q.aggregate = none)
    (one : (q.statement tolerance).outputs.filter (Output.isCalled geometryKey) =
      [.geometry tolerance])
    (full : cells.length = ((q.statement tolerance).columns attributes).length)
    (geometries : ∀ shown ∈ ((q.statement tolerance).columns attributes).zip cells,
      shown.1.output.isGeometry = true → shown.2.IsJsonOrNull) :
    Row.Keeps ((q.statement tolerance).columns attributes) cells
      (Table.rowCells (((q.statement tolerance).columns attributes).map ResultColumn.name) cells) := by
  obtain ⟨others, outputs⟩ := outputs_end (q := q) tolerance ungrouped
  have columns : (q.statement tolerance).columns attributes =
      others.flatMap (Output.columns attributes) ++ [⟨.geometry tolerance, geometryKey⟩] := by
    rw [Select.columns, outputs, List.flatMap_append]
    rfl
  have none : others.filter (Output.isCalled geometryKey) = [] := by
    rw [outputs, List.filter_append] at one
    exact List.append_cancel_right one
  rw [columns] at full geometries ⊢
  rcases List.eq_nil_or_concat cells with rfl | ⟨first, cell, rfl⟩
  · simp at full
  · rw [List.concat_eq_append] at full geometries ⊢
    have sameLength : first.length = (others.flatMap (Output.columns attributes)).length := by
      simpa using full
    refine Row.keeps_of_last rfl rfl ?_ sameLength
      (geometries (⟨.geometry tolerance, geometryKey⟩, cell) ?_ rfl)
    · exact fun column member => not_isGeometry_of_filter none _ (mem_columns member).1
    · rw [List.zip_append sameLength.symm]
      simp

end Query

/-! ## Answers -/

namespace Service.Plan

variable {registry : Registry} {q : Query} {plan : Plan}

theorem keeps_of_answers {layer : Layer}
    (grounded : plan.limited.query.IsGrounded registry layer)
    (shown : plan.select.outputs.filter (Output.isCalled geometryKey) =
      if plan.limited.query.aggregate.isSome then [] else [.geometry plan.tolerance])
    {t : Table} {attributes : List Text} (answers : t.Answers plan.select attributes) :
    ∀ cells ∈ t.rows, Row.Keeps (plan.select.columns attributes) cells
      (Table.rowCells ((plan.select.columns attributes).map ResultColumn.name) cells) := by
  intro cells member
  cases aggregated : plan.limited.query.aggregate with
  | some a =>
    rw [aggregated, Option.isSome_some, if_pos rfl] at shown
    refine Query.keeps_of_grouped aggregated ?_ shown
    by_contra several
    rw [grounded.plain several] at aggregated
    cases aggregated
  | none =>
    rw [aggregated, Option.isSome_none, if_neg (by decide)] at shown
    exact Query.keeps_of_ungrouped aggregated shown (answers.full cells member)
      (answers.geometries cells member)

theorem denotes_of_keeps {select : Select} {t : Table} {attributes : List Text}
    (answers : t.Answers select attributes)
    (keeps : ∀ cells ∈ t.rows, Row.Keeps (select.columns attributes) cells
      (Table.rowCells ((select.columns attributes).map ResultColumn.name) cells)) :
    ∀ row ∈ t.toRows, ∀ text ∈ geometryCell? row, ∃ g, Json.Denotes text g := by
  intro row member text given
  rw [Table.toRows, answers.columns, Option.getD_some] at member
  obtain ⟨cells, inRows, rfl⟩ := List.mem_map.mp member
  obtain ⟨column, inZip, isGeometry⟩ := ((keeps cells inRows).spliced text).mp given
  rcases answers.geometries cells inRows _ inZip isGeometry with contrary | ⟨u, g, same, denotes⟩
  · cases contrary
  · cases same
    exact ⟨g, denotes⟩

/-- The result is answered without harm: no row loses a cell or has another one spliced, there is an
answer unless a row cannot be written, and the answer is JSON and tells the rows. -/
structure AnswersSafely [Stack] (plan : Plan) (columns : List ResultColumn) (t : Table) : Prop where
  keeps : ∀ cells ∈ t.rows,
    Row.Keeps columns cells (Table.rowCells (columns.map ResultColumn.name) cells)
  rows : t.toRows = t.rows.map (Table.rowCells (columns.map ResultColumn.name))
  stored : (∀ row ∈ t.toRows, Feature.IsWritable plan.listFields row) →
    ∀ milliseconds, ∃ result, plan.result t.toRows milliseconds = .ok result
  answered : ∀ result (origin : Origin) hit, ∃ body, plan.answer origin hit result = .ok body
  denotes : ∀ {milliseconds result origin hit body},
    plan.result t.toRows milliseconds = .ok result → plan.answer origin hit result = .ok body →
      ∃ items facts, List.Forall₂ (Tells plan.listFields body) t.toRows items ∧
        ∀ j, Json.Denotes body j ↔ j = Feature.collectionJson items facts

theorem denotes_answer [Stack] {rows : List Row} {milliseconds : Number} {result : StoredResult}
    {origin : Origin} {hit : Bool} {body : Text}
    (geometries : ∀ row ∈ rows, ∀ t ∈ geometryCell? row, ∃ g, Json.Denotes t g)
    (stored : plan.result rows milliseconds = .ok result)
    (answered : plan.answer origin hit result = .ok body) :
    ∃ items facts, List.Forall₂ (Tells plan.listFields body) rows items ∧
      ∀ j, Json.Denotes body j ↔ j = Feature.collectionJson items facts := by
  unfold Plan.result at stored
  split at stored
  · rename_i features written
    cases stored
    have collected := mapError_eq_ok_iff.mp answered
    obtain ⟨items, told, spells⟩ :=
      Feature.exists_items written (Feature.isInfix_features collected) geometries
    exact ⟨items, _, told, Feature.denotes_collection collected spells⟩
  · cases stored

/-- A statement that names no metric like the geometry puts the geometry out under its name once, or not
at all where rows are grouped, and puts nothing else out under it.  So its results are answered safely,
if the database writes geometries as JSON. -/
theorem only_geometry_is_spliced [Stack] {ε σ : Type}
    {describe : Manifest.Describe (ExceptT ε (StateM σ))} {now : Text} {file : Option Text}
    {before after : σ}
    (built : (Manifest.registryOfFile describe now file).run before = (.ok (.ok registry), after))
    {raw : Json} (accepted : Query.ofJson raw = .ok q) (planned : ofQuery registry q = .ok plan)
    (unnamed : ∀ a ∈ q.aggregate, ∀ m ∈ a.metrics, m.name ≠ some geometryKey) :
    plan.statement = .ok plan.select.written ∧
      plan.select.outputs.filter (Output.isCalled geometryKey) =
        (if q.aggregate.isSome then [] else [.geometry plan.tolerance]) ∧
      ∀ (t : Table) attributes, t.Answers plan.select attributes →
        plan.AnswersSafely (plan.select.columns attributes) t := by
  have realizes := Manifest.registryOfFile_realizes built
  obtain ⟨layer, found, answerable⟩ := answerable_of_ofQuery planned
  have grounded := answerable.toIsGrounded
  have aggregate := aggregate_of_ofQuery planned
  have shown := Query.geometry_outputs grounded (realizes.geometry_not_queryable found)
    (by rw [aggregate]; exact unnamed) plan.tolerance
  rw [aggregate] at shown
  refine ⟨statement_of_ofQuery realizes.isBacked accepted planned, shown, ?_⟩
  intro t attributes answers
  have keeps := keeps_of_answers grounded (by rw [aggregate]; exact shown) answers
  refine ⟨keeps, by rw [Table.toRows, answers.columns]; rfl, fun writable milliseconds => ?_,
    fun result origin hit => exists_answer plan origin hit result, fun stored answered =>
      denotes_answer (denotes_of_keeps answers keeps) stored answered⟩
  obtain ⟨features, written⟩ := Feature.exists_allText writable
  exact ⟨_, by rw [Plan.result, written]⟩

def zoneRow (code geometry : Cell) : Row := [("zone_code", code), ("geometry", geometry)]

def zoneTable (rows : List (List Cell)) : Table := ⟨some ["zone_code", "geometry"], rows⟩

section

open Stack.Usual

theorem write_zoneCode :
    Feature.write (.record [("zone_code", .text "R-1")]) = .ok "\x7b\"zone_code\": \"R-1\"\x7d" := by
  decide +kernel

theorem text_zoneRow (listFields : List Text) (geometry : Cell) :
    Feature.text listFields (zoneRow (.text "R-1") geometry) =
      .ok ("\x7b\"type\":\"Feature\",\"geometry\":" ++
        Feature.geometryText (zoneRow (.text "R-1") geometry) ++ ",\"properties\":" ++
        "\x7b\"zone_code\": \"R-1\"\x7d" ++ "\x7d") := by
  have read : Feature.listOf? (.text "R-1") = .ok none := rfl
  have property : Feature.property listFields ("zone_code", .text "R-1") =
      .ok ("zone_code", .text "R-1") := by
    unfold Feature.property
    split
    · simp only [read]
    · rfl
  have kept : (zoneRow (.text "R-1") geometry).filter (fun column => column.1 ≠ geometryKey) =
      ([("zone_code", .text "R-1")] : Row) := rfl
  have properties : Feature.properties listFields (zoneRow (.text "R-1") geometry) =
      .ok (.record [("zone_code", .text "R-1")]) := by
    rw [Feature.properties, kept, List.mapM_cons, property]
    rfl
  rw [Feature.text, properties]
  exact (bind_ok_iff ..).mpr ⟨_, rfl, (bind_ok_iff ..).mpr ⟨_, write_zoneCode, rfl⟩⟩

theorem isWritable_zoneRow (listFields : List Text) (geometry : Cell) :
    Feature.IsWritable listFields (zoneRow (.text "R-1") geometry) := by
  rcases Feature.text_cases listFields (zoneRow (.text "R-1") geometry) with
    ⟨fault, failed, -⟩ | ⟨-, writable⟩
  · rw [text_zoneRow] at failed
    cases failed
  · exact writable

end

def placedTable : Table := zoneTable [[.text "R-1", .text "[-105, 40]"], [.text "R-1", .null]]

theorem denotes_pair : Json.Denotes "[-105, 40]" (.arr [.int (-105), .int 40]) :=
  (Json.spells_chars Json.isOpen_spaced (.arr [.int (-105), .int 40]) rfl).bare

theorem answers_placedTable {s : Select} {tolerance : Number}
    (outputs : s.outputs = [.column "zone_code", .geometry tolerance]) :
    placedTable.Answers s [] := by
  have columns : s.columns [] =
      [⟨.column "zone_code", "zone_code"⟩, ⟨.geometry tolerance, geometryKey⟩] := by
    rw [Select.columns, outputs]
    rfl
  refine ⟨by rw [columns]; rfl, fun cells member => ?_, fun cells member shown inZip isGeometry => ?_⟩
  · rw [columns]
    rcases List.mem_cons.mp member with rfl | member
    · rfl
    · cases List.mem_singleton.mp member
      rfl
  · rw [columns] at inZip
    rcases List.mem_cons.mp member with rfl | member
    · rcases List.mem_cons.mp inZip with rfl | inZip
      · cases isGeometry
      · cases List.mem_singleton.mp inZip
        exact Or.inr ⟨_, _, rfl, denotes_pair⟩
    · cases List.mem_singleton.mp member
      rcases List.mem_cons.mp inZip with rfl | inZip
      · cases isGeometry
      · cases List.mem_singleton.mp inZip
        exact Or.inl rfl

section

open Stack.Usual

theorem only_geometry_is_spliced_sample :
    ∃ registry plan result body items facts,
      (Manifest.registryOfFile zoningDescribe "" (some zoningManifest)).run () =
        (.ok (.ok registry), ()) ∧
      Query.ofJson (residentialRequest "zone_code") = .ok (residentialQuery "zone_code") ∧
      ofQuery registry (residentialQuery "zone_code") = .ok plan ∧
      plan.statement = .ok plan.select.written ∧
      plan.select.outputs = [.column "zone_code", .geometry plan.tolerance] ∧
      placedTable.Answers plan.select [] ∧
      plan.result placedTable.toRows (.int 5) = .ok result ∧
      plan.answer (.structured .direct) false result = .ok body ∧
      List.Forall₂ (Tells plan.listFields body)
        [zoneRow (.text "R-1") (.text "[-105, 40]"), zoneRow (.text "R-1") .null] items ∧
      ∀ j, Json.Denotes body j ↔ j = Feature.collectionJson items facts := by
  obtain ⟨registry, layer, built, found, isLoaded, columns⟩ := zoning_built
  have realizes := Manifest.registryOfFile_realizes built
  have accepted : Query.ofJson (residentialRequest "zone_code") =
      .ok (residentialQuery "zone_code") := rfl
  obtain ⟨notes, planned⟩ := residential_planned realizes found isLoaded columns
    ((realizes.queryable_iff found).mpr (Or.inl (columns ▸ List.mem_cons_self)))
  obtain ⟨compiled, -, safe⟩ := only_geometry_is_spliced built accepted planned nofun
  have outputs : (select ⟨registry, (residentialNormal "zone_code").limited registry, notes⟩).outputs =
      [.column "zone_code", .geometry
        (.real ((residentialNormal "zone_code").limited registry).tolerance)] := rfl
  have answers := answers_placedTable outputs
  have safe := safe placedTable [] answers
  have writable : ∀ row ∈ placedTable.toRows,
      Feature.IsWritable (listFields ⟨registry, (residentialNormal "zone_code").limited registry, notes⟩)
        row := by
    change ∀ row ∈ [zoneRow (.text "R-1") (.text "[-105, 40]"), zoneRow (.text "R-1") .null], _
    simp only [List.forall_mem_cons]
    exact ⟨isWritable_zoneRow _ _, isWritable_zoneRow _ _, nofun⟩
  obtain ⟨result, stored⟩ := safe.stored writable (.int 5)
  obtain ⟨body, answered⟩ := safe.answered result (.structured .direct) false
  obtain ⟨items, facts, told, denotes⟩ := safe.denotes stored answered
  exact ⟨registry, _, result, body, items, facts, built, accepted, planned, compiled, outputs, answers,
    stored, answered, told, denotes⟩

end

/-! ## A metric in the place of the geometry -/

def groupedRequest : Json := .obj [
  ("selectLayer", .str "zoning_districts"),
  ("aggregate", .obj [
    ("groupBy", .arr [.str "zone_code"]),
    ("metrics", .arr [
      .obj [("field", .str "zone_code"), ("op", .str "max"), ("alias", .str "geometry")]])])]

def groupedQuery : Query :=
  { Query.ofLayer "zoning_districts" with
    aggregate := some ⟨["zone_code"], [⟨"zone_code", .max, some "geometry"⟩]⟩ }

theorem grouped_planned {layer : Layer} (realizes : registry.RealizesCatalog)
    (found : registry.get? "zoning_districts" = some layer) (isLoaded : layer.isLoaded = true)
    (columns : layer.loadedFields = (["zone_code"] : List Text)) :
    ofQuery registry groupedQuery = .ok ⟨registry, groupedQuery.limited registry, []⟩ := by
  have code : ("zone_code" : Text) ∈ layer.queryableFields :=
    (realizes.queryable_iff found).mpr (Or.inl (columns ▸ List.mem_cons_self))
  have grounded : groupedQuery.groundingIssues registry = [] :=
    Query.groundingIssues_eq_nil_iff.mpr ⟨layer, found, {
      fields := nofun
      attributes := nofun
      order := nofun
      groups := by
        rintro _ ⟨⟩ field member
        cases List.mem_singleton.mp member
        exact code
      metrics := by
        rintro _ ⟨⟩ m member _
        cases List.mem_singleton.mp member
        exact code
      spatials := nofun
      single := Nat.zero_le 1
      plain := fun some => absurd rfl some
      loaded := isLoaded
      untimed := rfl
      comparable := nofun
      targets := nofun }⟩
  have normalized : groupedQuery.normalize .builtIn = .ok (groupedQuery, []) := rfl
  simp only [ofQuery, normalized, grounded]

def splicedTable : Table := zoneTable [[.text "R-1", .text "R-1"]]

def splicedFeature : Text :=
  "\x7b\"type\":\"Feature\",\"geometry\":R-1,\"properties\":\x7b\"zone_code\": \"R-1\"\x7d\x7d"

theorem answers_splicedTable {s : Select}
    (outputs : s.outputs = [.column "zone_code", .metric .max (.column "zone_code") geometryKey]) :
    splicedTable.Answers s [] := by
  have columns : s.columns [] = [⟨.column "zone_code", "zone_code"⟩,
      ⟨.metric .max (.column "zone_code") geometryKey, geometryKey⟩] := by
    rw [Select.columns, outputs]
    rfl
  refine ⟨by rw [columns]; rfl, fun cells member => ?_, fun cells _ shown inZip isGeometry => ?_⟩
  · cases List.mem_singleton.mp member
    rw [columns]
    rfl
  · -- no column of this result is a geometry
    rw [columns] at inZip
    have among := (List.of_mem_zip inZip).1
    simp only [List.mem_cons, List.not_mem_nil, or_false] at among
    rcases among with column | column <;> rw [column] at isGeometry <;> cases isGeometry

section

open Stack.Usual

theorem allText_splicedTable (listFields : List Text) :
    Feature.allText listFields splicedTable.toRows = .ok splicedFeature := by
  have rows : splicedTable.toRows = [zoneRow (.text "R-1") (.text "R-1")] := rfl
  have whole : Text.intercalate "," ["\x7b\"type\":\"Feature\",\"geometry\":" ++
      Feature.geometryText (zoneRow (.text "R-1") (.text "R-1")) ++ ",\"properties\":" ++
      "\x7b\"zone_code\": \"R-1\"\x7d" ++ "\x7d"] = splicedFeature := by decide +kernel
  rw [rows, Feature.allText, List.mapM_cons, text_zoneRow]
  exact congrArg Except.ok whole

/-- A metric may be called like the geometry.  Its value is then spliced, although it is no JSON, and
missing from the properties; no answer that holds it is JSON. -/
theorem metric_takes_place_of_geometry :
    ∃ registry plan,
      (Manifest.registryOfFile zoningDescribe "" (some zoningManifest)).run () =
        (.ok (.ok registry), ()) ∧
      Query.ofJson groupedRequest = .ok groupedQuery ∧ ofQuery registry groupedQuery = .ok plan ∧
      plan.statement = .ok plan.select.written ∧
      plan.select.outputs.filter (Output.isCalled geometryKey) =
        [.metric .max (.column "zone_code") geometryKey] ∧
      splicedTable.Answers plan.select [] ∧
      plan.result splicedTable.toRows (.int 5) = .ok ⟨splicedFeature, 1, .int 5⟩ ∧
      ∃ body, plan.answer (.structured .direct) false ⟨splicedFeature, 1, .int 5⟩ = .ok body ∧
        ∀ j, ¬ Json.Denotes body j := by
  obtain ⟨registry, layer, built, found, isLoaded, columns⟩ := zoning_built
  have realizes := Manifest.registryOfFile_realizes built
  have accepted : Query.ofJson groupedRequest = .ok groupedQuery := rfl
  have planned := grouped_planned realizes found isLoaded columns
  have collected := allText_splicedTable
    (listFields ⟨registry, groupedQuery.limited registry, []⟩)
  have noJson : Json.NoStart Json.Part.element
      (Feature.geometryText (zoneRow (.text "R-1") (.text "R-1"))).marks :=
    Json.noStart_element (c := 'R') rfl (Json.noStart_value rfl)
  obtain ⟨body, answered⟩ := exists_answer ⟨registry, groupedQuery.limited registry, []⟩
    (.structured .direct) false ⟨splicedFeature, 1, .int 5⟩
  refine ⟨registry, _, built, accepted, planned,
    statement_of_ofQuery realizes.isBacked accepted planned, rfl, answers_splicedTable rfl, ?_, body,
    answered, Feature.not_denotes_of_geometry noJson collected (mapError_eq_ok_iff.mp answered)⟩
  rw [Plan.result, collected]
  rfl

end

end Service.Plan

end SpatialQuery
