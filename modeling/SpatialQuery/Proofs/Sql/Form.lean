import SpatialQuery.Proofs.Sql.Compiled
import SpatialQuery.Proofs.Sql.Names

/-!
# The form of a query

What stands between the identifiers of a compiled query depends on the form of the query alone.  The
form leaves out layer names, field names, names of metrics, values and distances.  So none of them can
change a single mark of the statement outside of the identifiers.
-/

set_option autoImplicit false

namespace SpatialQuery

open Sql

def FilterValue.form : FilterValue → FilterValue
  | .one _ => .one (.bool false)
  | .many values => .many (values.map fun _ => .bool false)

/-- Only where one of several values is asked for does it matter how many there are. -/
def AttributeFilter.form (f : AttributeFilter) : AttributeFilter :=
  ⟨"", f.op, if f.op = .oneOf then f.value.form else .one (.bool false)⟩

def SpatialFilter.form (s : SpatialFilter) : SpatialFilter where
  op := s.op
  targetLayer := ""
  targetFilter := s.targetFilter.map fun filters => filters.map AttributeFilter.form
  distance := if s.op = .withinDistance then some (.int 0) else none
  limit := s.limit

/-- The rows themselves stay the rows themselves. -/
def Metric.form (m : Metric) : Metric := ⟨if m.field = "*" then "*" else "", m.op, none⟩

def Aggregate.form (a : Aggregate) : Aggregate :=
  ⟨a.groupBy.map fun _ => "", a.metrics.map Metric.form⟩

/-- The query without its layer names, field names, metric names, values and distances.  Two queries
of one form differ in nothing but these, and in their comparison of times, which no statement has. -/
def Query.form (q : Query) : Query where
  selectLayer := ""
  selectFields := q.selectFields.map fun names => names.map fun _ => ""
  attributeFilters := q.attributeFilters.map fun filters => filters.map AttributeFilter.form
  attributeLogic := q.attributeLogic
  spatialFilters := q.spatialFilters.map fun filters => filters.map SpatialFilter.form
  spatialLogic := q.spatialLogic
  aggregate := q.aggregate.map Aggregate.form
  temporal := none
  limit := q.limit
  orderBy := q.orderBy.map fun o => ⟨"", o.direction⟩

namespace Sql

/-! ## Fragments without names and values -/

def Fragment.form : Fragment → Fragment
  | .text fixed => .text fixed
  | .name _ => .name ""
  | .value _ => .value (.many [])

def formOf (fragments : List Fragment) : List Fragment := fragments.map Fragment.form

theorem outside_append (first rest : List Piece) :
    outside (first ++ rest) = outside first ++ outside rest := List.map_append

theorem outside_piecesFrom_form (fragments : List Fragment) (count : Nat) :
    outside (piecesFrom count (formOf fragments)) = outside (piecesFrom count fragments) := by
  induction fragments generalizing count with
  | nil => rfl
  | cons fragment rest ih =>
    cases fragment with
    | text text =>
      change outside (_ ++ piecesFrom count (formOf rest)) = outside (_ ++ piecesFrom count rest)
      rw [outside_append, outside_append, ih]
    | name identifier =>
      change none :: outside (piecesFrom count (formOf rest)) =
        none :: outside (piecesFrom count rest)
      rw [ih]
    | value value =>
      change outside (_ ++ piecesFrom (count + 1) (formOf rest)) =
        outside (_ ++ piecesFrom (count + 1) rest)
      rw [outside_append, outside_append, ih]

theorem formOf_append (first rest : List Fragment) :
    formOf (first ++ rest) = formOf first ++ formOf rest := List.map_append

theorem formOf_joined (separator : String) :
    ∀ parts : List (List Fragment),
      formOf (joined separator parts) = joined separator (parts.map formOf)
  | [] => rfl
  | [_] => rfl
  | part :: next :: rest => by
    have others := formOf_joined separator (next :: rest)
    have text (tail : List Fragment) :
        formOf (.text separator :: tail) = .text separator :: formOf tail := rfl
    rw [joined, formOf_append, text, others]
    rfl

theorem formOf_isEmpty (fragments : List Fragment) :
    (formOf fragments).isEmpty = fragments.isEmpty := by
  cases fragments <;> rfl

/-! ## Parts of one form -/

theorem formOf_test (f : AttributeFilter) :
    formOf f.test.fragments = formOf f.form.test.fragments := by
  obtain ⟨field, op, value⟩ := f
  cases op with
  | oneOf =>
    cases value with
    | one value => rfl
    | many values =>
      have list (scalars : List Scalar) : formOf (joined ", " (scalars.map fun value =>
          [.value (.one value)])) = joined ", " (scalars.map fun _ => [.value (.many [])]) := by
        rw [formOf_joined, List.map_map]
        rfl
      have shape (field : Text) (scalars : List Scalar) :
          formOf (Test.member field scalars).fragments = .name "" :: .text " IN (" ::
            joined ", " (scalars.map fun _ => [.value (.many [])]) ++ [.text ")"] := by
        rw [← list]
        exact formOf_append (.name field :: .text " IN (" :: _) [.text ")"]
      change formOf (Test.member field values).fragments = formOf (Test.member "" _).fragments
      rw [shape, shape, List.map_map]
      rfl
  | _ => rfl

theorem formOf_conjunction (tests : List Test) :
    formOf (conjunction tests) = joined " AND " (tests.map fun t => formOf t.fragments) := by
  rw [conjunction, formOf_joined, List.map_map]
  rfl

theorem targets_form (s : SpatialFilter) : s.form.targets = s.targets.map AttributeFilter.form := by
  unfold SpatialFilter.targets SpatialFilter.form
  cases s.targetFilter <;> rfl

theorem formOf_union (s : SpatialFilter) :
    formOf s.union.fragments = formOf s.form.union.fragments := by
  have tests : (s.union.tests.map fun t => formOf t.fragments) =
      s.form.union.tests.map fun t => formOf t.fragments := by
    simp only [SpatialFilter.union, targets_form, List.map_map]
    exact List.map_congr_left fun f _ => formOf_test f
  have same : s.form.union.tests.isEmpty = s.union.tests.isEmpty := by
    simp [SpatialFilter.union, targets_form]
  have frames : s.form.union.frame = s.union.frame := rfl
  unfold Union.fragments
  rw [same, frames]
  by_cases untested : s.union.tests.isEmpty = true
  · rw [if_pos untested, if_pos untested]
    rfl
  · rw [if_neg untested, if_neg untested]
    have conjunctions : formOf (conjunction s.union.tests) =
        formOf (conjunction s.form.union.tests) := by
      rw [formOf_conjunction, formOf_conjunction, tests]
    simp only [formOf, List.map_cons] at conjunctions ⊢
    rw [conjunctions]
    rfl

theorem formOf_place {registry : Registry} (s : SpatialFilter) (placeable : s.Placeable registry) :
    formOf s.place.fragments = formOf s.form.place.fragments := by
  have unions := formOf_union s
  have related (relation : Relation) (target : Union) :
      formOf (Place.related relation target).fragments =
        .text (relation.function ++ "(" ++ target.frame.column ++ ", (") ::
          formOf target.fragments ++ [.text "))"] := by
    simp [Place.fragments, formOf, Fragment.form]
  have near (target : Union) (distance : Number) :
      formOf (Place.near target distance).fragments =
        .text ("ST_DWithin(" ++ target.frame.column ++ ", (") :: formOf target.fragments ++
          [.text "), ", .value (.many []), .text ")"] := by
    simp [Place.fragments, formOf, Fragment.form]
  have frames : s.form.union.frame = s.union.frame := rfl
  by_cases metric : s.op = .withinDistance
  · obtain ⟨distance, given⟩ := Option.isSome_iff_exists.mp (placeable.measured metric)
    have metricForm : s.form.op = .withinDistance := metric
    have givenForm : s.form.distance = some (.int 0) := by simp [SpatialFilter.form, metric]
    rw [SpatialFilter.place_near metric given, SpatialFilter.place_near metricForm givenForm, near,
      near, unions, frames]
  · have unmeasuredForm : s.form.op ≠ .withinDistance := metric
    rw [SpatialFilter.place_related metric, SpatialFilter.place_related unmeasuredForm, related,
      related, unions, frames]
    rfl

def formsOf {α : Type} (write : α → List Fragment) (items : List α) : List (List Fragment) :=
  items.map fun a => formOf (write a)

theorem formOf_joined_map {α : Type} (separator : String) (write : α → List Fragment)
    (items : List α) :
    formOf (joined separator (items.map write)) = joined separator (formsOf write items) := by
  rw [formOf_joined, List.map_map]
  rfl

theorem formOf_group {α : Type} (write : α → List Fragment) (g : Group α) :
    formOf (g.fragments write) =
      Group.fragments id ⟨g.logic, formsOf write g.conditions⟩ := by
  obtain ⟨logic, conditions⟩ := g
  rcases conditions with _ | ⟨first, _ | ⟨second, rest⟩⟩
  · rfl
  · rfl
  · change formOf (.text "(" :: joined _ ((first :: second :: rest).map write) ++ [.text ")"]) =
      .text "(" :: joined _ ((formsOf write (first :: second :: rest)).map id) ++ [.text ")"]
    rw [formOf_append, List.map_id, ← formOf_joined_map]
    rfl

theorem formOf_whereFragments (tests : Group Test) (places : Group Place) :
    formOf (whereFragments tests places) =
      joined " AND " ([Group.fragments id ⟨tests.logic, formsOf Test.fragments tests.conditions⟩,
        Group.fragments id ⟨places.logic, formsOf Place.fragments places.conditions⟩].filter
          fun group => !group.isEmpty) := by
  rw [whereFragments, formOf_joined, ← formOf_group, ← formOf_group]
  generalize tests.fragments Test.fragments = first
  generalize places.fragments Place.fragments = second
  cases first <;> cases second <;> rfl

theorem formOf_clause (word : String) (body : List Fragment) :
    formOf (clause word body) = clause word (formOf body) := by
  unfold clause
  rw [formOf_isEmpty]
  split <;> rfl

theorem formOf_groupFragments (columns : List Text) :
    formOf (groupFragments columns) = groupFragments (columns.map fun _ => "") := by
  have listed := formOf_joined_map ", " (fun name => [Fragment.name name]) columns
  change .text "\nGROUP BY " :: formOf _ = .text "\nGROUP BY " :: joined ", " (List.map _ _)
  rw [listed, List.map_map]
  rfl

theorem formOf_select (s : Select) :
    formOf s.fragments =
      .text "SELECT " :: joined ", " (formsOf Output.fragments s.outputs) ++
      .text "\nFROM " :: .name "" ::
      clause "WHERE" (joined " AND " (
        [Group.fragments id ⟨s.tests.logic, formsOf Test.fragments s.tests.conditions⟩,
          Group.fragments id ⟨s.places.logic, formsOf Place.fragments s.places.conditions⟩].filter
            fun group => !group.isEmpty)) ++
      (s.groupBy.map fun columns => columns.map fun _ => ("" : Text)).elim [] groupFragments ++
      clause "ORDER BY" (s.order.elim [] fun order => formOf order.fragments) ++
      clause "LIMIT" (s.limit.elim [] fun limit =>
        [.text (String.ofList (Number.intChars limit))]) := by
  have grouped : formOf (s.groupBy.elim [] groupFragments) =
      (s.groupBy.map fun columns => columns.map fun _ => ("" : Text)).elim [] groupFragments := by
    cases s.groupBy with
    | none => rfl
    | some columns => exact formOf_groupFragments columns
  have ordered : formOf (s.order.elim [] Order.fragments) =
      s.order.elim [] fun order => formOf order.fragments := by
    cases s.order <;> rfl
  have limited : formOf (s.limit.elim [] fun limit =>
      [.text (String.ofList (Number.intChars limit))]) =
        s.limit.elim [] fun limit => [.text (String.ofList (Number.intChars limit))] := by
    cases s.limit <;> rfl
  have text (fixed : String) (rest : List Fragment) :
      formOf (.text fixed :: rest) = .text fixed :: formOf rest := rfl
  have name (identifier : Text) (rest : List Fragment) :
      formOf (.name identifier :: rest) = .name "" :: formOf rest := rfl
  simp only [Select.fragments, formOf_append, text, name, formOf_joined_map, formOf_clause,
    formOf_whereFragments, grouped, ordered, limited]

/-! ## Queries of one form -/

theorem formsOf_attributes (q : Query) :
    formsOf Test.fragments q.form.attributeGroup.conditions =
      formsOf Test.fragments q.attributeGroup.conditions := by
  have attributes : q.form.attributes = q.attributes.map AttributeFilter.form := by
    unfold Query.attributes Query.form
    cases q.attributeFilters <;> rfl
  simp only [formsOf, Query.attributeGroup, attributes, List.map_map]
  exact List.map_congr_left fun f _ => (formOf_test f).symm

theorem spatials_form (q : Query) : q.form.spatials = q.spatials.map SpatialFilter.form := by
  unfold Query.spatials Query.form
  cases q.spatialFilters <;> rfl

theorem nearest_form (q : Query) : q.form.nearest = q.nearest.map SpatialFilter.form := by
  rw [Query.nearest, spatials_form, List.filter_map]
  rfl

theorem places_form (q : Query) : q.form.places = q.places.map SpatialFilter.form := by
  rw [Query.places, spatials_form, List.filter_map]
  rfl

theorem formsOf_places {registry : Registry} (q : Query)
    (placeable : ∀ s ∈ q.places, s.Placeable registry) :
    formsOf Place.fragments q.form.spatialGroup.conditions =
      formsOf Place.fragments q.spatialGroup.conditions := by
  simp only [formsOf, Query.spatialGroup, places_form, List.map_map]
  exact List.map_congr_left fun s member => (formOf_place s (placeable s member)).symm

theorem formsOf_columns (names : List Text) :
    formsOf Output.fragments (names.map Output.column) = names.map fun _ => [.name ""] := by
  rw [formsOf, List.map_map]
  rfl

theorem formsOf_unnamed (names : List Text) :
    formsOf Output.fragments ((names.map fun _ => ("" : Text)).map Output.column) =
      formsOf Output.fragments (names.map Output.column) := by
  rw [formsOf_columns, formsOf_columns, List.map_map]
  rfl

theorem formsOf_outputs (q : Query) :
    formsOf Output.fragments q.form.outputs = formsOf Output.fragments q.outputs := by
  have fields : q.form.selectFields.getD [] = (q.selectFields.getD []).map fun _ => ("" : Text) := by
    unfold Query.form
    cases q.selectFields <;> rfl
  unfold Query.outputs
  rw [fields]
  cases q.selectFields.getD [] with
  | nil => rfl
  | cons name rest => exact formsOf_unnamed (name :: rest)

theorem formOf_metric (m : Metric) :
    formOf m.form.output.fragments = formOf m.output.fragments := by
  unfold Metric.output Metric.argument
  by_cases whole : m.field = "*"
  · have wholeForm : m.form.field = "*" := by simp [Metric.form, whole]
    rw [if_pos whole, if_pos wholeForm]
    change formOf (Output.metric m.op (if m.op = .count then .rows else .one) _).fragments = _
    split <;> rfl
  · have partForm : m.form.field ≠ "*" := by
      simp only [Metric.form, if_neg whole]
      decide
    rw [if_neg whole, if_neg partForm]
    rfl

theorem formsOf_metrics (metrics : List Metric) :
    formsOf Output.fragments ((metrics.map Metric.form).map Metric.output) =
      formsOf Output.fragments (metrics.map Metric.output) := by
  simp only [formsOf, List.map_map]
  exact List.map_congr_left fun m _ => formOf_metric m

theorem formsOf_append (first rest : List Output) :
    formsOf Output.fragments (first ++ rest) =
      formsOf Output.fragments first ++ formsOf Output.fragments rest := List.map_append

/-- Names, values and distances leave no trace outside of the identifiers. -/
theorem formOf_statement {registry : Registry} {layer : Layer} (q : Query) (tolerance : Number)
    (compilable : q.Compilable registry layer) :
    formOf (q.form.statement tolerance).fragments = formOf (q.statement tolerance).fragments := by
  have tests := formsOf_attributes q
  have places := formsOf_places q compilable.places
  have ordered : (q.form.order.elim [] fun order => formOf order.fragments) =
      q.order.elim [] fun order => formOf order.fragments := by
    unfold Query.order Query.form
    cases q.orderBy <;> rfl
  have logics : q.form.attributeGroup.logic = q.attributeGroup.logic ∧
      q.form.spatialGroup.logic = q.spatialGroup.logic := ⟨rfl, rfl⟩
  have limits : q.form.limit = q.limit := rfl
  rw [formOf_select, formOf_select]
  unfold Query.statement
  rw [nearest_form]
  rcases q.nearest with _ | ⟨nearest, others⟩
  · have aggregates : q.form.aggregate = q.aggregate.map Aggregate.form := rfl
    rw [aggregates]
    cases q.aggregate with
    | none =>
      simp only [List.map_nil, Option.map_none, formsOf_append, formsOf_outputs, tests, places,
        ordered, logics, limits]
    | some aggregate =>
      have columns : aggregate.form.groupBy.map (fun _ => ("" : Text)) =
          aggregate.groupBy.map fun _ => ("" : Text) := by
        simp only [Aggregate.form, List.map_map]
        rfl
      have groups : formsOf Output.fragments (aggregate.form.groupBy.map Output.column) =
          formsOf Output.fragments (aggregate.groupBy.map Output.column) :=
        formsOf_unnamed aggregate.groupBy
      have metrics : formsOf Output.fragments (aggregate.form.metrics.map Metric.output) =
          formsOf Output.fragments (aggregate.metrics.map Metric.output) :=
        formsOf_metrics aggregate.metrics
      simp only [List.map_nil, Option.map_some, formsOf_append, groups, metrics, columns, tests,
        places, ordered, logics, limits]
  · have distances : formsOf Output.fragments
        [.distance nearest.form.union, .geometry tolerance] =
          formsOf Output.fragments [.distance nearest.union, .geometry tolerance] := by
      have distance (target : Union) : formOf (Output.distance target).fragments =
          .text ("ST_Distance(" ++ Catalog.projectedColumn ++ ", (") :: formOf target.fragments ++
            [.text ")) AS distance"] := by
        simp [Output.fragments, formOf, Fragment.form]
      simp only [formsOf, List.map_cons, List.map_nil, distance, ← formOf_union nearest]
    have bounds : nearest.form.limit = nearest.limit := rfl
    simp only [List.map_cons, formsOf_append, formsOf_outputs, distances, tests, places, logics,
      limits, bounds]

/-! ## The text between the identifiers -/

def Piece.marks : Piece → List Mark
  | .mark m => [m]
  | .name identifier => quotedMarks identifier

theorem escapeQuotes_append (first rest : List Mark) :
    escapeQuotes (first ++ rest) = escapeQuotes first ++ escapeQuotes rest := by
  induction first with
  | nil => rfl
  | cons m more ih =>
    simp only [List.cons_append, escapeQuotes, ih]
    split <;> rfl

/-- What was read of a text in each state, as it stands in the text. -/
def ScanState.marks : ScanState → List Mark
  | .outside => []
  | .inside read => quoteMark :: escapeQuotes read
  | .closing read => quoteMark :: escapeQuotes read ++ [quoteMark]

theorem marks_of_scanFrom (marks : List Mark) (state : ScanState) (pieces : List Piece)
    (scanned : scanFrom state marks = some pieces) :
    state.marks ++ marks = pieces.flatMap Piece.marks := by
  -- Each step moves one mark from the text to what the state has read.
  induction marks generalizing state pieces with
  | nil =>
    cases state with
    | outside =>
      cases scanned
      rfl
    | inside read => cases scanned
    | closing read =>
      cases scanned
      simp [ScanState.marks, Piece.marks, quotedMarks]
  | cons m rest ih =>
    cases state with
    | outside =>
      simp only [scanFrom] at scanned
      split at scanned
      · rename_i isQuote
        subst isQuote
        have inner := ih (.inside []) pieces scanned
        simpa [ScanState.marks, escapeQuotes] using inner
      · obtain ⟨tail, scannedTail, rfl⟩ := Option.map_eq_some_iff.mp scanned
        have inner := ih .outside tail scannedTail
        simpa [ScanState.marks, Piece.marks] using inner
    | inside read =>
      simp only [scanFrom] at scanned
      split at scanned
      · rename_i isQuote
        subst isQuote
        have inner := ih (.closing read) pieces scanned
        simpa [ScanState.marks] using inner
      · rename_i notQuote
        have inner := ih (.inside (read ++ [m])) pieces scanned
        simpa [ScanState.marks, escapeQuotes_append, escapeQuotes, notQuote] using inner
    | closing read =>
      simp only [scanFrom] at scanned
      split at scanned
      · rename_i isQuote
        subst isQuote
        have inner := ih (.inside (read ++ [quoteMark])) pieces scanned
        simpa [ScanState.marks, escapeQuotes_append, escapeQuotes] using inner
      · obtain ⟨tail, scannedTail, rfl⟩ := Option.map_eq_some_iff.mp scanned
        have inner := ih .outside tail scannedTail
        simpa [ScanState.marks, Piece.marks, quotedMarks] using inner

theorem text_eq_of_scan_eq {first second : Text} {pieces : List Piece}
    (scanned : scan first = some pieces) (same : scan second = some pieces) : first = second := by
  obtain ⟨firstMarks⟩ := first
  obtain ⟨secondMarks⟩ := second
  have left := marks_of_scanFrom firstMarks .outside pieces scanned
  have right := marks_of_scanFrom secondMarks .outside pieces same
  exact congrArg Text.mk (left.trans right.symm)

theorem pieces_eq_of_parts_eq (first second : List Piece) (between : outside first = outside second)
    (named : identifiers first = identifiers second) : first = second := by
  induction first generalizing second with
  | nil =>
    cases second with
    | nil => rfl
    | cons piece rest => cases between
  | cons piece rest ih =>
    cases second with
    | nil => cases between
    | cons other others =>
      have tails : outside rest = outside others := (List.cons.inj between).2
      cases piece with
      | mark m =>
        cases other with
        | mark n =>
          have marks : m = n := Option.some.inj (List.cons.inj between).1
          rw [marks, ih others tails named]
        | name identifier => cases (List.cons.inj between).1
      | name identifier =>
        cases other with
        | mark n => cases (List.cons.inj between).1
        | name otherName =>
          have both : identifier :: identifiers rest = otherName :: identifiers others := named
          rw [(List.cons.inj both).1, ih others tails (List.cons.inj both).2]

/-- Every identifier that is opened in the text is closed, the identifiers are the mentions of the
query, and whatever else compiles with the same form and tolerance, against whatever registry, has the
same text between them.  With the same mentions it has the same text altogether. -/
theorem names_stay_names {registry : Registry} {q : Query} {tolerance : Number} {w : Written}
    (compiled : compile registry q tolerance = .ok w) :
    ∃ pieces, scan w.text = some pieces ∧
      identifiers pieces = q.mentions.map Mention.text ∧
      (∀ m ∈ q.mentions, m.Known registry) ∧
      ∀ (otherRegistry : Registry) (other : Query) (v : Written),
        compile otherRegistry other tolerance = .ok v → other.form = q.form →
          ∃ otherPieces, scan v.text = some otherPieces ∧
            outside otherPieces = outside pieces ∧
            (other.mentions.map Mention.text = q.mentions.map Mention.text →
              v.text = w.text) := by
  obtain ⟨layer, found, compilable, rfl⟩ := (compile_ok_iff registry q tolerance w).mp compiled
  have named (q : Query) : identifiers (piecesFrom 0 (q.statement tolerance).fragments) =
      q.mentions.map Mention.text := by
    rw [identifiers_piecesFrom, Select.contents_fragments, names_statement]
  refine ⟨_, (q.statement tolerance).scan_written, named q, mentions_known found compilable, ?_⟩
  intro otherRegistry other v otherCompiled sameForm
  obtain ⟨otherLayer, _, otherCompilable, rfl⟩ :=
    (compile_ok_iff otherRegistry other tolerance v).mp otherCompiled
  have between : outside (piecesFrom 0 (other.statement tolerance).fragments) =
      outside (piecesFrom 0 (q.statement tolerance).fragments) := by
    rw [← outside_piecesFrom_form, ← formOf_statement other tolerance otherCompilable, sameForm,
      formOf_statement q tolerance compilable, outside_piecesFrom_form]
  refine ⟨_, (other.statement tolerance).scan_written, between, fun sameNames => ?_⟩
  have samePieces := pieces_eq_of_parts_eq _ _ between
    ((named other).trans (sameNames.trans (named q).symm))
  exact text_eq_of_scan_eq (samePieces ▸ (other.statement tolerance).scan_written)
    (q.statement tolerance).scan_written

theorem names_stay_names_sample :
    ∃ w v pieces otherPieces, compile sampleRegistry sampleQuery (.int 0) = .ok w ∧
      compile ⟨[sampleLayer "" [""]], .null⟩ sampleQuery.form (.int 0) = .ok v ∧
      scan w.text = some pieces ∧ scan v.text = some otherPieces ∧
      identifiers pieces = (["$1", "c\nWHERE 1", "\"\"", "a\"b", "$1", "x\"; DROP TABLE t; --",
        "c\nWHERE 1", "or", "a\"b"] : List Text) ∧
      outside otherPieces = outside pieces := by
  set_option maxRecDepth 8000 in
  have unnamed : compile ⟨[sampleLayer "" [""]], .null⟩ sampleQuery.form (.int 0) =
      .ok (sampleQuery.form.statement (.int 0)).written := rfl
  obtain ⟨pieces, scanned, named, -, alike⟩ := names_stay_names compile_sampleQuery
  obtain ⟨otherPieces, otherScanned, same, -⟩ := alike _ _ _ unnamed rfl
  exact ⟨_, _, pieces, otherPieces, compile_sampleQuery, unnamed, scanned, otherScanned, named, same⟩

end Sql

end SpatialQuery
