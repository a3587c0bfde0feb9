import Mathlib.Tactic.Tauto
import SpatialQuery.Proofs.Sql.Counted

/-!
# The order of the calls is the order of the text

The parts of a statement are made in the order in which they are checked, and its text has them in an
order of its own.  `compile_ok_iff` says that both come to the same: what is written and what is handed
over is the statement of the query, its placeholders numbered and its values taken in the order of the
text.  In the statement for the nearest features the target is made before the fields and stands after
them; the order is kept because fields hand nothing over.
-/

set_option autoImplicit false

namespace SpatialQuery.Sql

/-! ## Outputs -/

def Output.text (o : Output) : Text := textFrom 0 o.fragments

theorem column_text (name : Text) : (Output.column name).text = quoteIdentifier name :=
  Text.append_empty _

theorem columns_ok_iff (layer : Layer) (names : List Text) (result : List Text) :
    names.mapM (column layer) = .ok result ↔
      (∀ name ∈ names, layer.hasColumn name = true) ∧
        result = (names.map Output.column).map Output.text := by
  rw [mapM_known_iff (column_ok_iff layer), List.map_map]
  simp only [Function.comp_def, column_text]

theorem projection_ok_iff (layer : Layer) (q : Query) (result : List Text) :
    projection layer q = .ok result ↔
      (∀ name ∈ q.selectFields.getD [], layer.hasColumn name = true) ∧
        result = q.outputs.map Output.text := by
  unfold projection Query.outputs
  cases q.selectFields.getD [] with
  | nil =>
    simp only [Except.ok.injEq, List.not_mem_nil, false_implies, implies_true, true_and]
    exact eq_comm
  | cons name rest => exact columns_ok_iff layer (name :: rest) result

theorem metricOutput_ok_iff (layer : Layer) (m : Metric) (result : Text) :
    metricOutput layer m = .ok result ↔
      (m.field ≠ "*" → layer.hasColumn m.field = true) ∧ result = m.output.text := by
  unfold metricOutput Metric.output Metric.argument Output.text
  by_cases whole : m.field = "*"
  · by_cases counted : m.op = .count
    · simp [whole, counted, pure_ok_iff, Output.fragments, Argument.fragment, Text.ofString_append,
        Text.append_assoc, Text.append_empty]
    · simp [whole, counted, pure_ok_iff, Output.fragments, Argument.fragment, Text.ofString_append,
        Text.append_assoc, Text.append_empty]
  · simp only [whole, if_false, ne_eq, not_false_eq_true, true_implies,
      bind_known_iff (column_ok_iff layer _), pure_ok_iff]
    simp [Output.fragments, Argument.fragment, Text.ofString_append, Text.append_assoc,
      Text.append_empty]

theorem aggregateProjection_ok_iff (layer : Layer) (a : Aggregate) (result : List Text) :
    aggregateProjection layer a = .ok result ↔
      ((∀ name ∈ a.groupBy, layer.hasColumn name = true) ∧
        ∀ m ∈ a.metrics, m.field ≠ "*" → layer.hasColumn m.field = true) ∧
      result = (a.groupBy.map Output.column ++ a.metrics.map Metric.output).map Output.text := by
  unfold aggregateProjection
  rw [bind_known_iff (columns_ok_iff layer a.groupBy),
    bind_known_iff (mapM_known_iff (metricOutput_ok_iff layer) a.metrics), pure_ok_iff, and_assoc,
    List.map_append]
  simp only [List.map_map, Function.comp_def]

theorem values_outputs (q : Query) : ∀ part ∈ q.outputs.map Output.fragments, values part = [] := by
  unfold Query.outputs
  cases q.selectFields.getD [] <;> simp [Output.fragments, values]

/-! ## Lines -/

def line (word : String) (body : List Fragment) : List (List Fragment) :=
  if body.isEmpty then [] else [.text (word ++ " ") :: body]

def groupLines (columns : List Text) : List (List Fragment) :=
  [.text "GROUP BY " :: joined ", " (columns.map fun name => [.name name])]

def Select.lastLines (s : Select) : List (List Fragment) :=
  s.groupBy.elim [] groupLines ++ line "ORDER BY" (s.order.elim [] Order.fragments) ++
    line "LIMIT" (s.limit.elim [] fun limit => [.text (String.ofList (Number.intChars limit))])

def Select.lines (s : Select) : List (List Fragment) :=
  (.text "SELECT " :: joined ", " (s.outputs.map Output.fragments)) ::
    [.text "FROM ", .name s.table] ::
    (line "WHERE" (whereFragments s.tests s.places) ++ s.lastLines)

/-- Fragments that write the same text and hand the same values over. -/
def Alike (first second : List Fragment) : Prop :=
  (∀ count, textFrom count first = textFrom count second) ∧ values first = values second

theorem Alike.append {a b c d : List Fragment} (first : Alike a b) (second : Alike c d) :
    Alike (a ++ c) (b ++ d) :=
  ⟨fun count => by rw [textFrom_append, textFrom_append, first.1, second.1, first.2],
    by rw [values_append, values_append, first.2, second.2]⟩

def broken (lines : List (List Fragment)) : List Fragment :=
  lines.flatMap fun line => .text "\n" :: line

theorem broken_append (first second : List (List Fragment)) :
    broken (first ++ second) = broken first ++ broken second := List.flatMap_append

theorem broken_cons (first : List Fragment) (rest : List (List Fragment)) :
    broken (first :: rest) = .text "\n" :: (first ++ broken rest) := rfl

theorem joined_lines (first : List Fragment) (rest : List (List Fragment)) :
    joined "\n" (first :: rest) = first ++ broken rest := by
  induction rest generalizing first with
  | nil => exact (List.append_nil first).symm
  | cons next rest ih =>
    rw [joined, ih next, ← List.cons_append]
    rfl

theorem broken_line_alike (word : String) (body : List Fragment) :
    Alike (broken (line word body)) (clause word body) := by
  unfold line clause broken
  by_cases empty : body.isEmpty = true
  · rw [if_pos empty, if_pos empty]
    exact ⟨fun _ => rfl, rfl⟩
  · rw [if_neg empty, if_neg empty]
    exact ⟨fun count => by simp [Text.ofString_append, Text.append_assoc], by simp [values]⟩

theorem broken_groupLines_alike (groupBy : Option (List Text)) :
    Alike (broken (groupBy.elim [] groupLines)) (groupBy.elim [] groupFragments) := by
  cases groupBy with
  | none => exact ⟨fun _ => rfl, rfl⟩
  | some columns =>
    refine ⟨fun count => ?_, ?_⟩
    · simp only [Option.elim_some, broken, groupLines, groupFragments, List.flatMap_singleton,
        textFrom_text, ← Text.append_assoc, ← Text.ofString_append]
      rfl
    · simp only [Option.elim_some, broken, groupLines, groupFragments, List.flatMap_singleton, values]

theorem Select.lines_alike (s : Select) : Alike (joined "\n" s.lines) s.fragments := by
  have outputs : Alike (.text "SELECT " :: joined ", " (s.outputs.map Output.fragments))
      (.text "SELECT " :: joined ", " (s.outputs.map Output.fragments)) := ⟨fun _ => rfl, rfl⟩
  have source : Alike [.text "\n", .text "FROM ", .name s.table] [.text "\nFROM ", .name s.table] :=
    ⟨fun _ => rfl, rfl⟩
  have condition := broken_line_alike "WHERE" (whereFragments s.tests s.places)
  have order := broken_line_alike "ORDER BY" (s.order.elim [] Order.fragments)
  have limit := broken_line_alike "LIMIT"
    (s.limit.elim [] fun limit => [.text (String.ofList (Number.intChars limit))])
  have whole := outputs.append (source.append
    (((condition.append (broken_groupLines_alike s.groupBy)).append order).append limit))
  simpa only [Select.lines, Select.lastLines, Select.fragments, List.cons_append, List.append_assoc,
    List.nil_append, joined_lines, broken_append, broken_cons] using whole

theorem textsFrom_line (word : String) (body : List Fragment) (count : Nat) :
    textsFrom count (line word body) =
      (text? count body).toList.map fun text => ((word ++ " " : String) : Text) ++ text := by
  unfold line text?
  by_cases empty : body.isEmpty = true
  · rw [if_pos empty, if_pos empty]
    rfl
  · rw [if_neg empty, if_neg empty]
    rfl

theorem values_line (word : String) (body : List Fragment) :
    (line word body).flatMap values = values body := by
  unfold line
  by_cases empty : body.isEmpty = true
  · rw [if_pos empty, List.isEmpty_iff.mp empty]
    rfl
  · rw [if_neg empty]
    exact List.flatMap_singleton _ _

theorem Select.values_lastLines (s : Select) : ∀ part ∈ s.lastLines, values part = [] := by
  have grouped : (s.groupBy.elim [] groupLines).flatMap values = [] := by
    cases s.groupBy with
    | none => rfl
    | some columns =>
      simp only [Option.elim_some, groupLines, List.flatMap_singleton, values, values_joined]
      simp [values]
  have ordered : (line "ORDER BY" (s.order.elim [] Order.fragments)).flatMap values = [] := by
    rw [values_line]
    rcases s.order with _ | ⟨_ | _⟩ <;> rfl
  have limited : (line "LIMIT"
      (s.limit.elim [] fun limit => [.text (String.ofList (Number.intChars limit))])).flatMap
        values = [] := by
    rw [values_line]
    cases s.limit <;> rfl
  refine List.flatMap_eq_nil_iff.mp ?_
  rw [lastLines, List.flatMap_append, List.flatMap_append, grouped, ordered, limited]
  rfl

theorem limitLine_eq (limit : Option Int) :
    limitLine limit = (line "LIMIT"
      (limit.elim [] fun limit => [.text (String.ofList (Number.intChars limit))])).map
        (textFrom 0) := by
  cases limit with
  | none => rfl
  | some n =>
    have numeral : Text.ofString (String.ofList (Number.intChars n)) = .ofChars (Number.intChars n) :=
      congrArg Text.ofChars String.toList_ofList
    simp only [limitLine, Option.toList_some, Option.elim_some, line, List.isEmpty_cons,
      Bool.false_eq_true, if_false, List.map_cons, List.map_nil, textFrom_text, textFrom_nil, numeral,
      Text.append_empty]
    rfl

theorem Select.textsFrom_lines {s : Select} {layer : Layer} (named : layer.name = s.table)
    (count : Nat) :
    textsFrom count s.lines =
      selectLines (textsFrom count (s.outputs.map Output.fragments)) layer ++
        whereLine (text? (count + ((s.outputs.map Output.fragments).flatMap values).length)
          (whereFragments s.tests s.places)) ++
        (s.groupBy.elim [] groupLines).map (textFrom 0) ++
        (line "ORDER BY" (s.order.elim [] Order.fragments)).map (textFrom 0) ++ limitLine s.limit := by
  have first : values (.text "SELECT " :: joined ", " (s.outputs.map Output.fragments)) =
      (s.outputs.map Output.fragments).flatMap values := values_joined ", " _
  rw [Select.lines, textsFrom, textsFrom, textsFrom_append, textsFrom_line,
    textsFrom_of_no_values s.values_lastLines, first, lastLines, List.map_append, List.map_append,
    limitLine_eq, selectLines, named, intercalate_textsFrom]
  simp only [textFrom_text, textFrom_name, textFrom_nil, Text.append_empty, whereLine,
    List.cons_append, List.nil_append, List.append_assoc]
  rfl

theorem Select.values_fragments (s : Select) :
    values s.fragments = (s.outputs.map Output.fragments).flatMap values ++
      values (whereFragments s.tests s.places) := by
  rw [← s.lines_alike.2, values_joined]
  have last : s.lastLines.flatMap values = [] := List.flatMap_eq_nil_iff.mpr s.values_lastLines
  rw [Select.lines, List.flatMap_cons, List.flatMap_cons, List.flatMap_append, values_line, last]
  simp [values, values_joined]

theorem orderLine_ok_iff (layer : Layer) (q : Query) (result : List Text) :
    orderLine layer q = .ok result ↔ (∀ o ∈ q.orderBy, layer.hasColumn o.field = true) ∧
      result = (line "ORDER BY" (q.order.elim [] Order.fragments)).map (textFrom 0) := by
  unfold orderLine Query.order
  cases q.orderBy with
  | none =>
    simp only [Except.ok.injEq, Option.mem_def, reduceCtorEq, false_implies, implies_true, true_and]
    exact eq_comm
  | some o =>
    simp only [bind_known_iff (column_ok_iff layer _), pure_ok_iff, Option.mem_def,
      Option.some.injEq, forall_eq', Option.map_some, Option.elim_some, line, Order.fragments]
    simp [Text.ofString_append, Text.append_assoc, Text.append_empty]

theorem groupLine_ok_iff (layer : Layer) (q : Query) (result : List Text) :
    groupLine layer q = .ok result ↔
      (∀ a ∈ q.aggregate, ∀ name ∈ a.groupBy, layer.hasColumn name = true) ∧
        result = ((q.aggregate.map Aggregate.groupBy).elim [] groupLines).map (textFrom 0) := by
  unfold groupLine
  cases q.aggregate with
  | none =>
    simp only [Except.ok.injEq, Option.mem_def, reduceCtorEq, false_implies, implies_true, true_and]
    exact eq_comm
  | some a =>
    have unvalued : ∀ part ∈ a.groupBy.map fun name => [Fragment.name name], values part = [] := by
      simp [values]
    have columns : a.groupBy.map quoteIdentifier =
        textsFrom 0 (a.groupBy.map fun name => [Fragment.name name]) := by
      rw [textsFrom_of_no_values unvalued, List.map_map]
      exact List.map_congr_left fun name _ => (Text.append_empty _).symm
    simp only [bind_known_iff (mapM_known_iff (column_ok_iff layer) _), pure_ok_iff, Option.mem_def,
      Option.some.injEq, forall_eq', columns, intercalate_textsFrom]
    rfl

theorem compilable_iff {registry : Registry} {layer : Layer} {q : Query} :
    q.Compilable registry layer ↔
      ((∀ f ∈ q.attributes, f.Testable layer) ∧ ∀ s ∈ q.places, s.Placeable registry) ∧
        q.OutputsKnown registry layer :=
  ⟨fun h => ⟨⟨h.tests, h.places⟩, h.outputs⟩, fun h => ⟨h.1.1, h.1.2, h.2⟩⟩

def PlainKnown (layer : Layer) (q : Query) : Prop :=
  match q.aggregate with
  | some a => (∀ name ∈ a.groupBy, layer.hasColumn name = true) ∧
      ∀ m ∈ a.metrics, m.field ≠ "*" → layer.hasColumn m.field = true
  | none => ∀ name ∈ q.selectFields.getD [], layer.hasColumn name = true

def plainOutputs (q : Query) (tolerance : Number) : List Output :=
  match q.aggregate with
  | some a => a.groupBy.map Output.column ++ a.metrics.map Metric.output
  | none => q.outputs ++ [.geometry tolerance]

theorem outputs_ok_iff (layer : Layer) (q : Query) (tolerance : Number) (result : List Text) :
    outputs layer q tolerance = .ok result ↔
      PlainKnown layer q ∧ result = (plainOutputs q tolerance).map Output.text := by
  unfold outputs PlainKnown plainOutputs
  cases q.aggregate with
  | some a => exact aggregateProjection_ok_iff layer a result
  | none =>
    rw [bind_known_iff (projection_ok_iff layer q), pure_ok_iff, List.map_append, List.map_singleton,
      Output.text, Output.fragments, textFrom_text, textFrom_nil, Text.append_empty]

theorem statement_of_plain {q : Query} (plain : q.nearest = []) (tolerance : Number) :
    q.statement tolerance = {
      outputs := plainOutputs q tolerance
      table := q.selectLayer
      tests := q.attributeGroup
      places := q.spatialGroup
      groupBy := q.aggregate.map Aggregate.groupBy
      order := q.order
      limit := q.limit } := by
  unfold Query.statement plainOutputs
  rw [plain]
  cases q.aggregate <;> rfl

theorem values_plainOutputs (q : Query) (tolerance : Number) :
    ∀ part ∈ (plainOutputs q tolerance).map Output.fragments, values part = [] := by
  unfold plainOutputs
  cases q.aggregate with
  | some a =>
    have metric (m : Metric) : values m.output.fragments = [] := by
      unfold Metric.output Metric.argument
      split
      · split <;> rfl
      · rfl
    rw [List.map_append, List.map_map, List.map_map]
    exact List.forall_mem_append.mpr ⟨List.forall_mem_map.mpr fun _ _ => rfl,
      List.forall_mem_map.mpr fun m _ => metric m⟩
  | none =>
    rw [List.map_append]
    exact List.forall_mem_append.mpr ⟨values_outputs q, by simp [Output.fragments, values]⟩

theorem plainLines_ok_iff (registry : Registry) {layer : Layer} {q : Query} (tolerance : Number)
    (named : layer.name = q.selectLayer) (plain : q.nearest = []) (given : List FilterValue)
    (result : List Text × List FilterValue) :
    (plainLines registry layer q tolerance).run given = .ok result ↔
      q.Compilable registry layer ∧ result = (textsFrom given.length (q.statement tolerance).lines,
        given ++ values (q.statement tolerance).fragments) := by
  have everywhere : q.spatials = q.places :=
    (List.filter_eq_self.mpr fun s member => by
      simpa using List.filter_eq_nil_iff.mp plain s member).symm
  have known : q.OutputsKnown registry layer ↔ PlainKnown layer q ∧
      (∀ a ∈ q.aggregate, ∀ name ∈ a.groupBy, layer.hasColumn name = true) ∧
      ∀ o ∈ q.orderBy, layer.hasColumn o.field = true := by
    unfold Query.OutputsKnown PlainKnown
    rw [plain]
    cases q.aggregate with
    | none => simp only [Option.mem_def, reduceCtorEq, false_implies, implies_true, true_and]
    | some a =>
      simp only [Option.mem_def, Option.some.injEq, forall_eq']
      tauto
  have unmeasured := values_plainOutputs q tolerance
  have silent := List.flatMap_eq_nil_iff.mpr unmeasured
  unfold plainLines
  rw [compilable_iff, known, statement_of_plain plain, Select.textsFrom_lines named,
    Select.values_fragments, textsFrom_of_no_values unmeasured, silent, List.map_map, everywhere,
    run_bind_known_iff (run_lift_iff (outputs_ok_iff layer q tolerance)),
    run_bind_known_iff (whereClause_ok_iff registry layer q given),
    run_bind_known_iff (run_lift_iff (groupLine_ok_iff layer q)),
    run_bind_known_iff (run_lift_iff (orderLine_ok_iff layer q)), run_pure_iff]
  tauto

theorem statement_of_nearest {q : Query} {nearest : SpatialFilter} (single : q.nearest = [nearest])
    {k : Int} (bounded : nearest.limit = some k) (tolerance : Number) :
    q.statement tolerance = {
      outputs := q.outputs ++ [.distance nearest.union, .geometry tolerance]
      table := q.selectLayer
      tests := q.attributeGroup
      places := q.spatialGroup
      groupBy := none
      order := some .distance
      limit := some (q.limit.elim k (min · k)) } := by
  simp only [Query.statement, single, bounded, Option.getD_some]

/-- The target is made before the fields and stands after them: they hand nothing over. -/
theorem textsFrom_nearest (q : Query) (target : Union) (tolerance : Number) (count : Nat) :
    textsFrom count ((q.outputs ++ [Output.distance target, .geometry tolerance]).map
        Output.fragments) =
      q.outputs.map Output.text ++
        [("ST_Distance(" ++ Catalog.projectedColumn ++ ", (") ++ textFrom count target.fragments ++
          ")) AS distance", .ofString (geometryText tolerance)] := by
  have fields := textsFrom_of_no_values (values_outputs q) count
  have silent := List.flatMap_eq_nil_iff.mpr (values_outputs q)
  rw [List.map_append, textsFrom_append, fields, silent, List.map_map]
  refine congrArg (q.outputs.map Output.text ++ ·) ?_
  simp [textsFrom, Output.fragments, Text.ofString_append, Text.append_assoc, Text.append_empty]

theorem values_nearest (q : Query) (target : Union) (tolerance : Number) :
    ((q.outputs ++ [Output.distance target, .geometry tolerance]).map Output.fragments).flatMap
        values = values target.fragments := by
  have silent := List.flatMap_eq_nil_iff.mpr (values_outputs q)
  rw [List.map_append, List.flatMap_append, silent]
  simp [Output.fragments, values, values_append]

theorem nearestLines_ok_iff (registry : Registry) {layer : Layer} {q : Query} (tolerance : Number)
    (named : layer.name = q.selectLayer) {nearest : SpatialFilter} (single : q.nearest = [nearest])
    (given : List FilterValue) (result : List Text × List FilterValue) :
    (nearestLines registry layer q tolerance nearest).run given = .ok result ↔
      q.Compilable registry layer ∧ result = (textsFrom given.length (q.statement tolerance).lines,
        given ++ values (q.statement tolerance).fragments) := by
  have known : q.OutputsKnown registry layer ↔
      q.aggregate = none ∧ nearest.limit.isSome = true ∧ nearest.Reachable registry ∧
        ∀ name ∈ q.selectFields.getD [], layer.hasColumn name = true := by
    unfold Query.OutputsKnown
    rw [single]
  unfold nearestLines
  rw [compilable_iff, known]
  cases aggregated : q.aggregate with
  | some a =>
    simp only [Option.isSome_some, if_true, reduceCtorEq, false_and, and_false, iff_false]
    exact throw_ne_ok _ _
  | none =>
    cases bounded : nearest.limit with
    | none =>
      simp only [Option.isSome_none, Bool.false_eq_true, if_false, false_and, and_false, iff_false]
      exact throw_ne_ok _ _
    | some k =>
      have others : (q.spatials.filter fun s => !s.isNearest) = q.places := rfl
      have nearestFirst : (line "ORDER BY" ((some Order.distance).elim [] Order.fragments)).map
          (textFrom 0) = [.ofString "ORDER BY distance ASC"] := by decide
      simp only [Option.isSome_none, Bool.false_eq_true, if_false, Option.isSome_some, true_and]
      rw [statement_of_nearest single bounded, Select.textsFrom_lines named,
        Select.values_fragments, textsFrom_nearest, values_nearest, nearestFirst, others,
        run_bind_known_iff (targetSubquery_ok_iff registry nearest given),
        run_bind_known_iff (run_lift_iff (projection_ok_iff layer q)),
        run_bind_known_iff (whereClause_ok_iff registry layer q _), run_pure_iff]
      simp only [List.length_append, List.append_assoc, Option.elim_none, List.map_nil,
        List.nil_append]
      tauto

theorem compile_ok_iff (registry : Registry) (q : Query) (tolerance : Number) (result : Written) :
    compile registry q tolerance = .ok result ↔
      ∃ layer, registry.get? q.selectLayer = some layer ∧ q.Compilable registry layer ∧
        result = (q.statement tolerance).written := by
  have spec (l : List Text × List FilterValue) : (lines registry q tolerance).run [] = .ok l ↔
      (∃ layer, registry.get? q.selectLayer = some layer ∧ q.Compilable registry layer) ∧
        l = (textsFrom 0 (q.statement tolerance).lines,
          values (q.statement tolerance).fragments) := by
    unfold lines
    rw [run_bind_layer_iff, ← exists_and_right]
    refine exists_congr fun layer => ?_
    rw [and_assoc]
    refine and_congr_right fun found => ?_
    have named : layer.name = q.selectLayer := registry.name_of_get? found
    rcases nearest : q.nearest with _ | ⟨first, _ | ⟨second, others⟩⟩
    · exact plainLines_ok_iff registry tolerance named nearest [] l
    · exact nearestLines_ok_iff registry tolerance named nearest [] l
    · have several : ¬ q.Compilable registry layer := fun compilable => by
        have known := compilable.outputs
        unfold Query.OutputsKnown at known
        rw [nearest] at known
        exact known
      simp only [several, false_and, iff_false]
      exact throw_ne_ok _ _
  have whole := (q.statement tolerance).lines_alike.1 0
  unfold compile
  rw [bind_known_iff spec, pure_ok_iff, intercalate_textsFrom, whole]
  simp only [← and_assoc, exists_and_right]
  rfl

set_option maxRecDepth 8000 in
theorem compile_sampleQuery : compile sampleRegistry sampleQuery (.int 0) =
    .ok (sampleQuery.statement (.int 0)).written := rfl

end SpatialQuery.Sql
