import SpatialQuery.Proofs.Query.Planned
import SpatialQuery.Proofs.Sql.Form

/-!
# Columns of a statement

Grounding lets a query name a concept field, so that it can be filtered by it, and the filters are
rewritten before they are compiled.  What a filter names in the statement is therefore a column that
its table has.  A field that is selected, grouped by, measured or ordered by is not rewritten: where
such a field is a concept, the statement names a column that need not be there.
-/

set_option autoImplicit false

namespace SpatialQuery

open Sql

theorem Registry.RealizesCatalog.queryable_iff {registry : Registry}
    (realizes : registry.RealizesCatalog) {name field : Text} {layer : Layer}
    (found : registry.get? name = some layer) :
    field ∈ layer.queryableFields ↔
      field ∈ layer.loadedFields ∨ field ∈ Catalog.virtualFields name := by
  obtain ⟨schema, _, here⟩ := realizes.get? found
  have same : schema.name = name := here.name.symm.trans (registry.name_of_get? found)
  exact same ▸ here.queryable field

theorem FilterRules.not_virtual_of_leaves {layer : Text} {f : AttributeFilter}
    (left : builtIn.Leaves layer f) : f.field ∉ Catalog.virtualFields layer := by
  intro concept
  unfold Catalog.virtualFields at concept
  by_cases zoning : layer = "zoning_districts"
  · subst zoning
    obtain ⟨field, op, value⟩ := f
    have named : field = "allows_residential" ∨ field = "allows_commercial" := by
      simpa using concept
    rcases named with rfl | rfl
    · have replaced : codeStart "zoning_districts" "allows_residential" "R"
          ⟨"allows_residential", op, value⟩ = .ok (⟨"allows_residential", op, value⟩, none) := left
      unfold codeStart at replaced
      split at replaced <;> cases replaced
    · have replaced : codeStart "zoning_districts" "allows_commercial" "C"
          ⟨"allows_commercial", op, value⟩ = .ok (⟨"allows_commercial", op, value⟩, none) := left
      unfold codeStart at replaced
      split at replaced <;> cases replaced
  · simp [zoning] at concept

def Aggregate.fields (a : Aggregate) : List Text :=
  a.groupBy ++ (a.metrics.map Metric.field).filter fun field : Text => decide (field ≠ "*")

namespace Query

variable {q : Query} {registry : Registry}

/-- The fields that a query names outside its filters. -/
def shownFields (q : Query) : List Text :=
  q.selectFields.getD [] ++ q.orderBy.elim [] (fun o => [o.field]) ++
    q.aggregate.elim [] Aggregate.fields

theorem IsGrounded.shown {layer : Layer} (grounded : q.IsGrounded registry layer) :
    ∀ field ∈ q.shownFields, field ∈ layer.queryableFields := by
  unfold shownFields
  simp only [List.forall_mem_append]
  refine ⟨⟨grounded.fields, ?_⟩, ?_⟩
  · cases order : q.orderBy with
    | none => simp
    | some o => simpa using grounded.order o order
  · cases aggregated : q.aggregate with
    | none => simp
    | some a =>
      change ∀ field ∈ a.fields, field ∈ layer.queryableFields
      refine List.forall_mem_append.mpr ⟨grounded.groups a aggregated, fun field member => ?_⟩
      obtain ⟨measured, part⟩ := List.mem_filter.mp member
      obtain ⟨m, inMetrics, rfl⟩ := List.mem_map.mp measured
      exact grounded.metrics a aggregated m inMetrics (by simpa using part)

/-! ## Where a column is named -/

/-- The three kinds of places from which a column gets into a statement. -/
inductive Names (q : Query) : Text → Text → Prop where
  | shown {field : Text} : field ∈ q.shownFields → Names q q.selectLayer field
  | filter {f : AttributeFilter} : f ∈ q.attributes → Names q q.selectLayer f.field
  | target {s : SpatialFilter} {f : AttributeFilter} : s ∈ q.spatials → f ∈ s.targets →
      Names q s.targetLayer f.field

theorem names_of_spatial {s : SpatialFilter} {name field : Text} (inSpatials : s ∈ q.spatials)
    (mentioned : .column name field ∈ s.mentions) : q.Names name field := by
  simp only [SpatialFilter.mentions, AttributeFilter.mention, List.mem_cons, reduceCtorEq, false_or,
    List.mem_map] at mentioned
  obtain ⟨f, inTargets, same⟩ := mentioned
  cases same
  exact .target inSpatials inTargets

theorem names_of_source {name field : Text} (mentioned : .column name field ∈ q.sourceMentions) :
    q.Names name field := by
  simp only [sourceMentions, AttributeFilter.mention, List.cons_append, List.mem_cons,
    reduceCtorEq, false_or, List.mem_append, List.mem_map, List.mem_flatMap] at mentioned
  rcases mentioned with ⟨f, inAttributes, same⟩ | ⟨s, inPlaces, mentioned⟩
  · cases same
    exact .filter inAttributes
  · exact names_of_spatial (List.mem_filter.mp inPlaces).1 mentioned

theorem names_of_columns (fields : List Text) (shown : ∀ field ∈ fields, field ∈ q.shownFields)
    {name field : Text} (mentioned : .column name field ∈ fields.map (Mention.column q.selectLayer)) :
    q.Names name field := by
  obtain ⟨_, member, same⟩ := List.mem_map.mp mentioned
  cases same
  exact .shown (shown field member)

theorem names_of_selected {name field : Text}
    (mentioned : .column name field ∈ q.selectedMentions) : q.Names name field :=
  names_of_columns _ (fun _ member => by simp [shownFields, member]) mentioned

theorem names_of_order {name field : Text} (mentioned : .column name field ∈ q.orderMentions) :
    q.Names name field := by
  refine names_of_columns (q.orderBy.elim [] fun o => [o.field])
    (fun _ member => by simp [shownFields, member]) ?_
  unfold orderMentions at mentioned
  cases order : q.orderBy with
  | none => simp [order] at mentioned
  | some o => simpa [order] using mentioned

theorem names_of_metric {a : Aggregate} (aggregated : q.aggregate = some a) {m : Metric}
    (inMetrics : m ∈ a.metrics) {name field : Text}
    (mentioned : .column name field ∈ m.mentions q.selectLayer) : q.Names name field := by
  unfold Metric.mentions at mentioned
  by_cases whole : m.field = "*"
  · simp [whole] at mentioned
  · simp only [whole, if_false, List.cons_append, List.nil_append, List.mem_cons, Mention.column.injEq,
      reduceCtorEq, List.not_mem_nil, or_false] at mentioned
    obtain ⟨rfl, rfl⟩ := mentioned
    refine .shown ?_
    simp only [shownFields, aggregated, Option.elim_some, Aggregate.fields, List.mem_append,
      List.mem_filter, List.mem_map]
    exact Or.inr (Or.inr ⟨⟨m, inMetrics, rfl⟩, by simpa using whole⟩)

theorem names_of_mentions {name field : Text} (mentioned : .column name field ∈ q.mentions) :
    q.Names name field := by
  unfold mentions at mentioned
  rcases filters : q.nearest with _ | ⟨nearest, others⟩
  · cases aggregated : q.aggregate with
    | none =>
      simp only [filters, aggregated, List.mem_append] at mentioned
      rcases mentioned with (mentioned | mentioned) | mentioned
      · exact names_of_selected mentioned
      · exact names_of_source mentioned
      · exact names_of_order mentioned
    | some a =>
      have groups : ∀ field ∈ a.groupBy, field ∈ q.shownFields := fun field member => by
        simp [shownFields, aggregated, Aggregate.fields, member]
      simp only [filters, aggregated, List.mem_append, List.mem_flatMap] at mentioned
      rcases mentioned with (((mentioned | ⟨m, inMetrics, mentioned⟩) | mentioned) | mentioned) |
        mentioned
      · exact names_of_columns _ groups mentioned
      · exact names_of_metric aggregated inMetrics mentioned
      · exact names_of_source mentioned
      · exact names_of_columns _ groups mentioned
      · exact names_of_order mentioned
  · have inSpatials : nearest ∈ q.spatials :=
      (List.mem_filter.mp (filters ▸ List.mem_cons_self : nearest ∈ q.nearest)).1
    simp only [filters, List.mem_append] at mentioned
    rcases mentioned with (mentioned | mentioned) | mentioned
    · exact names_of_selected mentioned
    · exact names_of_spatial inSpatials mentioned
    · exact names_of_source mentioned

end Query

/-! ## Columns that are there -/

namespace Service.Plan

variable {registry : Registry} {q : Query} {plan : Plan}

theorem shown_of_ofQuery (planned : ofQuery registry q = .ok plan) :
    plan.limited.query.selectLayer = q.selectLayer ∧
      plan.limited.query.shownFields = q.shownFields := by
  obtain ⟨normal, notes, normalized, _, rfl⟩ := exists_of_ofQuery planned
  rw [Query.eq_normalized normalized]
  exact ⟨rfl, rfl⟩

theorem isLeft_of_ofQuery (planned : ofQuery registry q = .ok plan) :
    plan.limited.query.IsLeft .builtIn := by
  obtain ⟨normal, notes, normalized, _, rfl⟩ := exists_of_ofQuery planned
  exact (Query.isLeft_of_normalize FilterRules.builtIn_isFinal normalized).limited

theorem column_of_names (realizes : registry.RealizesCatalog)
    (planned : ofQuery registry q = .ok plan) {name field : Text}
    (named : plan.limited.query.Names name field) :
    (∃ layer, registry.get? name = some layer ∧ field ∈ layer.loadedFields ∧
      field ∉ Catalog.virtualFields name) ∨
    (name = plan.limited.query.selectLayer ∧ field ∈ plan.limited.query.shownFields ∧
      field ∈ Catalog.virtualFields name) := by
  obtain ⟨layer, found, answerable⟩ := answerable_of_ofQuery planned
  have left := isLeft_of_ofQuery planned
  cases named with
  | shown member =>
    have queryable := answerable.toIsGrounded.shown field member
    by_cases concept : field ∈ Catalog.virtualFields plan.limited.query.selectLayer
    · exact Or.inr ⟨rfl, member, concept⟩
    · have there := ((realizes.queryable_iff found).mp queryable).resolve_right concept
      exact Or.inl ⟨layer, found, there, concept⟩
  | @filter f member =>
    have noConcept := FilterRules.not_virtual_of_leaves (left.attributes f member)
    have queryable := (realizes.queryable_iff found).mp (answerable.attributes f member)
    exact Or.inl ⟨layer, found, queryable.resolve_right noConcept, noConcept⟩
  | @target s f inSpatials inTargets =>
    have noConcept := FilterRules.not_virtual_of_leaves (left.targets s inSpatials f inTargets)
    obtain ⟨target, present, filters⟩ := answerable.spatials s inSpatials
    have queryable := (realizes.queryable_iff present).mp (filters f inTargets)
    exact Or.inl ⟨target, present, queryable.resolve_right noConcept, noConcept⟩

/-- The identifiers of the statement are the names that the query mentions.  If no concept is named
outside the filters, every column among them is loaded on its layer, and none is a concept. -/
theorem only_columns_reach_statement [Stack] {ε σ : Type}
    {describe : Manifest.Describe (ExceptT ε (StateM σ))} {now : Text} {file : Option Text}
    {before after : σ}
    (built : (Manifest.registryOfFile describe now file).run before = (.ok (.ok registry), after))
    {raw : Json} (accepted : Query.ofJson raw = .ok q) (planned : ofQuery registry q = .ok plan)
    (columnsOnly : ∀ field ∈ q.shownFields, field ∉ Catalog.virtualFields q.selectLayer) :
    ∃ written pieces, plan.statement = .ok written ∧ scan written.text = some pieces ∧
      identifiers pieces = plan.limited.query.mentions.map Mention.text ∧
      ∀ name field, .column name field ∈ plan.limited.query.mentions →
        ∃ layer, registry.get? name = some layer ∧ field ∈ layer.loadedFields ∧
          field ∉ Catalog.virtualFields name := by
  have realizes := Manifest.registryOfFile_realizes built
  obtain ⟨selected, shown⟩ := shown_of_ofQuery planned
  refine ⟨_, _, statement_of_ofQuery realizes.isBacked accepted planned, Select.scan_written _, ?_, ?_⟩
  · rw [identifiers_piecesFrom, Select.contents_fragments, select, names_statement]
  · intro name field mentioned
    rcases column_of_names realizes planned (Query.names_of_mentions mentioned) with
      there | ⟨rfl, inShown, concept⟩
    · exact there
    · rw [shown] at inShown
      rw [selected] at concept
      exact absurd concept (columnsOnly field inShown)

section

open Stack.Usual

def zoningManifest : Text := "\x7b\"layers\": \x7b\"zoning_districts\": \x7b\x7d\x7d\x7d"

def zoningDescribe : Manifest.Describe (ExceptT Unit (StateM Unit)) :=
  some fun _ => pure ["zone_code"]

theorem zoning_built : ∃ registry layer,
    (Manifest.registryOfFile zoningDescribe "" (some zoningManifest)).run () =
      (.ok (.ok registry), ()) ∧
    registry.get? "zoning_districts" = some layer ∧ layer.isLoaded = true ∧
    layer.loadedFields = (["zone_code"] : List Text) := by
  have passes : (outcome? (Manifest.registryOfFile zoningDescribe "" (some zoningManifest))).any
      (fun registry => decide (registry.loadedColumns =
        ([("zoning_districts", ["zone_code"])] : List (Text × List Text)))) = true := by
    decide +kernel
  obtain ⟨registry, built, passes⟩ := run_of_outcome passes
  have realizes := Manifest.registryOfFile_realizes built
  have listed : (("zoning_districts", ["zone_code"]) : Text × List Text) ∈ registry.loadedColumns := by
    simp [of_decide_eq_true passes]
  obtain ⟨layer, found⟩ := realizes.get?_of_loadedColumns listed
  exact ⟨registry, layer, built, found⟩

def residentialRequest (field : Text) : Json := .obj [
  ("selectLayer", .str "zoning_districts"),
  ("selectFields", .arr [.str field]),
  ("attributeFilters", .arr [
    .obj [("field", .str "allows_residential"), ("op", .str "eq"), ("value", .bool true)]])]

def residentialQuery (field : Text) : Query :=
  { Query.ofLayer "zoning_districts" with
    selectFields := some [field]
    attributeFilters := some [⟨"allows_residential", .eq, .one (.bool true)⟩] }

def residentialNormal (field : Text) : Query :=
  { residentialQuery field with
    attributeFilters := some [⟨"zone_code", .like, .one (.str "R%")⟩] }

theorem residential_planned {layer : Layer} (realizes : registry.RealizesCatalog)
    (found : registry.get? "zoning_districts" = some layer) (isLoaded : layer.isLoaded = true)
    (columns : layer.loadedFields = (["zone_code"] : List Text)) {field : Text}
    (queryable : field ∈ layer.queryableFields) :
    ∃ notes, ofQuery registry (residentialQuery field) =
      .ok ⟨registry, (residentialNormal field).limited registry, notes⟩ := by
  have code : ("zone_code" : Text) ∈ layer.queryableFields :=
    (realizes.queryable_iff found).mpr (Or.inl (columns ▸ List.mem_cons_self))
  have grounded : (residentialNormal field).groundingIssues registry = [] :=
    Query.groundingIssues_eq_nil_iff.mpr ⟨layer, found, {
      fields := by simpa [residentialNormal, residentialQuery] using queryable
      attributes := by simpa [residentialNormal, Query.attributes] using code
      order := by simp [residentialNormal, residentialQuery, Query.ofLayer]
      groups := by simp [residentialNormal, residentialQuery, Query.ofLayer]
      metrics := by simp [residentialNormal, residentialQuery, Query.ofLayer]
      spatials := by simp [residentialNormal, residentialQuery, Query.ofLayer, Query.spatials]
      single := Nat.zero_le 1
      plain := fun _ => rfl
      loaded := isLoaded
      untimed := rfl
      comparable := by
        intro f member
        cases List.mem_singleton.mp member
        exact ⟨by simp [AttributeOp.isNumeric], by simp⟩
      targets := by simp [residentialNormal, residentialQuery, Query.ofLayer, Query.spatials] }⟩
  have normalized : ∃ notes,
      (residentialQuery field).normalize .builtIn = .ok (residentialNormal field, notes) :=
    ⟨_, rfl⟩
  obtain ⟨notes, normalized⟩ := normalized
  exact ⟨notes, by simp only [ofQuery, normalized, grounded]⟩

theorem only_columns_reach_statement_sample :
    ∃ registry plan written pieces,
      (Manifest.registryOfFile zoningDescribe "" (some zoningManifest)).run () =
        (.ok (.ok registry), ()) ∧
      Query.ofJson (residentialRequest "zone_code") = .ok (residentialQuery "zone_code") ∧
      ofQuery registry (residentialQuery "zone_code") = .ok plan ∧
      plan.statement = .ok written ∧ scan written.text = some pieces ∧
      identifiers pieces = (["zone_code", "zoning_districts", "zone_code"] : List Text) ∧
      ∃ layer, registry.get? "zoning_districts" = some layer ∧
        ("zone_code" : Text) ∈ layer.loadedFields := by
  obtain ⟨registry, layer, built, found, isLoaded, columns⟩ := zoning_built
  have realizes := Manifest.registryOfFile_realizes built
  have accepted : Query.ofJson (residentialRequest "zone_code") =
      .ok (residentialQuery "zone_code") := rfl
  obtain ⟨notes, planned⟩ := residential_planned realizes found isLoaded columns
    ((realizes.queryable_iff found).mpr (Or.inl (columns ▸ List.mem_cons_self)))
  obtain ⟨written, pieces, run, scanned, named, there⟩ :=
    only_columns_reach_statement built accepted planned (by decide)
  obtain ⟨known, present, column, _⟩ := there "zoning_districts" "zone_code" List.mem_cons_self
  exact ⟨registry, _, written, pieces, built, accepted, planned, run, scanned, named, known,
    present, column⟩

/-- A concept that is selected reaches the statement, although no table has it. -/
theorem selected_concept_reaches_statement :
    ∃ registry plan written pieces,
      (Manifest.registryOfFile zoningDescribe "" (some zoningManifest)).run () =
        (.ok (.ok registry), ()) ∧
      Query.ofJson (residentialRequest "allows_residential") =
        .ok (residentialQuery "allows_residential") ∧
      ofQuery registry (residentialQuery "allows_residential") = .ok plan ∧
      plan.statement = .ok written ∧ scan written.text = some pieces ∧
      identifiers pieces = (["allows_residential", "zoning_districts", "zone_code"] : List Text) ∧
      ∀ layer, registry.get? "zoning_districts" = some layer →
        ("allows_residential" : Text) ∉ layer.loadedFields := by
  obtain ⟨registry, layer, built, found, isLoaded, columns⟩ := zoning_built
  have realizes := Manifest.registryOfFile_realizes built
  have accepted : Query.ofJson (residentialRequest "allows_residential") =
      .ok (residentialQuery "allows_residential") := rfl
  obtain ⟨notes, planned⟩ := residential_planned realizes found isLoaded columns
    ((realizes.queryable_iff found).mpr (Or.inr List.mem_cons_self))
  refine ⟨registry, _, _, _, built, accepted, planned,
    statement_of_ofQuery realizes.isBacked accepted planned, Select.scan_written _, ?_, ?_⟩
  · rw [identifiers_piecesFrom, Select.contents_fragments, select, names_statement]
    rfl
  · intro known present
    cases found.symm.trans present
    rw [columns]
    decide

end

end Service.Plan

end SpatialQuery
