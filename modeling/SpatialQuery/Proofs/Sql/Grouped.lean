import SpatialQuery.Proofs.Layer.Tables
import SpatialQuery.Proofs.Sql.Columns
import SpatialQuery.Proofs.Sql.Outputs

/-!
# Grouped statements

A statement over groups of rows may show or order by what has one value in each group and by nothing
else.  What an aggregate puts out is either a column that it groups by or a metric; but what it is ordered
by is checked against the columns of the layer alone, and not against those of the groups.
-/

set_option autoImplicit false

namespace SpatialQuery

open Sql

namespace Sql

def Output.isAggregated : Output → Bool
  | .metric .. => true
  | _ => false

/-- Rows are grouped by these columns, and of all that is put out only these are no metrics. -/
structure Select.IsGroupedBy (s : Select) (columns : List Text) : Prop where
  groupBy : s.groupBy = some columns
  outputs : s.outputs.filter (fun o => !o.isAggregated) = columns.map .column

/-- Everything but the metrics has one value in each group, what the groups are ordered by as well. -/
structure Select.IsWellGrouped (s : Select) (columns : List Text) : Prop extends
    s.IsGroupedBy columns where
  order : ∀ o ∈ s.order, ∃ name ∈ columns, ∃ direction, o = .column name direction

theorem filter_not_isAggregated (columns : List Text) (metrics : List Metric) :
    (columns.map Output.column ++ metrics.map Metric.output).filter (fun o => !o.isAggregated) =
      columns.map .column := by
  have plain : (columns.map Output.column).filter (fun o => !o.isAggregated) = columns.map .column :=
    List.filter_eq_self.mpr (List.forall_mem_map.mpr fun _ _ => rfl)
  have aggregated : (metrics.map Metric.output).filter (fun o => !o.isAggregated) = [] :=
    List.filter_eq_nil_iff.mpr (List.forall_mem_map.mpr fun _ _ => Bool.false_ne_true)
  rw [List.filter_append, plain, aggregated, List.append_nil]

end Sql

namespace Query

variable {q : Query} {a : Aggregate}

theorem statement_of_aggregate (single : q.nearest = []) (aggregated : q.aggregate = some a)
    (tolerance : Number) : q.statement tolerance =
      { outputs := a.groupBy.map .column ++ a.metrics.map Metric.output
        table := q.selectLayer
        tests := q.attributeGroup
        places := q.spatialGroup
        groupBy := some a.groupBy
        order := q.order
        limit := q.limit } := by
  simp only [statement, single, aggregated]

theorem isGroupedBy_statement (single : q.nearest = []) (aggregated : q.aggregate = some a)
    (tolerance : Number) : (q.statement tolerance).IsGroupedBy a.groupBy := by
  rw [statement_of_aggregate single aggregated]
  exact ⟨rfl, filter_not_isAggregated a.groupBy a.metrics⟩

theorem isWellGrouped_statement_iff (single : q.nearest = []) (aggregated : q.aggregate = some a)
    (tolerance : Number) : (q.statement tolerance).IsWellGrouped a.groupBy ↔
      ∀ o ∈ q.orderBy, o.field ∈ a.groupBy := by
  have order : (q.statement tolerance).order = q.orderBy.map fun o => .column o.field o.direction := by
    rw [statement_of_aggregate single aggregated]
    rfl
  constructor
  · intro wellGrouped o given
    have ordered : Order.column o.field o.direction ∈ (q.statement tolerance).order := by
      rw [order, given]
      rfl
    obtain ⟨name, member, direction, same⟩ := wellGrouped.order _ ordered
    cases same
    exact member
  · intro within
    refine ⟨isGroupedBy_statement single aggregated tolerance, fun o ordered => ?_⟩
    rw [order] at ordered
    obtain ⟨given, asked, rfl⟩ := Option.map_eq_some_iff.mp ordered
    exact ⟨given.field, within given asked, given.direction, rfl⟩

end Query

namespace Service.Plan

variable {registry : Registry} {q : Query} {plan : Plan}

theorem orderBy_of_ofQuery (planned : ofQuery registry q = .ok plan) :
    plan.limited.query.orderBy = q.orderBy := by
  obtain ⟨normal, notes, normalized, _, rfl⟩ := exists_of_ofQuery planned
  rw [Query.eq_normalized normalized]
  rfl

/-- A planned aggregate puts out the columns of its groups and metrics.  It is well grouped only if it is
ordered by one of these columns, or not at all. -/
theorem aggregate_is_well_grouped_iff [Stack] {ε σ : Type}
    {describe : Manifest.Describe (ExceptT ε (StateM σ))} {now : Text} {file : Option Text}
    {before after : σ}
    (built : (Manifest.registryOfFile describe now file).run before = (.ok (.ok registry), after))
    {raw : Json} (accepted : Query.ofJson raw = .ok q) (planned : ofQuery registry q = .ok plan)
    {a : Aggregate} (aggregated : q.aggregate = some a) :
    plan.statement = .ok plan.select.written ∧ plan.select.IsGroupedBy a.groupBy ∧
      plan.select.order = (q.orderBy.map fun o => .column o.field o.direction) ∧
      (plan.select.IsWellGrouped a.groupBy ↔ ∀ o ∈ q.orderBy, o.field ∈ a.groupBy) := by
  have backed := Manifest.registryOfFile_isBacked built
  obtain ⟨layer, _, answerable⟩ := answerable_of_ofQuery planned
  have aggregate : plan.limited.query.aggregate = some a :=
    (aggregate_of_ofQuery planned).trans aggregated
  have single : plan.limited.query.nearest = [] := by
    by_contra some
    rw [answerable.plain some] at aggregate
    cases aggregate
  have wellGrouped := Query.isWellGrouped_statement_iff single aggregate plan.tolerance
  rw [orderBy_of_ofQuery planned] at wellGrouped
  refine ⟨statement_of_ofQuery backed accepted planned,
    Query.isGroupedBy_statement single aggregate _, ?_, wellGrouped⟩
  rw [select, Query.statement_of_aggregate single aggregate, ← orderBy_of_ofQuery planned]
  rfl

/-! ## Groups in the order of another column -/

/-- Whichever the layer, its table has these two columns. -/
def parcelsDescribe : Manifest.Describe (ExceptT Unit (StateM Unit)) :=
  some fun _ => pure ["zoning", "acres"]

def parcelsFile : Text := Manifest.listingFile ["parcels"]

theorem parcels_built [Stack] : ∃ registry layer,
    (Manifest.registryOfFile parcelsDescribe "" (some parcelsFile)).run () =
      (.ok (.ok registry), ()) ∧
    registry.get? "parcels" = some layer ∧ layer.isLoaded = true ∧
    ∀ name ∈ (["zoning", "acres"] : List Text), name ∈ layer.queryableFields := by
  have distinct : (["parcels"] : List Text).Nodup := by decide
  have whole : ∀ name ∈ (["parcels"] : List Text), name.IsWhole :=
    List.forall_mem_singleton.mpr (Text.isWhole_ofString _)
  obtain ⟨registry, built, loaded⟩ :=
    Manifest.exists_registry_of_listing distinct whole (fun _ => ["zoning", "acres"]) ""
  obtain ⟨layer, found, isLoaded, fields⟩ :=
    loaded (Catalog.schemas.head (by decide)) (List.head_mem _) (by decide) (by decide)
  refine ⟨registry, layer, built, found, isLoaded, fun name member => ?_⟩
  have external : ∀ name ∈ (["zoning", "acres"] : List Text), name ∉ Catalog.internalFields := by
    decide
  exact ((Manifest.registryOfFile_realizes built).queryable_iff found).mpr
    (Or.inl ((fields name).mpr ⟨member, external name member⟩))

def orderedRequest (field : Text) : Json := .obj [
  ("selectLayer", .str "parcels"),
  ("aggregate", .obj [
    ("groupBy", .arr [.str "zoning"]),
    ("metrics", .arr [.obj [("field", .str "*"), ("op", .str "count")]])]),
  ("orderBy", .obj [("field", .str field), ("direction", .str "asc")])]

def orderedQuery (field : Text) : Query :=
  { Query.ofLayer "parcels" with
    aggregate := some ⟨["zoning"], [⟨"*", .count, none⟩]⟩
    orderBy := some ⟨field, .asc⟩ }

theorem ordered_planned {layer : Layer} (found : registry.get? "parcels" = some layer)
    (isLoaded : layer.isLoaded = true)
    (queryable : ∀ name ∈ (["zoning", "acres"] : List Text), name ∈ layer.queryableFields)
    {field : Text} (known : field ∈ (["zoning", "acres"] : List Text)) :
    ofQuery registry (orderedQuery field) =
      .ok ⟨registry, (orderedQuery field).limited registry, []⟩ := by
  have grounded : (orderedQuery field).groundingIssues registry = [] :=
    Query.groundingIssues_eq_nil_iff.mpr ⟨layer, found, {
      fields := nofun
      attributes := nofun
      order := by
        rintro _ ⟨⟩
        exact queryable field known
      groups := by
        rintro _ ⟨⟩ name member
        cases List.mem_singleton.mp member
        exact queryable "zoning" (by decide)
      metrics := by
        rintro _ ⟨⟩ m member notWhole
        cases List.mem_singleton.mp member
        exact absurd rfl notWhole
      spatials := nofun
      single := Nat.zero_le 1
      plain := fun some => absurd rfl some
      loaded := isLoaded
      untimed := rfl
      comparable := nofun
      targets := nofun }⟩
  have normalized : (orderedQuery field).normalize .builtIn = .ok (orderedQuery field, []) := rfl
  simp only [ofQuery, normalized, grounded]

section

open Stack.Usual

theorem aggregate_is_well_grouped_iff_sample :
    ∃ (registry : Registry) (plan : Plan),
      (Manifest.registryOfFile parcelsDescribe "" (some parcelsFile)).run () =
        (.ok (.ok registry), ()) ∧
      Query.ofJson (orderedRequest "zoning") = .ok (orderedQuery "zoning") ∧
      ofQuery registry (orderedQuery "zoning") = .ok plan ∧
      plan.statement = .ok plan.select.written ∧ plan.select.IsWellGrouped ["zoning"] := by
  obtain ⟨registry, layer, built, found, isLoaded, queryable⟩ := parcels_built
  have accepted : Query.ofJson (orderedRequest "zoning") = .ok (orderedQuery "zoning") := rfl
  have known : ("zoning" : Text) ∈ (["zoning", "acres"] : List Text) := by decide
  have planned := ordered_planned found isLoaded queryable known
  obtain ⟨stated, _, _, wellGrouped⟩ :=
    aggregate_is_well_grouped_iff built accepted planned rfl
  refine ⟨registry, _, built, accepted, planned, stated, wellGrouped.mpr ?_⟩
  rintro _ ⟨⟩
  exact List.mem_cons_self

/-- Groups are ordered by a column of their rows: the query passes every check, and its statement is
refused by any engine that knows what a group is. -/
theorem ungrouped_order_is_planned :
    ∃ (registry : Registry) (plan : Plan),
      (Manifest.registryOfFile parcelsDescribe "" (some parcelsFile)).run () =
        (.ok (.ok registry), ()) ∧
      Query.ofJson (orderedRequest "acres") = .ok (orderedQuery "acres") ∧
      ofQuery registry (orderedQuery "acres") = .ok plan ∧
      plan.statement = .ok plan.select.written ∧
      plan.select.outputs = [.column "zoning", .metric .count .rows "count_all"] ∧
      plan.select.groupBy = some (["zoning"] : List Text) ∧
      plan.select.order = some (.column "acres" .asc) ∧ ¬ plan.select.IsWellGrouped ["zoning"] := by
  obtain ⟨registry, layer, built, found, isLoaded, queryable⟩ := parcels_built
  have backed := Manifest.registryOfFile_isBacked built
  have accepted : Query.ofJson (orderedRequest "acres") = .ok (orderedQuery "acres") := rfl
  have known : ("acres" : Text) ∈ (["zoning", "acres"] : List Text) := by decide
  have planned := ordered_planned found isLoaded queryable known
  refine ⟨registry, _, built, accepted, planned, statement_of_ofQuery backed accepted planned, ?_⟩
  rw [select, Query.statement_of_aggregate (a := ⟨["zoning"], [⟨"*", .count, none⟩]⟩) rfl rfl]
  refine ⟨rfl, rfl, rfl, fun wellGrouped => ?_⟩
  obtain ⟨name, member, direction, same⟩ := wellGrouped.order _ rfl
  cases same
  exact absurd member (by decide)

end

end Service.Plan

end SpatialQuery
