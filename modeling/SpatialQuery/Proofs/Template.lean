import Mathlib.Data.List.Nodup
import SpatialQuery.Proofs.Layer.Tables
import SpatialQuery.Proofs.Query.Replay
import SpatialQuery.Proofs.Query.Snapshots
import SpatialQuery.Template

/-!
# Templates that can be run

A template is available as soon as the layers that it needs are loaded.  Whether its query can be answered
depends on the columns as well.  Where all declared columns are loaded, every template can be run as it is
but two: one compares a date by size, and one groups by a column that is not declared.
-/

set_option autoImplicit false

namespace SpatialQuery

/-! ## Layers with all that is declared -/

/-- The layer is loaded with all columns that are declared, and with some more.  Concepts are no
columns. -/
structure Layer.IsSupplied (more : List Text) (layer : Layer) : Prop where
  isLoaded : layer.isLoaded = true
  declared : ∀ field ∈ layer.schemaFields.map (·.1), field ∉ Catalog.virtualFields layer.name →
    field ∈ layer.loadedFields
  more : ∀ field ∈ more, field ∈ layer.loadedFields

def Registry.Supplies (registry : Registry) (more : List Text) (name : Text) : Prop :=
  ∃ layer, registry.get? name = some layer ∧ layer.IsSupplied more

def Layer.complete (more : List Text) (schema : LayerSchema) : Layer where
  name := schema.name
  geometryType := schema.geometryType
  schemaFields := schema.fields
  loadedFields := []
  queryableFields := schema.fields.map (·.1) ++ more
  oddLabels := []
  isLoaded := true
  featureCount := none
  description := none
  source := none

def Registry.complete (layers more : List Text) : Registry :=
  ⟨(Catalog.schemas.filter fun schema => layers.contains schema.name).map (.complete more), .null⟩

theorem Catalog.schema?_of_mem {schema : LayerSchema} (known : schema ∈ schemas) :
    schema? schema.name = some schema := by
  have distinct : (schemas.map (·.name)).Nodup := by decide
  obtain ⟨found, declared⟩ : ∃ found, schema? schema.name = some found :=
    Option.isSome_iff_exists.mp (List.find?_isSome.mpr ⟨schema, known, beq_self_eq_true _⟩)
  have named : found.name = schema.name := by simpa using List.find?_some declared
  rw [declared,
    List.inj_on_of_nodup_map distinct (List.mem_of_find?_eq_some declared) known named]

theorem Registry.RealizesCatalog.realizes_of_mem {registry : Registry}
    (realizes : registry.RealizesCatalog) {schema : LayerSchema} (known : schema ∈ Catalog.schemas)
    {layer : Layer} (found : registry.get? schema.name = some layer) : layer.Realizes schema := by
  obtain ⟨again, declared, here⟩ := realizes.get? found
  rw [Catalog.schema?_of_mem known] at declared
  cases declared
  exact here

theorem Layer.IsSupplied.queryable {layer : Layer} {more : List Text} {schema : LayerSchema}
    (supplied : layer.IsSupplied more) (realizes : layer.Realizes schema) :
    ∀ field ∈ schema.fields.map (·.1) ++ more, field ∈ layer.queryableFields := by
  intro field named
  rw [realizes.queryable]
  rcases List.mem_append.mp named with isField | isMore
  · by_cases concept : field ∈ Catalog.virtualFields schema.name
    · exact Or.inr concept
    · rw [← realizes.schemaFields] at isField
      rw [← realizes.name] at concept
      exact Or.inl (supplied.declared field isField concept)
  · exact Or.inl (supplied.more field isMore)

section

variable {registry : Registry} {layers more : List Text}

theorem Registry.Supplies.exists_layer {schema : LayerSchema}
    (supplied : registry.Supplies more schema.name) (realizes : registry.RealizesCatalog)
    (known : schema ∈ Catalog.schemas) : ∃ layer, registry.get? schema.name = some layer ∧
      layer.IsSupplied more ∧ layer.Realizes schema := by
  obtain ⟨layer, found, isSupplied⟩ := supplied
  exact ⟨layer, found, isSupplied, realizes.realizes_of_mem known found⟩

theorem Registry.RealizesCatalog.offers_complete (realizes : registry.RealizesCatalog)
    (supplied : ∀ name ∈ layers, registry.Supplies more name) :
    registry.Offers (.complete layers more) := by
  intro name layer found _
  obtain ⟨schema, member, rfl⟩ := List.mem_map.mp (List.mem_of_find?_eq_some found)
  obtain ⟨known, needed⟩ := List.mem_filter.mp member
  obtain rfl : schema.name = name := Registry.name_of_get? _ found
  rw [List.contains_iff_mem] at needed
  obtain ⟨wider, present, isSupplied, there⟩ :=
    (supplied schema.name needed).exists_layer realizes known
  exact ⟨wider, present, isSupplied.isLoaded, there.schemaFields, isSupplied.queryable there⟩

namespace Template

variable {t : Template}

/-- Every layer that the template needs is loaded with all columns that are declared. -/
def IsSupplied (t : Template) (registry : Registry) : Prop :=
  ∀ name ∈ t.dataRequirements, registry.Supplies [] name

/-! ## What every template passes -/

theorem IsSupplied.available (listed : t ∈ all) (supplied : t.IsSupplied registry) :
    t ∈ available registry.loadedNames := by
  refine List.mem_filter.mpr ⟨listed, List.all_eq_true.mpr fun name needed => ?_⟩
  obtain ⟨layer, found, isSupplied⟩ := supplied name needed
  rw [List.contains_iff_mem, Registry.loadedNames, Query.mem_ascending, List.mem_map]
  exact ⟨layer, List.mem_filter.mpr ⟨List.mem_of_find?_eq_some found, isSupplied.isLoaded⟩,
    registry.name_of_get? found⟩

theorem ofJson_wire (listed : t ∈ all) : Query.ofJson t.query.wire = .ok t.query := by
  have each : ∀ t ∈ all, (Query.ofJson t.query.wire).toOption = some t.query := by decide +kernel
  exact eq_ok_of_toOption (each t listed)

theorem normalize_query (listed : t ∈ all) : t.query.normalize .builtIn = .ok (t.query, []) := by
  have each : ∀ t ∈ all, (t.query.normalize .builtIn).toOption = some (t.query, []) := by
    decide +kernel
  exact eq_ok_of_toOption (each t listed)

/-! ## What grounding says -/

def expiringId : Text := "expiring-deed-restrictions"

def expiring : Template := all[5]

def densityId : Text := "str-density-by-tract"

def density : Template := all[0]

theorem eq_of_id {other : Template} (listed : t ∈ all) (otherListed : other ∈ all)
    (same : t.id = other.id) : t = other := by
  have distinct : (all.map (·.id)).Nodup := by decide
  exact List.inj_on_of_nodup_map distinct listed otherListed same

/-- The column that a template groups by although it is not declared. -/
def tractColumn : Text := "census_tract_geoid"

/-- All templates but one are grounded where the layers that they need are complete, one of them only if
these have a column more. -/
theorem groundingIssues_complete (listed : t ∈ all) (notExpiring : t.id ≠ expiringId) :
    t.query.groundingIssues
      (.complete t.dataRequirements (if t.id = densityId then [tractColumn] else [])) = [] := by
  have each : ∀ t ∈ all, t.id ≠ expiringId → t.query.groundingIssues
      (.complete t.dataRequirements (if t.id = densityId then [tractColumn] else [])) = [] := by
    decide +kernel
  exact each t listed notExpiring

theorem groundingIssues_of_supplied (realizes : registry.RealizesCatalog) (listed : t ∈ all)
    (supplied : t.IsSupplied registry) (notExpiring : t.id ≠ expiringId)
    (dense : t.id = densityId → ∀ name ∈ t.dataRequirements, registry.Supplies [tractColumn] name) :
    t.query.groundingIssues registry = [] := by
  -- What is found in the least registry that will do is found in every larger one.
  refine Query.groundingIssues_mono (realizes.offers_complete fun name needed => ?_)
    (groundingIssues_complete listed notExpiring)
  by_cases isDensity : t.id = densityId
  · rw [if_pos isDensity]
    exact dense isDensity name needed
  · rw [if_neg isDensity]
    exact supplied name needed

theorem groundingIssues_of_plain {q : Query} {layer : Layer}
    (found : registry.get? q.selectLayer = some layer) (isLoaded : layer.isLoaded = true)
    (untimed : q.temporal = none) (plain : q.spatialFilters = none) :
    q.groundingIssues registry = q.primaryIssues layer := by
  simp [Query.groundingIssues, found, isLoaded, Query.temporalIssues, untimed, Query.spatials, plain,
    Registry.spatialIssuesFrom, Query.nearestIssues, Query.nearest]

def expiringQuery : Query :=
  { Query.ofLayer "affordable_housing_units" with
    attributeFilters := some [⟨"deed_restricted", .eq, .one (.bool true)⟩,
      ⟨"restriction_expires", .lt, .one (.str "2030-01-01")⟩]
    orderBy := some ⟨"restriction_expires", .asc⟩ }

def expiringIssue : Issue :=
  ⟨"attributeFilters.1.restriction_expires", "Operator \"lt\" requires a numeric field"⟩

/-- Dates are texts, and texts cannot be compared by size. -/
theorem groundingIssues_expiringQuery (realizes : registry.RealizesCatalog)
    (supplied : registry.Supplies [] "affordable_housing_units") :
    expiringQuery.groundingIssues registry = [expiringIssue] := by
  have known : Catalog.schemas[6] ∈ Catalog.schemas := List.getElem_mem _
  obtain ⟨layer, found, supplied, here⟩ := Registry.Supplies.exists_layer supplied realizes known
  have queryable (field : Text) (named : field ∈ _) (path : Text) : layer.fieldIssues field path = [] :=
    Layer.fieldIssues_eq_nil_iff.mpr (supplied.queryable here field named)
  have restricted := queryable "deed_restricted" (by decide)
  have expires := queryable "restriction_expires" (by decide)
  have truth : (FilterValue.one (.bool true)).truth? = some true := rfl
  have unsized : layer.isNumeric "restriction_expires" = false := by
    rw [Layer.isNumeric, Layer.fieldType?, here.schemaFields]
    decide
  -- Both columns are there and the truth value is one, so that only the comparison by size is left.
  rw [groundingIssues_of_plain (q := expiringQuery) found supplied.isLoaded rfl rfl]
  simp only [Query.primaryIssues, Layer.namedFieldIssues, expiringQuery, Query.ofLayer,
    Option.getD_none, List.flatMap_nil, Query.attributes, Option.getD_some, Layer.filterIssuesFrom,
    Nat.toString_eq_repr, restricted, Layer.sizeIssues, AttributeOp.isNumeric, Bool.false_and,
    Bool.false_eq_true, ↓reduceIte, List.append_nil, Layer.truthIssues, BEq.rfl, Bool.true_and, truth,
    Option.isNone_some, Bool.and_false, zero_add, expires, unsized, Bool.not_false, Bool.and_self,
    List.nil_append, Bool.and_eq_true, beq_iff_eq, reduceCtorEq, false_and,
    Option.isNone_iff_eq_none, List.flatMap_cons, List.cons.injEq, and_true]
  rfl

def densityQuery : Query :=
  { Query.ofLayer "short_term_rentals" with
    aggregate := some ⟨[tractColumn],
      [⟨"*", .count, some "str_count"⟩, ⟨"price_per_night", .avg, some "avg_price"⟩]⟩ }

def densityIssue : Issue :=
  ⟨"aggregate.groupBy.census_tract_geoid",
    "Field \"census_tract_geoid\" is not queryable on \"short_term_rentals\""⟩

theorem groundingIssues_densityQuery (realizes : registry.RealizesCatalog)
    (supplied : registry.Supplies [] "short_term_rentals")
    (sparse : ¬ registry.Supplies [tractColumn] "short_term_rentals") :
    densityQuery.groundingIssues registry = [densityIssue] := by
  have known : Catalog.schemas[4] ∈ Catalog.schemas := List.getElem_mem _
  obtain ⟨layer, found, supplied, here⟩ := Registry.Supplies.exists_layer supplied realizes known
  have price (path : Text) : layer.fieldIssues "price_per_night" path = [] :=
    Layer.fieldIssues_eq_nil_iff.mpr (supplied.queryable here _ (by decide))
  have absent : tractColumn ∉ layer.queryableFields := by
    intro queryable
    rcases (here.queryable tractColumn).mp queryable with loaded | concept
    · exact sparse ⟨layer, found, supplied.isLoaded, supplied.declared,
        List.forall_mem_singleton.mpr loaded⟩
    · exact absurd concept (by decide)
  rw [groundingIssues_of_plain (q := densityQuery) found supplied.isLoaded rfl rfl]
  simp only [Query.primaryIssues, Layer.namedFieldIssues, densityQuery, Query.ofLayer,
    Option.getD_none, List.flatMap_nil, Query.attributes, Layer.filterIssuesFrom, List.append_nil,
    List.flatMap_cons, Layer.metricIssuesFrom, ↓reduceIte, zero_add, Nat.toString_eq_repr, price,
    ite_self, List.nil_append]
  rw [Layer.fieldIssues, if_neg (by simpa using absent), here.name]
  rfl

/-! ## Which templates are run -/

open Service

/-- Sent as it is, the query of the template passes every check with nothing to be said about it, and there
is a statement for it. -/
structure Runs (t : Template) (registry : Registry) : Prop where
  sent : Query.payload t.query.wire = (t.query.wire, .direct)
  read : Query.ofJson t.query.wire = .ok t.query
  normal : t.query.normalize .builtIn = .ok (t.query, [])
  grounded : t.query.groundingIssues registry = []
  compiled : ∃ plan statement, Plan.ofQuery registry t.query = .ok plan ∧ plan.notes = [] ∧
    plan.statement = .ok statement

theorem runs_of_grounded (backed : registry.IsBacked) (listed : t ∈ all)
    (grounded : t.query.groundingIssues registry = []) : t.Runs registry := by
  have planned : Plan.ofQuery registry t.query = .ok ⟨registry, t.query.limited registry, []⟩ := by
    simp only [Plan.ofQuery, normalize_query listed, grounded]
  have read := ofJson_wire listed
  exact ⟨Query.payload_wire t.query, read, normalize_query listed, grounded, _, _, planned, rfl,
    Plan.statement_of_ofQuery backed read planned⟩

theorem not_runs_of_issue {issue : Issue} (issues : t.query.groundingIssues registry = [issue]) :
    ¬ t.Runs registry := by
  intro runs
  exact List.cons_ne_nil issue [] (issues.symm.trans runs.grounded)

/-- Where the layers of a template are complete, it is available.  It runs as it is unless it compares a
date by size, or groups by a column that is not declared and not loaded either. -/
theorem supplied_template_runs_iff [Stack] {ε σ : Type}
    {describe : Manifest.Describe (ExceptT ε (StateM σ))} {now : Text} {file : Option Text}
    {before after : σ}
    (built : (Manifest.registryOfFile describe now file).run before = (.ok (.ok registry), after))
    (listed : t ∈ all) (supplied : t.IsSupplied registry) :
    t ∈ available registry.loadedNames ∧
      (t.Runs registry ↔ t.id ≠ expiringId ∧
        (t.id = densityId → registry.Supplies [tractColumn] "short_term_rentals")) ∧
      (t.id = expiringId → t.query.groundingIssues registry = [expiringIssue]) ∧
      (t.id = densityId → ¬ registry.Supplies [tractColumn] "short_term_rentals" →
        t.query.groundingIssues registry = [densityIssue]) := by
  have realizes := Manifest.registryOfFile_realizes built
  have isExpiring (named : t.id = expiringId) : t = expiring :=
    eq_of_id listed (List.getElem_mem _) named
  have isDensity (named : t.id = densityId) : t = density :=
    eq_of_id listed (List.getElem_mem _) named
  have expiringIssues (named : t.id = expiringId) :
      t.query.groundingIssues registry = [expiringIssue] := by
    rw [isExpiring named] at supplied ⊢
    exact groundingIssues_expiringQuery realizes (supplied _ (List.mem_singleton_self _))
  have densityIssues (named : t.id = densityId)
      (sparse : ¬ registry.Supplies [tractColumn] "short_term_rentals") :
      t.query.groundingIssues registry = [densityIssue] := by
    rw [isDensity named] at supplied ⊢
    exact groundingIssues_densityQuery realizes (supplied _ (List.mem_singleton_self _)) sparse
  refine ⟨supplied.available listed, ⟨fun runs => ⟨fun named => ?_, fun named => ?_⟩, ?_⟩,
    expiringIssues, densityIssues⟩
  · exact not_runs_of_issue (expiringIssues named) runs
  · by_contra sparse
    exact not_runs_of_issue (densityIssues named sparse) runs
  · rintro ⟨notExpiring, tracts⟩
    refine runs_of_grounded realizes.isBacked listed
      (groundingIssues_of_supplied realizes listed supplied notExpiring fun named name needed => ?_)
    rw [isDensity named] at needed
    rw [List.mem_singleton.mp needed]
    exact tracts named

/-! ## Tables with all declared columns and no others -/

/-- Every layer is loaded with the columns that are declared for it and no others. -/
def HoldsDeclared (registry : Registry) : Prop :=
  ∀ schema ∈ Catalog.schemas, ∃ layer, registry.get? schema.name = some layer ∧
    layer.isLoaded = true ∧ ∀ field, field ∈ layer.loadedFields ↔ field ∈ schema.fields.map (·.1)

def declaredColumns (name : Text) : List Text :=
  ((Catalog.schema? name).map fun schema => schema.fields.map (·.1)).getD []

def declaredDescribe : Manifest.Describe (ExceptT Unit (StateM Unit)) :=
  some fun name => pure (declaredColumns name)

def declaredFile : Text := Manifest.listingFile (Catalog.schemas.map (·.name))

theorem declared_built [Stack] : ∃ registry,
    (Manifest.registryOfFile declaredDescribe "" (some declaredFile)).run () =
      (.ok (.ok registry), ()) ∧ HoldsDeclared registry := by
  have distinct : (Catalog.schemas.map (·.name)).Nodup := by decide
  have whole : ∀ name ∈ Catalog.schemas.map (·.name), name.IsWhole := by decide +kernel
  have fielded : ∀ schema ∈ Catalog.schemas, schema.fields.map (·.1) ≠ [] := by decide
  have external : ∀ schema ∈ Catalog.schemas, ∀ field ∈ schema.fields.map (·.1),
      field ∉ Catalog.internalFields := by decide +kernel
  obtain ⟨registry, built, loaded⟩ :=
    Manifest.exists_registry_of_listing distinct whole declaredColumns ""
  refine ⟨registry, built, fun schema known => ?_⟩
  have columns : declaredColumns schema.name = schema.fields.map (·.1) := by
    rw [declaredColumns, Catalog.schema?_of_mem known]
    rfl
  have found := loaded schema known (List.mem_map_of_mem known)
  rw [columns] at found
  obtain ⟨layer, found, isLoaded, fields⟩ := found (fielded schema known)
  exact ⟨layer, found, isLoaded, fun field =>
    (fields field).trans (and_iff_left_of_imp (external schema known field))⟩

theorem dataRequirements_declared :
    ∀ t ∈ all, ∀ name ∈ t.dataRequirements, ∃ schema ∈ Catalog.schemas, schema.name = name := by
  decide +kernel

theorem HoldsDeclared.isSupplied (holds : HoldsDeclared registry)
    (realizes : registry.RealizesCatalog) (listed : t ∈ all) : t.IsSupplied registry := by
  intro name needed
  obtain ⟨schema, known, rfl⟩ := dataRequirements_declared t listed name needed
  obtain ⟨layer, found, isLoaded, fields⟩ := holds schema known
  have here := realizes.realizes_of_mem known found
  refine ⟨layer, found, isLoaded, fun field named _ => (fields field).mpr ?_, List.forall_mem_nil _⟩
  rw [← here.schemaFields]
  exact named

theorem HoldsDeclared.not_supplies (holds : HoldsDeclared registry) {schema : LayerSchema}
    (known : schema ∈ Catalog.schemas) {column : Text}
    (undeclared : column ∉ schema.fields.map (·.1)) : ¬ registry.Supplies [column] schema.name := by
  rintro ⟨layer, found, supplied⟩
  obtain ⟨again, foundAgain, _, fields⟩ := holds schema known
  cases found.symm.trans foundAgain
  exact undeclared ((fields column).mp (supplied.more column (List.mem_singleton_self _)))

def vacancy : Template := all[2]

section

open Stack.Usual

theorem supplied_template_runs_iff_sample :
    ∃ registry,
      (Manifest.registryOfFile declaredDescribe "" (some declaredFile)).run () =
        (.ok (.ok registry), ()) ∧
      vacancy.id = "vacancy-hotspots" ∧ vacancy ∈ available registry.loadedNames ∧
      vacancy.Runs registry := by
  obtain ⟨registry, built, holds⟩ := declared_built
  have listed : vacancy ∈ all := List.getElem_mem _
  have supplied := holds.isSupplied (Manifest.registryOfFile_realizes built) listed
  have notDensity : vacancy.id ≠ densityId := by decide
  obtain ⟨available, runs, _⟩ := supplied_template_runs_iff built listed supplied
  exact ⟨registry, built, rfl, available, runs.mpr ⟨by decide, fun named => absurd named notDensity⟩⟩

/-- Nothing that is declared is missing, and still two templates that are available do not run. -/
theorem available_templates_do_not_run :
    ∃ registry,
      (Manifest.registryOfFile declaredDescribe "" (some declaredFile)).run () =
        (.ok (.ok registry), ()) ∧
      (∀ t ∈ all, t.IsSupplied registry) ∧
      expiring ∈ available registry.loadedNames ∧ density ∈ available registry.loadedNames ∧
      expiring.query.groundingIssues registry = [expiringIssue] ∧
      density.query.groundingIssues registry = [densityIssue] ∧
      ¬ expiring.Runs registry ∧ ¬ density.Runs registry := by
  obtain ⟨registry, built, holds⟩ := declared_built
  have realizes := Manifest.registryOfFile_realizes built
  have supplied {t : Template} (listed : t ∈ all) := holds.isSupplied realizes listed
  have expiringListed : expiring ∈ all := List.getElem_mem _
  have densityListed : density ∈ all := List.getElem_mem _
  have rentals : Catalog.schemas[4] ∈ Catalog.schemas := List.getElem_mem _
  have sparse : ¬ registry.Supplies [tractColumn] "short_term_rentals" :=
    holds.not_supplies rentals (by decide)
  have expiringIssues : expiring.query.groundingIssues registry = [expiringIssue] :=
    groundingIssues_expiringQuery realizes (supplied expiringListed _ (List.mem_singleton_self _))
  have densityIssues : density.query.groundingIssues registry = [densityIssue] :=
    groundingIssues_densityQuery realizes (supplied densityListed _ (List.mem_singleton_self _)) sparse
  exact ⟨registry, built, fun _ => supplied, (supplied expiringListed).available expiringListed,
    (supplied densityListed).available densityListed, expiringIssues, densityIssues,
    not_runs_of_issue expiringIssues, not_runs_of_issue densityIssues⟩

end

end Template

end

end SpatialQuery
