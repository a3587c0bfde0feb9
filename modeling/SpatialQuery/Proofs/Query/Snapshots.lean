import SpatialQuery.Proofs.Query.Planned

/-!
# Outcomes and snapshots

A registry decides whether a query is answered, not what is run for it.  What two registries that were
built know of a layer in common is what was declared of it, and no stage after grounding looks at more.
A registry that has more of the same layers loaded accepts more.
-/

set_option autoImplicit false

namespace SpatialQuery

/-! ## What is declared is common to all -/

namespace Registry

variable {registry other : Registry}

theorem RealizesCatalog.agree (realizes : registry.RealizesCatalog)
    (others : other.RealizesCatalog) {name : Text} {layer same : Layer}
    (found : registry.get? name = some layer) (present : other.get? name = some same) :
    ∃ schema, layer.Realizes schema ∧ same.Realizes schema := by
  obtain ⟨schema, declared, here⟩ := realizes.get? found
  obtain ⟨again, declaredAgain, there⟩ := others.get? present
  cases declared.symm.trans declaredAgain
  exact ⟨schema, here, there⟩

/-- Every layer that is loaded is loaded there as well, with no column less. -/
def IsWithin (registry other : Registry) : Prop :=
  ∀ name layer, registry.get? name = some layer → layer.isLoaded = true →
    ∃ wider, other.get? name = some wider ∧ wider.isLoaded = true ∧
      ∀ field ∈ layer.loadedFields, field ∈ wider.loadedFields

theorem isWithin_of_loadedColumns (others : other.RealizesCatalog)
    (more : ∀ entry ∈ registry.loadedColumns, ∃ wider ∈ other.loadedColumns, wider.1 = entry.1 ∧
      ∀ field ∈ entry.2, field ∈ wider.2) : registry.IsWithin other := by
  intro name layer found isLoaded
  have listed : (layer.name, layer.loadedFields) ∈ registry.loadedColumns :=
    List.mem_map_of_mem (List.mem_filter.mpr ⟨List.mem_of_find?_eq_some found, isLoaded⟩)
  obtain ⟨⟨again, columns⟩, present, named, more⟩ := more _ listed
  obtain ⟨wider, found', stillLoaded, rfl⟩ := others.get?_of_loadedColumns present
  have same : again = name := named.trans (registry.name_of_get? found)
  exact ⟨wider, same ▸ found', stillLoaded, more⟩

end Registry

/-! ## More is accepted where more is loaded -/

/-- The wider layer has the declared fields of the other one and lets every name be used that this
one does. -/
structure Layer.Offers (wider layer : Layer) : Prop where
  isLoaded : wider.isLoaded = true
  schemaFields : wider.schemaFields = layer.schemaFields
  queryable : ∀ field ∈ layer.queryableFields, field ∈ wider.queryableFields

def Registry.Offers (other registry : Registry) : Prop :=
  ∀ name layer, registry.get? name = some layer → layer.isLoaded = true →
    ∃ wider, other.get? name = some wider ∧ wider.Offers layer

theorem Registry.IsWithin.offers {registry other : Registry} (realizes : registry.RealizesCatalog)
    (others : other.RealizesCatalog) (within : registry.IsWithin other) : other.Offers registry := by
  intro name layer found isLoaded
  obtain ⟨wider, present, stillLoaded, columns⟩ := within name layer found isLoaded
  obtain ⟨schema, here, there⟩ := realizes.agree others found present
  refine ⟨wider, present, stillLoaded, there.schemaFields.trans here.schemaFields.symm, ?_⟩
  intro field named
  rw [here.queryable] at named
  rw [there.queryable]
  exact named.imp_left (columns field)

section

variable {layer wider : Layer} {registry other : Registry}

theorem AttributeFilter.IsComparable.mono {f : AttributeFilter} (offers : wider.Offers layer)
    (comparable : f.IsComparable layer) : f.IsComparable wider := by
  obtain ⟨sized, truth⟩ := comparable
  simp only [Layer.isNumeric, Layer.isBoolean, Layer.fieldType?, ← offers.schemaFields] at sized truth
  exact ⟨sized, truth⟩

theorem SpatialFilter.IsAnswerable.mono {s : SpatialFilter} (offers : other.Offers registry)
    (answerable : s.IsAnswerable registry) : s.IsAnswerable other := by
  obtain ⟨target, found, isLoaded, filters⟩ := answerable
  obtain ⟨wider, present, more⟩ := offers s.targetLayer target found isLoaded
  refine ⟨wider, present, more.isLoaded, fun f member => ?_⟩
  obtain ⟨queryable, comparable⟩ := filters f member
  exact ⟨more.queryable f.field queryable, comparable.mono more⟩

theorem Query.IsAnswerable.mono {q : Query} (offers : other.Offers registry)
    (more : wider.Offers layer) (answerable : q.IsAnswerable registry layer) :
    q.IsAnswerable other wider where
  fields := fun field member => more.queryable field (answerable.fields field member)
  attributes := fun f member => more.queryable f.field (answerable.attributes f member)
  order := fun o given => more.queryable o.field (answerable.order o given)
  groups := fun a given field member => more.queryable field (answerable.groups a given field member)
  metrics := fun a given m member part =>
    more.queryable m.field (answerable.metrics a given m member part)
  spatials := fun s member => ((answerable.targets s member).mono offers).isGrounded
  single := answerable.single
  plain := answerable.plain
  loaded := more.isLoaded
  untimed := answerable.untimed
  comparable := fun f member => (answerable.comparable f member).mono more
  targets := fun s member => (answerable.targets s member).mono offers

theorem Query.groundingIssues_mono {q : Query} (offers : other.Offers registry)
    (sound : q.groundingIssues registry = []) : q.groundingIssues other = [] := by
  obtain ⟨layer, found, answerable⟩ := groundingIssues_eq_nil_iff.mp sound
  obtain ⟨wider, present, more⟩ := offers q.selectLayer layer found answerable.loaded
  exact groundingIssues_eq_nil_iff.mpr ⟨wider, present, answerable.mono offers more⟩

end

/-! ## The same is run for it -/

theorem Query.limited_congr {q : Query} {registry other : Registry}
    (same : q.geometryType registry = q.geometryType other) : q.limited registry = q.limited other := by
  simp only [limited, same]

namespace Service.Plan

variable {registry other : Registry} {q : Query} {plan again : Plan}

theorem selected_of_ofQuery (planned : ofQuery registry q = .ok plan) :
    plan.limited.query.selectLayer = q.selectLayer ∧
      ∃ layer, registry.get? q.selectLayer = some layer := by
  obtain ⟨layer, found, _⟩ := answerable_of_ofQuery planned
  obtain ⟨normal, notes, normalized, _, rfl⟩ := exists_of_ofQuery planned
  have kept : normal.selectLayer = q.selectLayer := by
    rw [Query.eq_normalized normalized]
    rfl
  exact ⟨kept, layer, kept ▸ found⟩

theorem limited_eq_of_ofQuery (realizes : registry.RealizesCatalog) (others : other.RealizesCatalog)
    (planned : ofQuery registry q = .ok plan) (plannedAgain : ofQuery other q = .ok again) :
    plan.limited = again.limited := by
  obtain ⟨layer, found, _⟩ := answerable_of_ofQuery planned
  obtain ⟨same, present, _⟩ := answerable_of_ofQuery plannedAgain
  obtain ⟨normal, notes, normalized, _, rfl⟩ := exists_of_ofQuery planned
  obtain ⟨normalAgain, notesAgain, normalizedAgain, _, rfl⟩ := exists_of_ofQuery plannedAgain
  cases normalized.symm.trans normalizedAgain
  obtain ⟨schema, here, there⟩ := realizes.agree others found present
  refine Query.limited_congr ?_
  change registry.get? normal.selectLayer = some layer at found
  change other.get? normal.selectLayer = some same at present
  simp only [Query.geometryType, found, present, Option.map_some, Option.getD_some,
    here.geometryType, there.geometryType]

theorem listFields_eq_of_ofQuery (realizes : registry.RealizesCatalog)
    (others : other.RealizesCatalog) (planned : ofQuery registry q = .ok plan)
    (plannedAgain : ofQuery other q = .ok again) : plan.listFields = again.listFields := by
  obtain ⟨selected, layer, found⟩ := selected_of_ofQuery planned
  obtain ⟨selectedAgain, same, present⟩ := selected_of_ofQuery plannedAgain
  obtain ⟨schema, here, there⟩ := realizes.agree others found present
  simp only [listFields, registry_of_ofQuery planned, registry_of_ofQuery plannedAgain, selected,
    selectedAgain, found, present, Option.map_some, Option.getD_some, Layer.arrayFields,
    here.schemaFields, there.schemaFields]

/-- Which of two registries accepted a query makes no difference to what is run for it, to the key of
its result and to how its rows are written; and where more is loaded, no less is accepted. -/
theorem outcome_is_independent_of_snapshot [Stack] {ε σ ε' σ' : Type}
    {describe : Manifest.Describe (ExceptT ε (StateM σ))}
    {describe' : Manifest.Describe (ExceptT ε' (StateM σ'))} {now now' : Text}
    {file file' : Option Text} {before after : σ} {before' after' : σ'}
    (built : (Manifest.registryOfFile describe now file).run before = (.ok (.ok registry), after))
    (built' : (Manifest.registryOfFile describe' now' file').run before' =
      (.ok (.ok other), after')) :
    (∀ raw q plan again, Query.ofJson raw = .ok q → ofQuery registry q = .ok plan →
      ofQuery other q = .ok again →
        plan.limited = again.limited ∧ plan.notes = again.notes ∧ plan.key = again.key ∧
        (∃ written, plan.statement = .ok written ∧ again.statement = .ok written) ∧
        plan.listFields = again.listFields) ∧
    (registry.IsWithin other →
      ∀ q : Query, q.groundingIssues registry = [] → q.groundingIssues other = []) := by
  have realizes := Manifest.registryOfFile_realizes built
  have others := Manifest.registryOfFile_realizes built'
  refine ⟨?_, fun within q sound => Query.groundingIssues_mono (within.offers realizes others) sound⟩
  intro raw q plan again accepted planned plannedAgain
  have limited := limited_eq_of_ofQuery realizes others planned plannedAgain
  have run := statement_of_ofQuery realizes.isBacked accepted planned
  have runAgain := statement_of_ofQuery others.isBacked accepted plannedAgain
  have notes : plan.notes = again.notes := by
    obtain ⟨_, _, normalized, _, rfl⟩ := exists_of_ofQuery planned
    obtain ⟨_, _, normalizedAgain, _, rfl⟩ := exists_of_ofQuery plannedAgain
    cases normalized.symm.trans normalizedAgain
    rfl
  have key : plan.key = again.key := by simp only [Plan.key, tolerance, limited]
  refine ⟨limited, notes, key, ⟨_, run, ?_⟩,
    listFields_eq_of_ofQuery realizes others planned plannedAgain⟩
  rw [runAgain, select, select, tolerance, tolerance, limited]

def widerManifest : Text :=
  "\x7b\"layers\": \x7b\"parcels\": \x7b\x7d, \"transit_access\": \x7b\x7d, \"hydrology\": \x7b\x7d\x7d\x7d"

def namedLayers (layers : List Text) : List (Text × List Text) := layers.map fun layer => (layer, ["name"])

section

open Stack.Usual

theorem outcome_is_independent_of_snapshot_sample :
    ∃ registry other plan again,
      (Manifest.registryOfFile sampleDescribe "" (some sampleManifest)).run () =
        (.ok (.ok registry), ()) ∧
      (Manifest.registryOfFile sampleDescribe "" (some widerManifest)).run () =
        (.ok (.ok other), ()) ∧
      Query.ofJson sampleRequest = .ok sampleRequested ∧
      ofQuery registry sampleRequested = .ok plan ∧ ofQuery other sampleRequested = .ok again ∧
      plan.limited = again.limited ∧ plan.notes = again.notes ∧ plan.key = again.key ∧
      (∃ written, plan.statement = .ok written ∧ again.statement = .ok written) ∧
      plan.listFields = again.listFields ∧
      registry.IsWithin other ∧
      sampleRequested.groundingIssues registry = [] ∧ sampleRequested.groundingIssues other = [] := by
  have accepted : Query.ofJson sampleRequest = .ok sampleRequested := rfl
  have normalized : sampleRequested.normalize .builtIn = .ok (sampleRequested, []) := rfl
  have passes : (outcome? (Manifest.registryOfFile sampleDescribe "" (some sampleManifest))).any
      (fun registry => decide (registry.loadedColumns = namedLayers ["parcels", "hydrology"] ∧
        sampleRequested.groundingIssues registry = [])) = true := by
    decide +kernel
  have passes' : (outcome? (Manifest.registryOfFile sampleDescribe "" (some widerManifest))).any
      (fun other => decide (other.loadedColumns =
        namedLayers ["parcels", "hydrology", "transit_access"])) = true := by
    decide +kernel
  obtain ⟨registry, built, passes⟩ := run_of_outcome passes
  obtain ⟨other, built', passes'⟩ := run_of_outcome passes'
  obtain ⟨columns, grounded⟩ := of_decide_eq_true passes
  have columns' := of_decide_eq_true passes'
  have within : registry.IsWithin other := by
    refine Registry.isWithin_of_loadedColumns (Manifest.registryOfFile_realizes built') ?_
    rw [columns, columns']
    decide
  obtain ⟨same, more⟩ := outcome_is_independent_of_snapshot built built'
  have grounded' := more within sampleRequested grounded
  have planned : ofQuery registry sampleRequested =
      .ok ⟨registry, sampleRequested.limited registry, []⟩ := by
    simp only [ofQuery, normalized, grounded]
  have planned' : ofQuery other sampleRequested =
      .ok ⟨other, sampleRequested.limited other, []⟩ := by
    simp only [ofQuery, normalized, grounded']
  obtain ⟨limited, notes, key, written, listFields⟩ := same _ _ _ _ accepted planned planned'
  exact ⟨registry, other, _, _, built, built', accepted, planned, planned', limited, notes, key,
    written, listFields, within, grounded, grounded'⟩

end

end Service.Plan

end SpatialQuery
