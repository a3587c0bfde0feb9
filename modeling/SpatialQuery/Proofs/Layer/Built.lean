import Mathlib.Data.List.Forall2
import SpatialQuery.Layer.Manifest
import SpatialQuery.Proofs.Success

/-!
# Registries that are built

However a registry was built, from whatever manifest and with whoever was asked for the columns of the
tables, it holds the layers of the catalog as they were declared.  Only what was loaded differs: the
columns of each layer, among which no internal one is, and with them the fields that a query may name.
-/

set_option autoImplicit false

namespace SpatialQuery

/-- The layer is the declared one, whatever was loaded of it. -/
structure Layer.Realizes (layer : Layer) (schema : LayerSchema) : Prop where
  name : layer.name = schema.name
  geometryType : layer.geometryType = schema.geometryType
  schemaFields : layer.schemaFields = schema.fields
  external : ∀ field ∈ layer.loadedFields, field ∉ Catalog.internalFields
  queryable : ∀ field, field ∈ layer.queryableFields ↔
    field ∈ layer.loadedFields ∨ field ∈ Catalog.virtualFields schema.name

def Registry.RealizesCatalog (registry : Registry) : Prop :=
  List.Forall₂ Layer.Realizes registry.layers Catalog.schemas

def Layer.IsBacked (layer : Layer) : Prop :=
  ∀ field ∈ layer.queryableFields, layer.hasColumn field = true

def Registry.IsBacked (registry : Registry) : Prop := ∀ layer ∈ registry.layers, layer.IsBacked

theorem Registry.name_of_get? (registry : Registry) {name : Text} {layer : Layer}
    (found : registry.get? name = some layer) : layer.name = name := by
  have named := List.find?_some found
  simpa using named

theorem Query.mem_ascending {names : List Text} {name : Text} :
    name ∈ Query.ascending names ↔ name ∈ names := by
  rw [Query.ascending, List.mem_eraseDups, List.mem_mergeSort]

theorem Catalog.virtualFields_declared :
    ∀ schema ∈ Catalog.schemas, ∀ field ∈ Catalog.virtualFields schema.name,
      field ∈ schema.fields.map (·.1) := by
  decide

namespace Layer

variable {layer : Layer} {schema : LayerSchema} {field : Text}

theorem hasColumn_iff : layer.hasColumn field = true ↔
    field ∈ layer.schemaFields.map (·.1) ∨ field ∈ layer.loadedFields := by
  simp only [hasColumn, Bool.or_eq_true, List.contains_iff_mem]

theorem Realizes.isBacked (realizes : layer.Realizes schema) (known : schema ∈ Catalog.schemas) :
    layer.IsBacked := by
  intro field queryable
  rw [hasColumn_iff]
  rcases (realizes.queryable field).mp queryable with found | concept
  · exact Or.inr found
  · rw [realizes.schemaFields]
    exact Or.inl (Catalog.virtualFields_declared schema known field concept)

end Layer

namespace Registry

variable {registry : Registry}

theorem RealizesCatalog.get? (realizes : registry.RealizesCatalog) {name : Text} {layer : Layer}
    (found : registry.get? name = some layer) :
    ∃ schema, Catalog.schema? name = some schema ∧ layer.Realizes schema := by
  have parallel : ∀ {layers : List Layer} {schemas : List LayerSchema},
      List.Forall₂ Layer.Realizes layers schemas →
      layers.find? (fun layer => layer.name == name) = some layer →
      ∃ schema, schemas.find? (fun schema => schema.name == name) = some schema ∧
        layer.Realizes schema := by
    intro layers schemas each present
    induction each with
    | nil => cases present
    | @cons first schema layers schemas here _ ih =>
      by_cases named : (first.name == name) = true
      · have declared : (schema.name == name) = true := here.name ▸ named
        simp only [List.find?_cons, named] at present
        cases present
        exact ⟨schema, by simp only [List.find?_cons, declared], here⟩
      · rw [Bool.not_eq_true] at named
        have other : (schema.name == name) = false := here.name ▸ named
        simp only [List.find?_cons, named] at present
        simp only [List.find?_cons, other]
        exact ih present
  exact parallel realizes found

theorem RealizesCatalog.names (realizes : registry.RealizesCatalog) :
    registry.layers.map (·.name) = Catalog.schemas.map (·.name) := by
  have parallel : List.Forall₂ (fun name declared => name = declared)
      (registry.layers.map (·.name)) (Catalog.schemas.map (·.name)) :=
    List.forall₂_map_left_iff.mpr (List.forall₂_map_right_iff.mpr
      (realizes.imp fun _ _ here => here.name))
  exact List.forall₂_eq_eq_eq ▸ parallel

theorem RealizesCatalog.get?_of_mem (realizes : registry.RealizesCatalog) {layer : Layer}
    (member : layer ∈ registry.layers) : registry.get? layer.name = some layer := by
  have distinct : (registry.layers.map (·.name)).Nodup := by
    rw [realizes.names]
    decide
  have first : ∀ {layers : List Layer}, (layers.map (·.name)).Nodup → layer ∈ layers →
      layers.find? (fun other => other.name == layer.name) = some layer := by
    intro layers distinct member
    induction layers with
    | nil => cases member
    | cons head rest ih =>
      obtain ⟨apart, distinct⟩ := List.nodup_cons.mp distinct
      rcases List.mem_cons.mp member with rfl | later
      · simp only [List.find?_cons, beq_self_eq_true]
      · have other : (head.name == layer.name) = false := by
          refine beq_false_of_ne fun same => apart ?_
          exact List.mem_map.mpr ⟨layer, later, same.symm⟩
        simp only [List.find?_cons, other]
        exact ih distinct later
  exact first distinct member

def loadedColumns (registry : Registry) : List (Text × List Text) :=
  (registry.layers.filter (·.isLoaded)).map fun layer => (layer.name, layer.loadedFields)

theorem RealizesCatalog.get?_of_loadedColumns (realizes : registry.RealizesCatalog) {name : Text}
    {fields : List Text} (listed : (name, fields) ∈ registry.loadedColumns) :
    ∃ layer, registry.get? name = some layer ∧ layer.isLoaded = true ∧
      layer.loadedFields = fields := by
  obtain ⟨layer, member, same⟩ := List.mem_map.mp listed
  cases same
  obtain ⟨inLayers, isLoaded⟩ := List.mem_filter.mp member
  exact ⟨layer, realizes.get?_of_mem inLayers, isLoaded, rfl⟩

theorem RealizesCatalog.isBacked (realizes : registry.RealizesCatalog) : registry.IsBacked := by
  have each : ∀ {layers : List Layer} {schemas : List LayerSchema},
      List.Forall₂ Layer.Realizes layers schemas → (∀ schema ∈ schemas, schema ∈ Catalog.schemas) →
      ∀ layer ∈ layers, layer.IsBacked := by
    intro layers schemas parallel known
    induction parallel with
    | nil => simp
    | cons here _ ih =>
      obtain ⟨first, others⟩ := List.forall_mem_cons.mp known
      exact List.forall_mem_cons.mpr ⟨here.isBacked first, ih others⟩
  exact each realizes fun _ member => member

end Registry

namespace Manifest

theorem unloaded_realizes (schema : LayerSchema) : (unloaded schema).Realizes schema where
  name := rfl
  geometryType := rfl
  schemaFields := rfl
  external := by
    intro field member
    cases member
  queryable := by
    intro field
    have nothing : field ∉ (unloaded schema).loadedFields := List.not_mem_nil
    exact ⟨fun member => Or.inr (Query.mem_ascending.mp member),
      fun either => Query.mem_ascending.mpr (either.resolve_left nothing)⟩

theorem mem_of_allTexts? {labels : List Json} {texts : List Text}
    (all : allTexts? labels = some texts) : ∀ t ∈ texts, .str t ∈ labels := by
  induction labels generalizing texts with
  | nil =>
    cases all
    simp
  | cons label rest ih =>
    cases label with
    | str t =>
      obtain ⟨others, allRest, rfl⟩ := Option.map_eq_some_iff.mp all
      refine List.forall_mem_cons.mpr ⟨List.mem_cons_self, fun u member => ?_⟩
      exact List.mem_cons_of_mem _ (ih allRest u member)
    | _ => cases all

section

variable {labels : List Json} {present concepts loaded queryable : List Text}
  {odd others : List Json}

theorem mem_of_orderedLabels (found : orderedLabels labels present = .ok (loaded, others)) :
    ∀ field ∈ loaded, .str field ∈ labels ∨ field ∈ present := by
  intro field member
  unfold orderedLabels at found
  cases texts : allTexts? labels with
  | some listed =>
    rw [texts] at found
    cases found
    rcases List.mem_append.mp (Query.mem_ascending.mp member) with inListed | inPresent
    · exact Or.inl (mem_of_allTexts? texts field inListed)
    · exact Or.inr inPresent
  | none =>
    rw [texts] at found
    dsimp only at found
    split at found
    · obtain ⟨labels, _, same⟩ := (bind_ok_iff _ _ _).mp found
      cases same
      cases member
    · cases found

theorem queryable_of_orderedLabels (found : orderedLabels labels present = .ok (loaded, others))
    (named : orderedLabels labels (present ++ concepts) = .ok (queryable, odd)) (field : Text) :
    field ∈ queryable ↔ field ∈ loaded ∨ field ∈ concepts := by
  unfold orderedLabels at found named
  -- Where a label is no text, no text may be queried at all.
  cases texts : allTexts? labels with
  | some listed =>
    rw [texts] at found named
    cases found
    cases named
    simp only [Query.mem_ascending, List.mem_append, or_assoc]
  | none =>
    rw [texts] at found named
    dsimp only at found named
    split at named
    · rename_i empty
      obtain ⟨_, noConcepts⟩ := List.append_eq_nil_iff.mp (List.isEmpty_iff.mp empty)
      obtain ⟨_, _, same⟩ := (bind_ok_iff _ _ _).mp named
      cases same
      split at found
      · obtain ⟨_, _, same⟩ := (bind_ok_iff _ _ _).mp found
        cases same
        simp [noConcepts]
      · cases found
    · cases named

end

theorem loaded_realizes {schema : LayerSchema} {entry : Json} {columns : List Text} {layer : Layer}
    (built : loaded schema entry columns = .ok layer) : layer.Realizes schema := by
  obtain ⟨facts, _, built⟩ := (bind_ok_iff _ _ _).mp built
  obtain ⟨labels, _, built⟩ := (bind_ok_iff _ _ _).mp built
  obtain ⟨⟨loadedFields, others⟩, found, built⟩ := (bind_ok_iff _ _ _).mp built
  obtain ⟨⟨queryableFields, odd⟩, named, built⟩ := (bind_ok_iff _ _ _).mp built
  cases built
  refine ⟨rfl, rfl, rfl, ?_, queryable_of_orderedLabels found named⟩
  intro field member internal
  rcases mem_of_orderedLabels found field member with listed | present
  · have kept := (List.mem_filter.mp listed).2
    have isInternalField : Catalog.internalFields.any (fun internal => field == internal) = true :=
      List.any_eq_true.mpr ⟨field, internal, beq_self_eq_true field⟩
    simp only [isInternal, isInternalField] at kept
    cases kept
  · have kept := (List.mem_filter.mp present).2
    rw [List.contains_iff_mem.mpr internal] at kept
    cases kept

section

variable {ε σ : Type} {describe : Describe (ExceptT ε (StateM σ))} {entries : List (Text × Json)}
  {before after : σ}

theorem layer_realizes {schema : LayerSchema} {result : Layer}
    (built : (layer describe entries schema).run before = (.ok (.ok result), after)) :
    result.Realizes schema := by
  unfold layer at built
  split at built
  · cases built
    exact unloaded_realizes schema
  · have success := (run_pure_ok_iff.mp built).1
    exact loaded_realizes success
  · obtain ⟨columns, middle, _, rest⟩ := run_bind_ok_iff.mp built
    split at rest
    · cases rest
      exact unloaded_realizes schema
    · have success := (run_pure_ok_iff.mp rest).1
      exact loaded_realizes success

theorem layers_realize (schemas : List LayerSchema) {results : List Layer}
    (built : (layers describe entries schemas).run before = (.ok (.ok results), after)) :
    List.Forall₂ Layer.Realizes results schemas := by
  induction schemas generalizing before results with
  | nil =>
    cases built
    exact .nil
  | cons schema rest ih =>
    obtain ⟨first, middle, builtFirst, built⟩ := run_bind_ok_iff.mp built
    cases first with
    | error fault => cases built
    | ok first =>
      obtain ⟨others, end_, builtRest, built⟩ := run_bind_ok_iff.mp built
      cases others with
      | error fault => cases built
      | ok others =>
        cases built
        exact .cons (layer_realizes builtFirst) (ih builtRest)

theorem registryOfFile_realizes [Stack] {now : Text} {file : Option Text} {registry : Registry}
    (built : (registryOfFile describe now file).run before = (.ok (.ok registry), after)) :
    registry.RealizesCatalog := by
  unfold registryOfFile at built
  split at built
  · cases built
  · unfold Manifest.registry at built
    split at built
    · cases built
    · obtain ⟨results, middle, builtLayers, built⟩ := run_bind_ok_iff.mp built
      cases results with
      | error fault => cases built
      | ok results =>
        cases built
        exact layers_realize Catalog.schemas builtLayers

theorem registryOfFile_isBacked [Stack] {now : Text} {file : Option Text} {registry : Registry}
    (built : (registryOfFile describe now file).run before = (.ok (.ok registry), after)) :
    registry.IsBacked :=
  (registryOfFile_realizes built).isBacked

end

end Manifest

end SpatialQuery
