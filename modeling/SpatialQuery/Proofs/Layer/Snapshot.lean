import SpatialQuery.Proofs.Assoc
import SpatialQuery.Proofs.Json.ReadBack
import SpatialQuery.Proofs.Layer.Built
import SpatialQuery.Proofs.Text.Order

/-!
# What snapshots hold

A registry is built from a manifest whose parts are of the kinds they should be, and from what is answered
about the tables of the layers that the manifest lists.  It always comes about, the questions are asked in
the order of the catalog and nothing else is done, and every layer of it says what the two sources say.
-/

set_option autoImplicit false

namespace SpatialQuery

namespace Manifest

/-! ## Two sources -/

/-- The keys of an object, or a list of names. -/
def IsFieldList (fields : Json) : Prop :=
  fields = .null ∨ (∃ members, fields = .obj members) ∨ ∃ names, fields = .texts names

/-- Entries and lists of fields are of the kinds they should be.  What is null counts as absent. -/
structure IsWellTyped (manifest : Json) : Prop where
  isObject : ∃ members, manifest = .obj members
  layers : ∀ layers ∈ manifest.get? "layers", layers = .null ∨ ∃ members, layers = .obj members
  entries : ∀ layers ∈ manifest.get? "layers", ∀ layer, ∀ entry ∈ layers.get? layer,
    entry = .null ∨ ∃ facts, entry = .obj facts
  fields : ∀ layers ∈ manifest.get? "layers", ∀ layer, ∀ entry ∈ layers.get? layer,
    ∀ fields ∈ entry.get? "fields", IsFieldList fields

def stated? (manifest : Json) (layer : Text) : Option Json :=
  (manifest.get? "layers").bind fun layers => layers.get? layer

def lists (manifest : Json) (layer : Text) : Bool :=
  match stated? manifest layer with
  | none | some .null => false
  | some _ => true

/-- The field is among those that the manifest gives to the layer. -/
inductive NamesField (manifest : Json) (layer field : Text) : Prop
  | key {entry : Json} {members : List (Text × Json)} (stated : stated? manifest layer = some entry)
      (fields : entry.get? "fields" = some (.obj members)) (member : field ∈ members.map (·.1))
  | item {entry : Json} {items : List Json} (stated : stated? manifest layer = some entry)
      (fields : entry.get? "fields" = some (.arr items)) (member : .str field ∈ items)

/-- The columns of the table of each listed layer, asked for in the order of the catalog. -/
def answers {m : Type → Type} [Monad m] (describe : Text → m (List Text)) (manifest : Json)
    (schemas : List LayerSchema) : m (List (Text × List Text)) :=
  (schemas.filter fun schema => lists manifest schema.name).mapM fun schema => do
    return (schema.name, ← describe schema.name)

/-- What was answered, if there is anyone to ask. -/
def hearsay {m : Type → Type} [Monad m] (describe : Describe m) (manifest : Json)
    (schemas : List LayerSchema) : m (Option (List (Text × List Text))) :=
  match describe with
  | none => pure none
  | some describe => do return some (← answers describe manifest schemas)

def columns? (heard : Option (List (Text × List Text))) (layer : Text) : Option (List Text) :=
  heard.map fun answers => (Assoc.get? layer answers).getD []

end Manifest

/-- The layer says what was declared, what the manifest states and which columns were found. -/
structure Layer.Reflects (layer : Layer) (schema : LayerSchema) (manifest : Json)
    (columns : Option (List Text)) : Prop where
  name : layer.name = schema.name
  geometryType : layer.geometryType = schema.geometryType
  schemaFields : layer.schemaFields = schema.fields
  description : layer.description = some schema.description
  isLoaded : layer.isLoaded = true ↔ Manifest.lists manifest schema.name = true ∧ columns ≠ some []
  loadedAscending : layer.loadedFields.Pairwise Text.Before
  loadedFields : ∀ field, field ∈ layer.loadedFields ↔
    layer.isLoaded = true ∧ field ∉ Catalog.internalFields ∧
      (Manifest.NamesField manifest schema.name field ∨ ∃ found ∈ columns, field ∈ found)
  queryableAscending : layer.queryableFields.Pairwise Text.Before
  queryableFields : ∀ field, field ∈ layer.queryableFields ↔
    field ∈ layer.loadedFields ∨ field ∈ Catalog.virtualFields schema.name
  textOnly : layer.oddLabels = []
  featureCount : layer.isLoaded = false → layer.featureCount = none
  source : layer.isLoaded = false → layer.source = none

/-- One layer for each declaration, in their order, and the names of those that are loaded. -/
structure Registry.Reflects (registry : Registry) (manifest : Json)
    (heard : Option (List (Text × List Text))) : Prop where
  layers : List.Forall₂ (fun layer schema =>
    layer.Reflects schema manifest (Manifest.columns? heard schema.name)) registry.layers Catalog.schemas
  loadedAscending : registry.loadedNames.Pairwise Text.Before
  loadedNames : ∀ name, name ∈ registry.loadedNames ↔
    ∃ layer ∈ registry.layers, layer.name = name ∧ layer.isLoaded = true

namespace Manifest

/-! ## Entries -/

section

variable {manifest : Json} (typed : IsWellTyped manifest)

include typed

theorem exists_entries : ∃ members, entries manifest = .ok members ∧
    ∀ layer, Json.member? members layer = stated? manifest layer := by
  obtain ⟨top, rfl⟩ := typed.isObject
  have stated (layer : Text) : stated? (.obj top) layer =
      (Json.member? top "layers").bind fun layers => layers.get? layer := rfl
  have read : entries (.obj top) = members ((Json.member? top "layers").getD .null) := rfl
  simp only [stated, read]
  cases found : Json.member? top "layers" with
  | none => exact ⟨[], rfl, fun _ => rfl⟩
  | some layers =>
    rcases typed.layers layers found with rfl | ⟨members, rfl⟩
    · exact ⟨[], rfl, fun _ => rfl⟩
    · exact ⟨members, rfl, fun _ => rfl⟩

theorem typed_entry {layer : Text} {entry : Json} (stated : stated? manifest layer = some entry)
    (listed : entry ≠ .null) : ∃ facts, entry = .obj facts ∧
      ∀ fields ∈ entry.get? "fields", IsFieldList fields := by
  obtain ⟨layers, found, inLayers⟩ := Option.bind_eq_some_iff.mp stated
  obtain ⟨facts, rfl⟩ := (typed.entries layers found layer entry inLayers).resolve_left listed
  exact ⟨facts, rfl, typed.fields layers found layer _ inLayers⟩

end

theorem entry?_eq {members : List (Text × Json)} {layer : Text} :
    entry? members layer = match Json.member? members layer with
      | none | some .null => none
      | some entry => some entry := by
  unfold entry? valueAt
  cases Json.member? members layer with
  | none => rfl
  | some entry => cases entry <;> rfl

/-! ## Layers -/

def external (names : List Text) : List Text :=
  names.filter fun name => !Catalog.internalFields.contains name

theorem mem_external {names : List Text} {name : Text} :
    name ∈ external names ↔ name ∈ names ∧ name ∉ Catalog.internalFields := by
  rw [external, List.mem_filter, Bool.not_eq_true', ← Bool.not_eq_true, List.contains_iff_mem]

theorem allTexts?_texts (names : List Text) : allTexts? (names.map .str) = some names := by
  induction names with
  | nil => rfl
  | cons name rest ih => simp only [List.map_cons, allTexts?, ih, Option.map_some]

theorem filter_texts (names : List Text) :
    (names.map Json.str).filter (fun label => !isInternal label) = (external names).map .str := by
  rw [List.filter_map]
  rfl

theorem exists_labels {fields : Json} (isList : IsFieldList fields) : ∃ names : List Text,
    fieldLabels fields = .ok (names.map .str) ∧ ∀ field, field ∈ names ↔
      (∃ members, fields = .obj members ∧ field ∈ members.map (·.1)) ∨
        ∃ items, fields = .arr items ∧ .str field ∈ items := by
  rcases isList with rfl | ⟨members, rfl⟩ | ⟨names, rfl⟩
  · exact ⟨[], rfl, by simp⟩
  · refine ⟨members.map (·.1), ?_, by simp⟩
    rw [fieldLabels, List.map_map]
    rfl
  · refine ⟨names, rfl, fun field => ?_⟩
    simp [Json.texts]

def source? (facts : List (Text × Json)) : Option Json :=
  match valueAt facts "source" with
  | .null => none
  | source => some source

theorem loaded_eq {facts : List (Text × Json)} {names : List Text}
    (labels : fieldLabels (valueAt facts "fields") = .ok (names.map .str)) (schema : LayerSchema)
    (columns : List Text) : loaded schema (.obj facts) columns = .ok {
      name := schema.name
      geometryType := schema.geometryType
      schemaFields := schema.fields
      loadedFields := Query.ascending (external names ++ external columns)
      queryableFields := Query.ascending (external names ++
        (external columns ++ Catalog.virtualFields schema.name))
      oddLabels := []
      isLoaded := true
      featureCount := featureCount? (valueAt facts "featureCount")
      description := some schema.description
      source := source? facts } := by
  simp only [loaded, members, labels, filter_texts, orderedLabels, allTexts?_texts, bind, Except.bind,
    pure, Except.pure, external]
  rfl

/-- The layer that comes of what the two sources say. -/
def layerOf (members : List (Text × Json)) (columns : Option (List Text)) (schema : LayerSchema) :
    Layer :=
  match entry? members schema.name, columns with
  | none, _ | some _, some [] => unloaded schema
  | some entry, columns => (loaded schema entry (columns.getD [])).toOption.getD (unloaded schema)

theorem unloaded_reflects {manifest : Json} {columns : Option (List Text)} {schema : LayerSchema}
    (absent : ¬ (lists manifest schema.name = true ∧ columns ≠ some [])) :
    (unloaded schema).Reflects schema manifest columns where
  name := rfl
  geometryType := rfl
  schemaFields := rfl
  description := rfl
  isLoaded := iff_of_false Bool.false_ne_true absent
  loadedAscending := .nil
  loadedFields _ := iff_of_false List.not_mem_nil fun loaded => Bool.false_ne_true loaded.1
  queryableAscending := Query.ascending_pairwise _
  queryableFields _ := Query.mem_ascending.trans (or_iff_right List.not_mem_nil).symm
  textOnly := rfl
  featureCount _ := rfl
  source _ := rfl

section

variable {members : List (Text × Json)} {schema : LayerSchema} {columns : Option (List Text)}

theorem layerOf_of_unlisted (unlisted : entry? members schema.name = none) :
    layerOf members columns schema = unloaded schema := by
  unfold layerOf
  rw [unlisted]

theorem layerOf_of_no_table : layerOf members (some []) schema = unloaded schema := by
  unfold layerOf
  cases entry? members schema.name <;> rfl

theorem layerOf_of_loaded {entry : Json} {layer : Layer}
    (listed : entry? members schema.name = some entry) (found : columns ≠ some [])
    (built : loaded schema entry (columns.getD []) = .ok layer) :
    layerOf members columns schema = layer := by
  unfold layerOf
  rw [listed]
  split
  · contradiction
  · exact absurd rfl found
  · rename_i same _
    cases same
    rw [built]
    rfl

variable {manifest : Json}

theorem entry?_of_lists (same : ∀ layer, Json.member? members layer = stated? manifest layer)
    (layer : Text) : (lists manifest layer = false ∧ entry? members layer = none) ∨
      lists manifest layer = true ∧ ∃ entry, stated? manifest layer = some entry ∧ entry ≠ .null ∧
        entry? members layer = some entry := by
  rw [entry?_eq, same, lists]
  cases stated? manifest layer with
  | none => simp
  | some entry => cases entry <;> simp

theorem namesField_iff {entry : Json} {layer field : Text} (stated : stated? manifest layer = some entry) :
    NamesField manifest layer field ↔
      (∃ members, entry.get? "fields" = some (.obj members) ∧ field ∈ members.map (·.1)) ∨
        ∃ items, entry.get? "fields" = some (.arr items) ∧ .str field ∈ items := by
  constructor
  · rintro (⟨other, fields, member⟩ | ⟨other, fields, member⟩)
    · cases stated.symm.trans other
      exact .inl ⟨_, fields, member⟩
    · cases stated.symm.trans other
      exact .inr ⟨_, fields, member⟩
  · rintro (⟨_, fields, member⟩ | ⟨_, fields, member⟩)
    · exact .key stated fields member
    · exact .item stated fields member

theorem exists_names {facts : List (Text × Json)} {layer : Text}
    (stated : stated? manifest layer = some (.obj facts))
    (areFields : ∀ fields ∈ (Json.obj facts).get? "fields", IsFieldList fields) :
    ∃ names : List Text, fieldLabels (valueAt facts "fields") = .ok (names.map .str) ∧
      ∀ field, field ∈ names ↔ NamesField manifest layer field := by
  have isList : IsFieldList (valueAt facts "fields") := by
    unfold valueAt
    cases found : Json.member? facts "fields" with
    | none => exact .inl rfl
    | some fields => exact areFields fields found
  obtain ⟨names, labels, named⟩ := exists_labels isList
  refine ⟨names, labels, fun field => ?_⟩
  have absent (j : Json) (notNull : j ≠ .null) : valueAt facts "fields" = j ↔
      (Json.obj facts).get? "fields" = some j := by
    change (Json.member? facts "fields").getD .null = j ↔ Json.member? facts "fields" = some j
    cases Json.member? facts "fields" with
    | none => simpa using notNull.symm
    | some fields => simp
  rw [named, namesField_iff stated]
  simp only [absent _ (Json.noConfusion : Json.obj _ ≠ .null),
    absent _ (Json.noConfusion : Json.arr _ ≠ .null)]

theorem layerOf_reflects (typed : IsWellTyped manifest)
    (same : ∀ layer, Json.member? members layer = stated? manifest layer)
    (columns : Option (List Text)) (schema : LayerSchema) :
    (layerOf members columns schema).Reflects schema manifest columns := by
  rcases entry?_of_lists same schema.name with
    ⟨unlisted, none⟩ | ⟨listed, entry, stated, notNull, some⟩
  · rw [layerOf_of_unlisted none]
    exact unloaded_reflects fun both => Bool.false_ne_true (unlisted.symm.trans both.1)
  · by_cases found : columns = .some []
    · subst found
      rw [layerOf_of_no_table]
      exact unloaded_reflects fun both => both.2 rfl
    · obtain ⟨facts, rfl, areFields⟩ := typed_entry typed stated notNull
      obtain ⟨names, labels, named⟩ := exists_names stated areFields
      rw [layerOf_of_loaded some found (loaded_eq labels schema (columns.getD []))]
      refine ⟨rfl, rfl, rfl, rfl, iff_of_true rfl ⟨listed, found⟩, Query.ascending_pairwise _,
        fun field => ?_, Query.ascending_pairwise _, fun field => ?_, rfl, nofun, nofun⟩
      · have asked : field ∈ columns.getD [] ↔ ∃ found ∈ columns, field ∈ found := by
          cases columns <;> simp
        simp only [Query.mem_ascending, List.mem_append, mem_external, named, asked, true_and]
        tauto
      · simp only [Query.mem_ascending, List.mem_append, or_assoc]

end

/-! ## Registries -/

theorem loadedNames_mem {registry : Registry} {name : Text} : name ∈ registry.loadedNames ↔
    ∃ layer ∈ registry.layers, layer.name = name ∧ layer.isLoaded = true := by
  rw [Registry.loadedNames, Query.mem_ascending]
  simp only [List.mem_map, List.mem_filter]
  tauto

section

variable {m : Type → Type} [Monad m] [LawfulMonad m] {describe : Text → m (List Text)}
  {manifest : Json} {members : List (Text × Json)}

def AllLoad (members : List (Text × Json)) : Prop :=
  ∀ (schema : LayerSchema) (entry : Json), entry? members schema.name = some entry → ∀ columns,
    ∃ layer, loaded schema entry columns = .ok layer

theorem allLoad (typed : IsWellTyped manifest)
    (same : ∀ layer, Json.member? members layer = stated? manifest layer) : AllLoad members := by
  intro schema entry found columns
  rcases entry?_of_lists same schema.name with ⟨_, none⟩ | ⟨_, stated, isStated, notNull, some⟩
  · cases none.symm.trans found
  · cases some.symm.trans found
    obtain ⟨facts, rfl, areFields⟩ := typed_entry typed isStated notNull
    obtain ⟨names, labels, _⟩ := exists_names isStated areFields
    exact ⟨_, loaded_eq labels schema columns⟩

omit [LawfulMonad m] in
theorem layer_unasked (loads : AllLoad members) (schema : LayerSchema) :
    layer (m := m) none members schema = pure (.ok (layerOf members none schema)) := by
  unfold layer
  cases found : entry? members schema.name with
  | none => simp only [layerOf_of_unlisted found]
  | some entry =>
    obtain ⟨built, isBuilt⟩ := loads schema entry found []
    have same : layerOf members none schema = built := layerOf_of_loaded found nofun isBuilt
    simp only [isBuilt, same]

theorem layers_unasked (loads : AllLoad members) (schemas : List LayerSchema) :
    layers (m := m) none members schemas = pure (.ok (schemas.map (layerOf members none))) := by
  induction schemas with
  | nil => rfl
  | cons schema rest ih => simp only [layers, layer_unasked loads, ih, pure_bind, List.map_cons]

omit [LawfulMonad m] in
theorem layer_asked (loads : AllLoad members) {schema : LayerSchema} {entry : Json}
    (found : entry? members schema.name = some entry) :
    layer (some describe) members schema = (do
      let columns ← describe schema.name
      return .ok (layerOf members (some columns) schema)) := by
  unfold layer
  rw [found]
  refine bind_congr fun columns => ?_
  cases columns with
  | nil => simp only [layerOf_of_no_table]
  | cons column columns =>
    obtain ⟨built, isBuilt⟩ := loads schema entry found (column :: columns)
    have same : layerOf members (some (column :: columns)) schema = built :=
      layerOf_of_loaded found nofun isBuilt
    simp only [isBuilt, same]

theorem columns?_head (layer : Text) (columns : List Text) (answers : List (Text × List Text)) :
    columns? (some ((layer, columns) :: answers)) layer = some columns := by
  simp only [columns?, Option.map_some, Assoc.get?, if_true, Option.getD_some]

theorem map_layerOf_cons {schemas : List LayerSchema} {layer : Text}
    (fresh : layer ∉ schemas.map (·.name)) (columns : List Text) (answers : List (Text × List Text)) :
    schemas.map (fun schema =>
        layerOf members (columns? (some ((layer, columns) :: answers)) schema.name) schema) =
      schemas.map fun schema => layerOf members (columns? (some answers) schema.name) schema := by
  refine List.map_congr_left fun schema member => ?_
  have differ : layer ≠ schema.name := by
    rintro rfl
    exact fresh (List.mem_map_of_mem member)
  simp only [columns?, Option.map_some, Assoc.get?, if_neg differ]

theorem layers_asked (same : ∀ layer, Json.member? members layer = stated? manifest layer)
    (loads : AllLoad members) {schemas : List LayerSchema}
    (distinct : (schemas.map (·.name)).Nodup) :
    layers (some describe) members schemas = (do
      let heard ← answers describe manifest schemas
      return .ok (schemas.map fun schema =>
        layerOf members (columns? (some heard) schema.name) schema)) := by
  -- No name comes twice, so the answer about the first layer changes nothing for the others.
  induction schemas with
  | nil => simp [layers, answers]
  | cons schema rest ih =>
    obtain ⟨fresh, distinct⟩ := List.nodup_cons.mp distinct
    rw [layers, ih distinct]
    rcases entry?_of_lists same schema.name with ⟨unlisted, none⟩ | ⟨listed, entry, _, _, some⟩
    · have unasked : layer (.some describe) members schema = pure (.ok (unloaded schema)) := by
        unfold layer
        rw [none]
      rw [unasked]
      simp only [answers, List.filter_cons, unlisted, Bool.false_eq_true, if_false, pure_bind,
        bind_assoc, List.map_cons, layerOf_of_unlisted none]
    · rw [layer_asked loads some]
      simp only [answers, List.filter_cons, listed, if_true, List.mapM_cons, pure_bind, bind_assoc,
        List.map_cons, map_layerOf_cons fresh, columns?_head]

end

/-- A registry is built from any well typed manifest, whoever is asked for columns and whatever else that
does: the listed layers are asked for in the order of the catalog, and the registry says what was stated
and answered. -/
theorem snapshot_reflects_manifest [Stack] {m : Type → Type} [Monad m] [LawfulMonad m] (describe : Describe m)
    (now : Text) {file : Option Text} {manifest : Json} (read : ofFile file = .ok manifest)
    (typed : IsWellTyped manifest) :
    ∃ snapshot : Option (List (Text × List Text)) → Registry,
      registryOfFile describe now file = (do
        return .ok (snapshot (← hearsay describe manifest Catalog.schemas))) ∧
      ∀ heard, (snapshot heard).Reflects manifest heard := by
  obtain ⟨members, isRead, same⟩ := exists_entries typed
  have loads := allLoad typed same
  refine ⟨fun heard => ⟨Catalog.schemas.map fun schema =>
    layerOf members (columns? heard schema.name) schema, generatedAt manifest now⟩, ?_, fun heard => ?_⟩
  · simp only [registryOfFile, read, registry, isRead]
    cases describe with
    | none => simp [layers_unasked loads, hearsay, columns?]
    | some describe =>
      have distinct : (Catalog.schemas.map (·.name)).Nodup := by decide
      simp [layers_asked same loads distinct, hearsay]
  · refine ⟨?_, Query.ascending_pairwise _, fun name => loadedNames_mem⟩
    refine List.forall₂_map_left_iff.mpr (List.forall₂_same.mpr fun schema _ => ?_)
    exact layerOf_reflects typed same _ schema

/-- One layer with an internal column among its fields, and one that is null. -/
def riverLayers : Json := .obj [("layers", .obj [
  ("hydrology", .obj [("fields", .texts ["name", "geom"])]), ("parcels", .null)])]

def riverManifest : Text := Json.compact.render riverLayers

/-- Every table has the same two columns; the state holds the tables that were asked about. -/
def riverColumns (layer : Text) : StateM (List Text) (List Text) :=
  modifyGet fun asked => (["length_km", "geom"], asked ++ [layer])

theorem riverLayers_isWellTyped : IsWellTyped riverLayers where
  isObject := ⟨_, rfl⟩
  layers layers found := by
    cases found
    exact .inr ⟨_, rfl⟩
  entries layers found layer entry inLayers := by
    cases found
    have member := Assoc.mem_of_get?_eq_some inLayers
    simp only [List.mem_cons, List.not_mem_nil, or_false, Prod.mk.injEq] at member
    rcases member with ⟨_, rfl⟩ | ⟨_, rfl⟩
    · exact .inr ⟨_, rfl⟩
    · exact .inl rfl
  fields layers found layer entry inLayers fields inEntry := by
    cases found
    have member := Assoc.mem_of_get?_eq_some inLayers
    simp only [List.mem_cons, List.not_mem_nil, or_false, Prod.mk.injEq] at member
    rcases member with ⟨_, rfl⟩ | ⟨_, rfl⟩
    · cases inEntry
      exact .inr (.inr ⟨_, rfl⟩)
    · cases inEntry

theorem ofFile_riverManifest [Stack] : ofFile (some riverManifest) = .ok riverLayers := by
  have settled : riverLayers.IsSettled := by
    simp only [riverLayers, Json.texts, List.map_cons, List.map_nil, Json.IsSettled, Json.AreSettled,
      Json.MembersAreSettled]
    decide
  have writable : riverLayers.EveryWritable := by
    simp [riverLayers, Json.texts, Json.EveryWritable, Json.Every, Json.EveryItem, Json.EveryMember]
  rw [ofFile, riverManifest,
    Json.read_render Json.isOpen_compact settled writable (Stack.le_reading (by decide) .manifest)]

section

open Stack.Usual

theorem riverManifest_snapshot :
    ofFile (some riverManifest) = .ok riverLayers ∧ IsWellTyped riverLayers ∧
      ∃ snapshot : Option (List (Text × List Text)) → Registry,
        registryOfFile (some riverColumns) "" (some riverManifest) = (do
          return .ok (snapshot (← hearsay (some riverColumns) riverLayers Catalog.schemas))) ∧
        ∀ heard, (snapshot heard).Reflects riverLayers heard :=
  ⟨ofFile_riverManifest, riverLayers_isWellTyped,
    snapshot_reflects_manifest (some riverColumns) "" ofFile_riverManifest riverLayers_isWellTyped⟩

end

end Manifest

end SpatialQuery
