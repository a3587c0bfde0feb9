import SpatialQuery.Proofs.Layer.Snapshot

/-!
# Registries over known tables

A manifest may list layers and say nothing about them.  Then the tables alone tell what is loaded, and
where their columns are known beforehand the whole registry is known.
-/

set_option autoImplicit false

namespace SpatialQuery.Manifest

/-! ## Tables with known columns -/

section

variable {m : Type → Type} [Monad m] [LawfulMonad m] {manifest : Json} {members : List (Text × Json)}

theorem layer_known (loads : AllLoad members) (columns : Text → List Text) (schema : LayerSchema) :
    layer (m := m) (some fun name => pure (columns name)) members schema =
      pure (.ok (layerOf members (some (columns schema.name)) schema)) := by
  cases found : entry? members schema.name with
  | none =>
    unfold layer
    rw [found, layerOf_of_unlisted found]
  | some entry => rw [layer_asked loads found, pure_bind]

theorem layers_known (loads : AllLoad members) (columns : Text → List Text)
    (schemas : List LayerSchema) :
    layers (m := m) (some fun name => pure (columns name)) members schemas =
      pure (.ok (schemas.map fun schema =>
        layerOf members (some (columns schema.name)) schema)) := by
  induction schemas with
  | nil => rfl
  | cons schema rest ih =>
    simp only [layers, layer_known loads columns, ih, pure_bind, List.map_cons]

theorem exists_registry [Stack] (typed : IsWellTyped manifest) {file : Option Text}
    (read : ofFile file = .ok manifest) (columns : Text → List Text) (now : Text) :
    ∃ registry,
      registryOfFile (m := m) (some fun name => pure (columns name)) now file =
        pure (.ok registry) ∧
      ∀ schema ∈ Catalog.schemas, ∃ layer ∈ registry.layers,
        layer.Reflects schema manifest (some (columns schema.name)) := by
  obtain ⟨members, isRead, same⟩ := exists_entries typed
  refine ⟨⟨Catalog.schemas.map fun schema => layerOf members (some (columns schema.name)) schema,
    generatedAt manifest now⟩, ?_, fun schema known => ?_⟩
  · simp only [registryOfFile, read, registry, isRead, layers_known (allLoad typed same), pure_bind]
  · exact ⟨_, List.mem_map_of_mem known, layerOf_reflects typed same _ schema⟩

end

/-! ## Manifests that list layers -/

/-- A manifest that lists the layers and says nothing about them. -/
def listing (layers : List Text) : Json :=
  .obj [("layers", .obj (layers.map fun layer => (layer, .obj [])))]

def listingFile (layers : List Text) : Text := Json.compact.render (listing layers)

variable {layers : List Text}

theorem stated?_listing (layer : Text) :
    stated? (listing layers) layer = if layer ∈ layers then some (.obj []) else none := by
  change Assoc.get? layer (layers.map fun layer => (layer, Json.obj [])) = _
  induction layers with
  | nil => rfl
  | cons first rest ih =>
    by_cases same : first = layer
    · simp [Assoc.get?, same]
    · simp [Assoc.get?, same, ih, Ne.symm same]

theorem lists_listing (layer : Text) : lists (listing layers) layer = decide (layer ∈ layers) := by
  by_cases listed : layer ∈ layers <;> simp [lists, stated?_listing, listed]

theorem not_namesField_listing (layer field : Text) : ¬ NamesField (listing layers) layer field := by
  have bare {entry : Json} (stated : stated? (listing layers) layer = some entry) : entry = .obj [] := by
    rw [stated?_listing] at stated
    split at stated <;> cases stated
    rfl
  rintro (⟨stated, fields, _⟩ | ⟨stated, fields, _⟩) <;> rw [bare stated] at fields <;> cases fields

theorem listing_isWellTyped (layers : List Text) : IsWellTyped (listing layers) := by
  have bare {found : Json} (present : (listing layers).get? "layers" = some found) {layer : Text}
      {entry : Json} (inLayers : found.get? layer = some entry) : entry = .obj [] := by
    have stated : stated? (listing layers) layer = some entry := by
      rw [stated?, present]
      exact inLayers
    rw [stated?_listing] at stated
    split at stated <;> cases stated
    rfl
  refine ⟨⟨_, rfl⟩, ?_, ?_, ?_⟩
  · rintro _ ⟨⟩
    exact .inr ⟨_, rfl⟩
  · intro found present layer entry inLayers
    exact .inr ⟨[], bare present inLayers⟩
  · intro found present layer entry inLayers fields inEntry
    rw [bare present inLayers] at inEntry
    cases inEntry

theorem depth_listing (layers : List Text) : (listing layers).depth ≤ 3 := by
  have flat : Json.memberDepth (layers.map fun layer => (layer, Json.obj [])) ≤ 1 := by
    induction layers with
    | nil => exact Nat.zero_le 1
    | cons first rest ih =>
      rw [List.map_cons, Json.memberDepth]
      exact Nat.max_le.mpr ⟨Nat.le_refl 1, ih⟩
  exact Nat.succ_le_succ (Nat.max_le.mpr ⟨Nat.succ_le_succ flat, Nat.zero_le 2⟩)

theorem ofFile_listingFile [Stack] (distinct : layers.Nodup) (whole : ∀ layer ∈ layers, layer.IsWhole) :
    ofFile (some (listingFile layers)) = .ok (listing layers) := by
  have keys : ((layers.map fun layer => (layer, Json.obj [])).map (·.1)).Nodup := by
    rw [List.map_map]
    exact (List.map_id layers).symm ▸ distinct
  have settled : (listing layers).IsSettled := by
    refine ⟨List.nodup_cons.mpr ⟨List.not_mem_nil, .nil⟩, Text.isWhole_ofString "layers",
      ⟨keys, ?_⟩, trivial⟩
    refine Json.membersAreSettled_iff.mpr (List.forall_mem_map.mpr fun layer member => ?_)
    exact ⟨whole layer member, List.nodup_nil, trivial⟩
  have writable : (listing layers).EveryWritable := by
    refine ⟨trivial, Json.everyMember_iff.mpr (List.forall_mem_map.mpr fun _ _ => ?_), trivial⟩
    exact ⟨trivial, trivial⟩
  have deep : (listing layers).depth ≤ Stack.reading .manifest :=
    Nat.le_trans (depth_listing layers) (Stack.le_reading (by decide) .manifest)
  rw [ofFile, listingFile, Json.read_render Json.isOpen_compact settled writable deep]

theorem exists_registry_of_listing [Stack] (distinct : layers.Nodup)
    (whole : ∀ layer ∈ layers, layer.IsWhole) (columns : Text → List Text) (now : Text) :
    ∃ registry,
      (registryOfFile (m := ExceptT Unit (StateM Unit)) (some fun name => pure (columns name)) now
        (some (listingFile layers))).run () = (.ok (.ok registry), ()) ∧
      ∀ schema ∈ Catalog.schemas, schema.name ∈ layers → columns schema.name ≠ [] →
        ∃ layer, registry.get? schema.name = some layer ∧ layer.isLoaded = true ∧
          ∀ field, field ∈ layer.loadedFields ↔
            field ∈ columns schema.name ∧ field ∉ Catalog.internalFields := by
  obtain ⟨registry, known, reflects⟩ := exists_registry (m := ExceptT Unit (StateM Unit))
    (listing_isWellTyped layers) (ofFile_listingFile distinct whole) columns now
  have built : (registryOfFile (m := ExceptT Unit (StateM Unit))
      (some fun name => pure (columns name)) now (some (listingFile layers))).run () =
        (.ok (.ok registry), ()) := by
    rw [known]
    rfl
  refine ⟨registry, built, fun schema declared listed some => ?_⟩
  obtain ⟨layer, member, reflects⟩ := reflects schema declared
  have isLoaded : layer.isLoaded = true := by
    refine reflects.isLoaded.mpr ⟨?_, fun none => some (Option.some.inj none)⟩
    rw [lists_listing, decide_eq_true listed]
  refine ⟨layer, ?_, isLoaded, fun field => ?_⟩
  · rw [← reflects.name]
    exact (registryOfFile_realizes built).get?_of_mem member
  · rw [reflects.loadedFields]
    simp [isLoaded, not_namesField_listing, and_comm]

end SpatialQuery.Manifest
