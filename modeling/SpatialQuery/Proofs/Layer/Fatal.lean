import SpatialQuery.Proofs.Layer.Entry

/-!
# When a manifest is fatal

A manifest that is not there or not JSON, or that has nothing where its layers should be, means that nothing
is loaded.  Any other one comes to a registry as well, but for a few lapses: bytes that are no text, what is
too large to be read, values of the wrong kind where an object is needed, and entries that cannot be used.
-/

set_option autoImplicit false

namespace SpatialQuery.Manifest

/-! ## Whoever is asked -/

/-- Each of the columns is what is answered at some time. -/
inductive Answers {σ : Type} : Describe (StateM σ) → Columns → Prop
  | unasked : Answers none none
  | asked {describe : Text → StateM σ (List Text)} {columns : Text → List Text}
      (given : ∀ layer, ∃ s, ((describe layer).run s).1 = columns layer) :
      Answers (some describe) (some columns)

section

variable {σ : Type} {entries : List (Text × Json)}

theorem run_bind {α β : Type} (first : StateM σ α) (next : α → StateM σ β) (before : σ) :
    (first >>= next).run before = (next (first.run before).1).run (first.run before).2 :=
  rfl

theorem layer_congr {columns others : Text → List Text} {schema : LayerSchema}
    (same : columns schema.name = others schema.name) :
    layer (some columns : Columns) entries schema = layer (some others : Columns) entries schema := by
  unfold layer
  cases entry? entries schema.name with
  | none => rfl
  | some entry =>
    dsimp only
    rw [same]

theorem layers_congr {columns others : Text → List Text} {schemas : List LayerSchema}
    (same : ∀ schema ∈ schemas, columns schema.name = others schema.name) :
    layers (some columns : Columns) entries schemas = layers (some others : Columns) entries schemas := by
  induction schemas with
  | nil => rfl
  | cons schema rest ih =>
    obtain ⟨here, later⟩ := List.forall_mem_cons.mp same
    rw [layers, layers, layer_congr here, ih later]

theorem layer_answered (describe : Text → StateM σ (List Text)) (schema : LayerSchema) (before : σ)
    {columns : Text → List Text} (given : columns schema.name = ((describe schema.name).run before).1) :
    ((layer (some describe) entries schema).run before).1 =
      layer (some columns : Columns) entries schema := by
  unfold layer
  cases entry? entries schema.name with
  | none => rfl
  | some entry =>
    dsimp only
    rw [given, run_bind]
    rcases (describe schema.name).run before with ⟨_ | ⟨column, others⟩, after⟩
    · rfl
    · rfl

theorem run_layers_cons (describe : Describe (StateM σ)) (schema : LayerSchema) (rest : List LayerSchema)
    (before : σ) :
    ((layers describe entries (schema :: rest)).run before).1 = (do
      let first ← ((layer describe entries schema).run before).1
      let others ← ((layers describe entries rest).run ((layer describe entries schema).run before).2).1
      return first :: others) := by
  rw [layers, run_bind]
  rcases (layer describe entries schema).run before with ⟨fault | first, after⟩
  · rfl
  · dsimp only
    rw [run_bind]
    rcases (layers describe entries rest).run after with ⟨fault | others, last⟩
    · rfl
    · rfl

theorem run_layers_unasked (schemas : List LayerSchema) (before : σ) :
    ((layers (none : Describe (StateM σ)) entries schemas).run before).1 =
      layers (none : Columns) entries schemas := by
  have one : ∀ schema, ∀ s : σ, (layer (none : Describe (StateM σ)) entries schema).run s =
      (layer (none : Columns) entries schema, s) := by
    intro schema s
    unfold layer
    cases entry? entries schema.name <;> rfl
  induction schemas generalizing before with
  | nil => rfl
  | cons schema rest ih =>
    have cons : layers (none : Columns) entries (schema :: rest) = _ := layers_eq_mapM _
    rw [List.mapM_cons, ← layers_eq_mapM] at cons
    rw [run_layers_cons, one, ih]
    exact cons.symm

theorem exists_answers (describe : Text → StateM σ (List Text)) {schemas : List LayerSchema}
    (distinct : (schemas.map (·.name)).Nodup) (before : σ) :
    ∃ columns : Text → List Text, (∀ layer, ∃ s, ((describe layer).run s).1 = columns layer) ∧
      ((layers (some describe) entries schemas).run before).1 =
        layers (some columns : Columns) entries schemas := by
  -- By induction on the declarations.  No name comes twice, so that each answer is the only one about
  -- its table.
  induction schemas generalizing before with
  | nil => exact ⟨fun layer => ((describe layer).run before).1, fun layer => ⟨before, rfl⟩, rfl⟩
  | cons schema rest ih =>
    obtain ⟨fresh, distinct⟩ := List.nodup_cons.mp distinct
    obtain ⟨others, given, later⟩ := ih distinct ((layer (some describe) entries schema).run before).2
    let columns := Function.update others schema.name ((describe schema.name).run before).1
    have here : columns schema.name = ((describe schema.name).run before).1 := Function.update_self ..
    have same : ∀ schema ∈ rest, columns schema.name = others schema.name := by
      intro other member
      have differ : other.name ≠ schema.name := fun isFirst =>
        fresh (List.mem_map.mpr ⟨other, member, isFirst⟩)
      exact Function.update_of_ne differ ..
    refine ⟨columns, fun layer => ?_, ?_⟩
    · by_cases isFirst : layer = schema.name
      · exact ⟨before, isFirst ▸ here.symm⟩
      · obtain ⟨s, answered⟩ := given layer
        exact ⟨s, answered.trans (Function.update_of_ne isFirst ..).symm⟩
    · rw [run_layers_cons, layer_answered describe schema before here, later, ← layers_congr same]
      have cons : layers (some columns : Columns) entries (schema :: rest) = _ := layers_eq_mapM _
      rw [List.mapM_cons, ← layers_eq_mapM] at cons
      exact cons.symm

end

/-! ## Contents -/

def Holds [Stack] (content : Option Text.Bytes) (manifest : Json) : Prop :=
  ∃ bytes text, content = some bytes ∧ Text.decodeUtf8 bytes = .ok text ∧
    Json.read (Stack.reading .manifest) text = .ok manifest

def HoldsLayers [Stack] (content : Option Text.Bytes) : Prop :=
  ∃ manifest entries, Holds content manifest ∧ manifest.get? "layers" = some (.obj entries)

/-- A value is no manifest that a registry can be built from. -/
inductive ManifestLapse (columns : Columns) (manifest : Json) : Prop
  | notAnObject (other : ∀ members, manifest ≠ .obj members)
  | layers {layers : Json} (stated : manifest.get? "layers" = some layers) (told : layers.isVoid = false)
      (other : ∀ members, layers ≠ .obj members)
  | entry {entries : List (Text × Json)} {schema : LayerSchema}
      (stated : manifest.get? "layers" = some (.obj entries)) (known : schema ∈ Catalog.schemas)
      (lapse : LayerLapse columns entries schema)

/-- What makes a file fatal. -/
inductive Lapse [Stack] (columns : Columns) (content : Option Text.Bytes) : Prop
  | undecodable {bytes : Text.Bytes} {fault : Text.DecodeFault} (isThere : content = some bytes)
      (undecodable : Text.decodeUtf8 bytes = .error fault)
  | excessive {bytes : Text.Bytes} {text : Text} {excess : Json.Excess} (isThere : content = some bytes)
      (decoded : Text.decodeUtf8 bytes = .ok text)
      (excessive : Json.read (Stack.reading .manifest) text = .error (.excessive excess))
  | manifest {manifest : Json} (holds : Holds content manifest) (lapse : ManifestLapse columns manifest)

/-- The manifest that is taken from a file, which is an empty one if the file holds none. -/
def manifestOf [Stack] (content : Option Text.Bytes) : Except FileFault Json := do
  let file ← (textOf content).mapError .undecodable
  (ofFile file).mapError .manifest

def registryOf (manifest : Json) (now : Text) (built : Except Fault (List Layer)) :
    Except FileFault Registry :=
  (built.map fun layers => ⟨layers, generatedAt manifest now⟩).mapError .manifest

theorem registryOfContent_eq [Stack] {m : Type → Type} [Monad m] [LawfulMonad m] (describe : Describe m)
    (now : Text) (content : Option Text.Bytes) :
    registryOfContent describe now content =
      match manifestOf content with
      | .error fault => pure (.error fault)
      | .ok manifest =>
        match entries manifest with
        | .error fault => pure (.error (.manifest fault))
        | .ok entries => registryOf manifest now <$> layers describe entries Catalog.schemas := by
  unfold registryOfContent manifestOf
  cases textOf content with
  | error fault => rfl
  | ok file =>
    simp only [registryOfFile, bind_pure_comp, Except.mapError, bind, Except.bind]
    cases ofFile file with
    | error fault => simp
    | ok manifest =>
      simp only [registry]
      cases entries manifest with
      | error fault => simp
      | ok entries =>
        dsimp only
        rw [map_bind, map_eq_pure_bind]
        refine bind_congr fun built => ?_
        cases built <;> simp [Except.mapError, Except.map, registryOf]

theorem exists_columns [Stack] {σ : Type} (describe : Describe (StateM σ)) (now : Text)
    (content : Option Text.Bytes) (before : σ) :
    ∃ columns, Answers describe columns ∧
      ((registryOfContent describe now content).run before).1 = registryOfContent columns now content := by
  have distinct : (Catalog.schemas.map (·.name)).Nodup := by decide
  have answered : ∀ entries, ∃ columns, Answers describe columns ∧
      ((layers describe entries Catalog.schemas).run before).1 = layers columns entries Catalog.schemas := by
    intro entries
    cases describe with
    | none => exact ⟨none, .unasked, run_layers_unasked ..⟩
    | some describe =>
      obtain ⟨columns, given, same⟩ := exists_answers describe distinct before
      exact ⟨some columns, .asked given, same⟩
  simp only [registryOfContent_eq]
  cases manifestOf content with
  | error fault =>
    obtain ⟨columns, given, _⟩ := answered []
    exact ⟨columns, given, rfl⟩
  | ok manifest =>
    dsimp only
    cases entries manifest with
    | error fault =>
      obtain ⟨columns, given, _⟩ := answered []
      exact ⟨columns, given, rfl⟩
    | ok entries =>
      obtain ⟨columns, given, same⟩ := answered entries
      exact ⟨columns, given, congrArg (registryOf manifest now) same⟩

theorem manifestOf_of_decoded [Stack] {bytes : Text.Bytes} {text : Text}
    (decoded : Text.decodeUtf8 bytes = .ok text) :
    manifestOf (some bytes) = (ofFile (some text)).mapError .manifest := by
  rw [manifestOf, textOf, decoded]
  rfl

theorem manifestOf_cases [Stack] (content : Option Text.Bytes) :
    (∃ manifest, Holds content manifest ∧ manifestOf content = .ok manifest) ∨
      ((∀ manifest, ¬ Holds content manifest) ∧
        ((manifestOf content = .ok (.obj []) ∧ ∀ columns, ¬ Lapse columns content) ∨
          (∃ fault, manifestOf content = .error fault) ∧ ∀ columns, Lapse columns content)) := by
  cases content with
  | none =>
    have nothing : ∀ manifest, ¬ Holds none manifest := fun _ ⟨_, _, isThere, _⟩ => nomatch isThere
    refine .inr ⟨nothing, .inl ⟨rfl, ?_⟩⟩
    rintro columns (⟨isThere, _⟩ | ⟨isThere, _⟩ | ⟨holds, _⟩)
    · cases isThere
    · cases isThere
    · exact nothing _ holds
  | some bytes =>
    cases decoded : Text.decodeUtf8 bytes with
    | error fault =>
      refine .inr ⟨?_, .inr ⟨⟨.undecodable fault, ?_⟩, fun columns => .undecodable rfl decoded⟩⟩
      · rintro manifest ⟨_, _, same, isDecoded, _⟩
        cases same
        cases decoded.symm.trans isDecoded
      · rw [manifestOf, textOf, decoded]
        rfl
    | ok text =>
      rw [manifestOf_of_decoded decoded, ofFile]
      cases read : Json.read (Stack.reading .manifest) text with
      | ok manifest => exact .inl ⟨manifest, ⟨bytes, text, rfl, decoded, read⟩, rfl⟩
      | error error =>
        have nothing : ∀ manifest, ¬ Holds (some bytes) manifest := by
          rintro manifest ⟨_, _, same, isDecoded, isRead⟩
          cases same
          cases decoded.symm.trans isDecoded
          cases read.symm.trans isRead
        refine .inr ⟨nothing, ?_⟩
        cases error with
        | malformed fault offset line column =>
          refine .inl ⟨rfl, ?_⟩
          rintro columns (⟨same, undecodable⟩ | ⟨same, isDecoded, excessive⟩ | ⟨holds, _⟩)
          · cases same
            cases decoded.symm.trans undecodable
          · cases same
            cases decoded.symm.trans isDecoded
            cases read.symm.trans excessive
          · exact nothing _ holds
        | excessive excess =>
          exact .inr ⟨⟨.manifest (.excessive excess), rfl⟩, fun columns => .excessive rfl decoded read⟩

theorem Holds.unique [Stack] {content : Option Text.Bytes} {manifest other : Json}
    (holds : Holds content manifest) (also : Holds content other) : manifest = other := by
  obtain ⟨bytes, text, rfl, decoded, read⟩ := holds
  obtain ⟨_, _, same, isDecoded, isRead⟩ := also
  cases same
  cases decoded.symm.trans isDecoded
  exact Except.ok.inj (read.symm.trans isRead)

theorem Holds.lapse_iff [Stack] {content : Option Text.Bytes} {manifest : Json} {columns : Columns}
    (holds : Holds content manifest) : Lapse columns content ↔ ManifestLapse columns manifest := by
  refine ⟨?_, .manifest holds⟩
  rintro (⟨isThere, undecodable⟩ | ⟨isThere, decoded, excessive⟩ | ⟨also, lapse⟩)
  · obtain ⟨_, _, rfl, decoded, _⟩ := holds
    cases isThere
    cases decoded.symm.trans undecodable
  · obtain ⟨_, _, rfl, isDecoded, read⟩ := holds
    cases isThere
    cases isDecoded.symm.trans decoded
    cases read.symm.trans excessive
  · exact holds.unique also ▸ lapse

theorem no_layerLapse_nil (columns : Columns) :
    ¬ ∃ schema ∈ Catalog.schemas, LayerLapse columns [] schema :=
  fun ⟨_, _, _, listed, _⟩ => nomatch listed

theorem entries_cases (manifest : Json) :
    (∃ found, entries manifest = .ok found ∧ (found = [] ∨ manifest.get? "layers" = some (.obj found)) ∧
        ∀ columns, ManifestLapse columns manifest ↔
          ∃ schema ∈ Catalog.schemas, LayerLapse columns found schema) ∨
      (∃ fault, entries manifest = .error fault) ∧ ∀ columns, ManifestLapse columns manifest := by
  by_cases isObject : ∃ facts, manifest = .obj facts
  case neg =>
    have other : ∀ facts, manifest ≠ .obj facts := fun facts same => isObject ⟨facts, same⟩
    refine .inr ⟨⟨.notAnObject, ?_⟩, fun columns => .notAnObject other⟩
    cases manifest with
    | obj facts => exact absurd rfl (other facts)
    | _ => rfl
  obtain ⟨facts, rfl⟩ := isObject
  have read : entries (.obj facts) = members (valueAt facts "layers") := rfl
  rw [read]
  cases found : Json.member? facts "layers" with
  | none =>
    have nothing : members (valueAt facts "layers") = .ok [] := by
      rw [valueAt, found]
      rfl
    refine .inl ⟨[], nothing, .inl rfl, fun columns => iff_of_false ?_ (no_layerLapse_nil columns)⟩
    rintro (other | ⟨stated, _⟩ | ⟨stated, _⟩)
    · exact other facts rfl
    · cases found.symm.trans stated
    · cases found.symm.trans stated
  | some layers =>
    have value : valueAt facts "layers" = layers := by
      rw [valueAt, found]
      rfl
    rw [value]
    rcases members_cases layers with ⟨entries, rfl, listed⟩ | ⟨void, other, listed⟩ | ⟨told, other, listed⟩
    · refine .inl ⟨entries, listed, .inr found, fun columns => ⟨?_, ?_⟩⟩
      · rintro (other | ⟨stated, _, other⟩ | ⟨stated, known, lapse⟩)
        · exact absurd rfl (other facts)
        · cases found.symm.trans stated
          exact absurd rfl (other entries)
        · cases found.symm.trans stated
          exact ⟨_, known, lapse⟩
      · rintro ⟨schema, known, lapse⟩
        exact .entry found known lapse
    · refine .inl ⟨[], listed, .inl rfl, fun columns => iff_of_false ?_ (no_layerLapse_nil columns)⟩
      rintro (isOther | ⟨stated, told, _⟩ | ⟨stated, _⟩)
      · exact isOther facts rfl
      · cases found.symm.trans stated
        exact Bool.noConfusion (void.symm.trans told)
      · cases found.symm.trans stated
        exact other _ rfl
    · exact .inr ⟨⟨.notAnObject, listed⟩, fun columns => .layers found told other⟩

theorem layers_nil (columns : Columns) (schemas : List LayerSchema) :
    (layers columns [] schemas).run = .ok (schemas.map unloaded) := by
  induction schemas with
  | nil => rfl
  | cons schema rest ih =>
    rw [layers_eq_mapM] at ih
    rw [layers_eq_mapM, List.mapM_cons, ih]
    rfl

/-! ## Registries -/

section

variable {columns : Columns} {content : Option Text.Bytes} (now : Text)

theorem registryOfContent_of_lapse [Stack] (lapse : Lapse columns content) :
    ∃ fault, (registryOfContent columns now content).run = .error fault := by
  rw [registryOfContent_eq]
  rcases manifestOf_cases content with ⟨manifest, holds, taken⟩ | ⟨_, ⟨_, none⟩ | ⟨⟨fault, taken⟩, _⟩⟩
  · rw [taken]
    dsimp only
    have lapse := holds.lapse_iff.mp lapse
    rcases entries_cases manifest with ⟨found, listed, _, lapse_iff⟩ | ⟨⟨fault, listed⟩, _⟩
    · rw [listed]
      have noLayers : ¬ ∃ results, (layers columns found Catalog.schemas).run = .ok results :=
        fun built => exists_layers_iff.mp built ((lapse_iff columns).mp lapse)
      dsimp only
      rw [Id.run_map]
      cases built : (layers columns found Catalog.schemas).run with
      | ok results => exact absurd ⟨results, built⟩ noLayers
      | error fault => exact ⟨.manifest fault, rfl⟩
    · rw [listed]
      exact ⟨.manifest fault, rfl⟩
  · exact absurd lapse (none columns)
  · rw [taken]
    exact ⟨fault, rfl⟩

structure IsRegistryOf [Stack] (content : Option Text.Bytes) (registry : Registry) : Prop where
  realizes : registry.RealizesCatalog
  unloaded : ¬ HoldsLayers content → ∀ layer ∈ registry.layers, layer.isLoaded = false

theorem registryOfContent_of_not_lapse [Stack] (noLapse : ¬ Lapse columns content) :
    ∃ registry, (registryOfContent columns now content).run = .ok registry ∧
      IsRegistryOf content registry := by
  have readable : ∃ manifest found, manifestOf content = .ok manifest ∧ entries manifest = .ok found ∧
      (found = [] ∨ HoldsLayers content) ∧
      ¬ ∃ schema ∈ Catalog.schemas, LayerLapse columns found schema := by
    rcases manifestOf_cases content with ⟨manifest, holds, taken⟩ | ⟨_, ⟨taken, _⟩ | ⟨_, all⟩⟩
    · have noLapse := mt holds.lapse_iff.mpr noLapse
      rcases entries_cases manifest with ⟨found, listed, known, lapse_iff⟩ | ⟨_, all⟩
      · exact ⟨manifest, found, taken, listed, known.imp_right fun stated => ⟨manifest, found, holds, stated⟩,
          mt (lapse_iff columns).mpr noLapse⟩
      · exact absurd (all columns) noLapse
    · exact ⟨.obj [], [], taken, rfl, .inl rfl, no_layerLapse_nil columns⟩
    · exact absurd (all columns) noLapse
  obtain ⟨manifest, found, taken, listed, known, usable⟩ := readable
  obtain ⟨results, built⟩ := exists_layers_iff.mpr usable
  refine ⟨⟨results, generatedAt manifest now⟩, ?_, realize_of_layers built, fun none layer member => ?_⟩
  · rw [registryOfContent_eq, taken]
    dsimp only
    rw [listed]
    dsimp only
    rw [Id.run_map, built]
    rfl
  · obtain rfl := known.resolve_right none
    rw [layers_nil] at built
    cases built
    obtain ⟨schema, _, rfl⟩ := List.mem_map.mp member
    rfl

end

/-- Whoever is asked, and whatever the state of affairs before. -/
theorem fatal_by_lapse_only [Stack] {σ : Type} (describe : Describe (StateM σ)) (now : Text)
    (content : Option Text.Bytes) (before : σ) :
    ∃ columns, Answers describe columns ∧
      (Lapse columns content →
        ∃ fault, ((registryOfContent describe now content).run before).1 = .error fault) ∧
      (¬ Lapse columns content →
        ∃ registry, ((registryOfContent describe now content).run before).1 = .ok registry ∧
          IsRegistryOf content registry) := by
  obtain ⟨columns, given, same⟩ := exists_columns describe now content before
  refine ⟨columns, given, ?_, ?_⟩
  · intro lapse
    obtain ⟨fault, failed⟩ := registryOfContent_of_lapse now lapse
    exact ⟨fault, same.trans failed⟩
  · intro noLapse
    obtain ⟨registry, built, isRegistry⟩ := registryOfContent_of_not_lapse now noLapse
    exact ⟨registry, same.trans built, isRegistry⟩

section

open Stack.Usual

/-- A byte that is no text, and a list, which is JSON but no manifest. -/
theorem unusable_files_are_fatal :
    (∃ fault, (registryOfContent (none : Columns) "" (some ⟨[0xFF]⟩)).run = .error (.undecodable fault)) ∧
      Holds (some ⟨[0x5B, 0x5D]⟩) (.arr []) ∧
      (registryOfContent (none : Columns) "" (some ⟨[0x5B, 0x5D]⟩)).run =
        .error (.manifest .notAnObject) :=
  ⟨⟨⟨.utf8, 0, [0xFF], "invalid start byte"⟩, rfl⟩, ⟨⟨[0x5B, 0x5D]⟩, "[]", rfl, rfl, rfl⟩, rfl⟩

end

end SpatialQuery.Manifest
