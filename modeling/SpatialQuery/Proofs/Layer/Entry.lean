import SpatialQuery.Proofs.Layer.Built

/-!
# Entries that can be used

A layer with an entry comes about unless the entry is of the wrong kind, or has labels of fields that can be
put in no order.  The layers of a manifest come about if each of them does.
-/

set_option autoImplicit false

namespace SpatialQuery.Manifest

/-! ## Labels that can be put in order -/

/-- A truth value counts as a number. -/
def IsNumeric (label : Json) : Prop := (∃ n, label = .num n) ∨ ∃ b, label = .bool b

/-- Labels that are no text can be put in order if all are null or all are numbers. -/
def AreAlike (labels : List Json) : Prop :=
  (∀ label ∈ labels, label = .null) ∨ ∀ label ∈ labels, IsNumeric label

theorem allTexts?_eq_none_iff {labels : List Json} :
    allTexts? labels = none ↔ ∃ label ∈ labels, ∀ t, label ≠ .str t := by
  induction labels with
  | nil => simp [allTexts?]
  | cons label rest ih =>
    cases label with
    | str t => simp [allTexts?, ih]
    | _ => simp [allTexts?]

theorem isSome_numeric?_iff {label : Json} : (numeric? label).isSome = true ↔ IsNumeric label := by
  cases label <;> simp [numeric?, IsNumeric]

theorem isSome_mapM_iff {α β : Type} {f : α → Option β} {items : List α} :
    (items.mapM f).isSome = true ↔ ∀ a ∈ items, (f a).isSome = true := by
  induction items with
  | nil => simp
  | cons a rest ih =>
    rw [List.mapM_cons, List.forall_mem_cons, ← ih]
    cases f a with
    | none => simp
    | some b => cases rest.mapM f <;> simp

theorem exists_numbered_iff (labels : List Json) :
    (∃ ordered, (match labels.mapM fun label => (numeric? label).map (·, label) with
      | none => .error Fault.unusable
      | some numbered =>
        .ok (((numbered.foldl addNumeric []).mergeSort fun a b => a.1.le b.1).map (·.2)) :
          Except Fault (List Json)) = .ok ordered) ↔ ∀ label ∈ labels, IsNumeric label := by
  have each : (labels.mapM fun label => (numeric? label).map (·, label)).isSome = true ↔ _ := isSome_mapM_iff
  simp only [Option.isSome_map, isSome_numeric?_iff] at each
  rw [← each]
  cases labels.mapM fun label => (numeric? label).map (·, label) with
  | none => simp
  | some numbered => simp

theorem exists_oddLabels_iff {labels : List Json} :
    (∃ ordered, oddLabels labels = .ok ordered) ↔ AreAlike labels := by
  unfold oddLabels
  split
  case h_1 => exact iff_of_true ⟨[], rfl⟩ (.inl fun _ member => absurd member List.not_mem_nil)
  case h_2 rest =>
    have noNumber : ¬ IsNumeric .null := by simp [IsNumeric]
    have isAlike : AreAlike (.null :: rest) ↔ ∀ label ∈ rest, label = .null := by
      refine (or_iff_left fun all => noNumber (all _ List.mem_cons_self)).trans ?_
      rw [List.forall_mem_cons, and_iff_right rfl]
    rw [isAlike]
    split
    · rename_i allNull
      refine iff_of_true ⟨_, rfl⟩ fun label member => ?_
      have isNull := List.all_eq_true.mp allNull label member
      cases label with
      | null => rfl
      | _ => cases isNull
    · rename_i someOther
      refine iff_of_false (by simp) fun allNull => someOther (List.all_eq_true.mpr fun label member => ?_)
      rw [allNull label member]
  case h_3 some notNull =>
    have isAlike : AreAlike labels ↔ ∀ label ∈ labels, IsNumeric label := by
      refine or_iff_right fun allNull => ?_
      cases labels with
      | nil => exact some rfl
      | cons label rest => exact notNull rest (by rw [allNull label List.mem_cons_self])
    rw [isAlike]
    exact exists_numbered_iff labels

theorem exists_orderedLabels_iff {labels : List Json} {others : List Text} :
    (∃ ordered, orderedLabels labels others = .ok ordered) ↔
      (∃ label ∈ labels, ∀ t, label ≠ .str t) → others = [] ∧ AreAlike labels := by
  rw [← allTexts?_eq_none_iff, orderedLabels]
  cases allTexts? labels with
  | some texts => simp
  | none =>
    dsimp only
    rw [← exists_oddLabels_iff]
    cases others with
    | nil => cases oddLabels labels <;> simp [bind, Except.bind, pure, Except.pure]
    | cons other others => simp

/-! ## Entries -/

/-- A true value or a number other than zero, which holds no labels at all. -/
def HasNoLabels (fields : Json) : Prop :=
  fields.isVoid = false ∧ ((∃ n, fields = .num n) ∨ ∃ b, fields = .bool b)

def listedLabels (labels : List Json) : List Json := labels.filter fun label => !isInternal label

/-- A label is no text, and the labels can be put in no order with each other or with the other names of the
layer. -/
structure Clash (layer : Text) (columns : List Text) (labels : List Json) : Prop where
  odd : ∃ label ∈ labels, ∀ t, label ≠ .str t
  unordered : (∃ column ∈ columns, column ∉ Catalog.internalFields) ∨ Catalog.virtualFields layer ≠ [] ∨
    ¬ AreAlike (listedLabels labels)

/-- The entry of a layer cannot be used, with the columns of its table as they are. -/
inductive EntryLapse (layer : Text) (columns : List Text) (entry : Json) : Prop
  | notAnObject (told : entry.isVoid = false) (other : ∀ facts, entry ≠ .obj facts)
  | fields {fields : Json} (stated : entry.get? "fields" = some fields) (none : HasNoLabels fields)
  | labels {labels : List Json} (stated : entry.get? "fields" = some (.arr labels))
      (clash : Clash layer columns labels)

theorem members_of_ne_obj {j : Json} (other : ∀ facts, j ≠ .obj facts) :
    members j = if j.isVoid then .ok [] else .error .notAnObject := by
  cases j with
  | obj facts => exact absurd rfl (other facts)
  | _ => rfl

theorem members_cases (j : Json) :
    (∃ facts, j = .obj facts ∧ members j = .ok facts) ∨
      (j.isVoid = true ∧ (∀ facts, j ≠ .obj facts) ∧ members j = .ok []) ∨
      (j.isVoid = false ∧ (∀ facts, j ≠ .obj facts) ∧ members j = .error .notAnObject) := by
  by_cases isObject : ∃ facts, j = .obj facts
  · obtain ⟨facts, rfl⟩ := isObject
    exact .inl ⟨facts, rfl, rfl⟩
  · have other : ∀ facts, j ≠ .obj facts := fun facts same => isObject ⟨facts, same⟩
    rw [members_of_ne_obj other]
    cases void : j.isVoid with
    | true => exact .inr (.inl ⟨rfl, other, rfl⟩)
    | false => exact .inr (.inr ⟨rfl, other, rfl⟩)

theorem exists_fieldLabels_iff {fields : Json} :
    (∃ labels, fieldLabels fields = .ok labels) ↔ ¬ HasNoLabels fields := by
  have plain : ∀ j : Json, fieldLabels j = (if j.isVoid then .ok [] else .error .unusable) →
      ((∃ n, j = .num n) ∨ ∃ b, j = .bool b) →
      ((∃ labels, fieldLabels j = .ok labels) ↔ ¬ HasNoLabels j) := by
    intro j told isPlain
    rw [told]
    cases void : j.isVoid with
    | true => exact iff_of_true ⟨[], rfl⟩ fun none => Bool.noConfusion (void.symm.trans none.1)
    | false => exact iff_of_false (by simp) fun none => none ⟨void, isPlain⟩
  cases fields with
  | bool b => exact plain _ rfl (.inr ⟨b, rfl⟩)
  | num n => exact plain _ rfl (.inl ⟨n, rfl⟩)
  | _ => exact iff_of_true ⟨_, rfl⟩ (by simp [HasNoLabels])

theorem texts_of_fieldLabels {fields : Json} {labels : List Json} (read : fieldLabels fields = .ok labels) :
    fields = .arr labels ∨ ((∀ items, fields ≠ .arr items) ∧ ∀ label ∈ labels, ∃ t, label = .str t) := by
  cases fields with
  | arr items =>
    cases read
    exact .inl rfl
  | obj facts =>
    cases read
    refine .inr ⟨by simp, fun label member => ?_⟩
    obtain ⟨fact, _, rfl⟩ := List.mem_map.mp member
    exact ⟨_, rfl⟩
  | str t =>
    cases read
    refine .inr ⟨by simp, fun label member => ?_⟩
    obtain ⟨mark, _, rfl⟩ := List.mem_map.mp member
    exact ⟨_, rfl⟩
  | _ =>
    simp only [fieldLabels] at read
    split at read
    · cases read
      exact .inr ⟨by simp, by simp⟩
    · cases read

theorem exists_loaded_iff {schema : LayerSchema} {entry : Json} {columns : List Text} :
    (∃ layer, loaded schema entry columns = .ok layer) ↔
      ∃ facts labels, members entry = .ok facts ∧ fieldLabels (valueAt facts "fields") = .ok labels ∧
        ((∃ label ∈ listedLabels labels, ∀ t, label ≠ .str t) →
          columns.filter (fun column => !Catalog.internalFields.contains column) ++
            Catalog.virtualFields schema.name = [] ∧ AreAlike (listedLabels labels)) := by
  constructor
  · rintro ⟨layer, built⟩
    obtain ⟨facts, read, built⟩ := (bind_ok_iff _ _ _).mp built
    obtain ⟨labels, listed, built⟩ := (bind_ok_iff _ _ _).mp built
    obtain ⟨_, _, built⟩ := (bind_ok_iff _ _ _).mp built
    obtain ⟨ordered, isOrdered, _⟩ := (bind_ok_iff _ _ _).mp built
    exact ⟨facts, labels, read, listed, exists_orderedLabels_iff.mp ⟨ordered, isOrdered⟩⟩
  · rintro ⟨facts, labels, read, listed, sortable⟩
    obtain ⟨queryable, isQueryable⟩ := exists_orderedLabels_iff.mpr sortable
    -- With fewer other names the labels can be put in order all the more.
    obtain ⟨found, isFound⟩ := exists_orderedLabels_iff.mpr fun odd =>
      ⟨(List.append_eq_nil_iff.mp (sortable odd).1).1, (sortable odd).2⟩
    exact ⟨_, (bind_ok_iff _ _ _).mpr ⟨facts, read, (bind_ok_iff _ _ _).mpr ⟨labels, listed,
      (bind_ok_iff _ _ _).mpr ⟨found, isFound, (bind_ok_iff _ _ _).mpr ⟨queryable, isQueryable, rfl⟩⟩⟩⟩⟩

theorem clash_iff {layer : Text} {columns : List Text} {labels : List Json} :
    Clash layer columns labels ↔ (∃ label ∈ listedLabels labels, ∀ t, label ≠ .str t) ∧
      ¬ (columns.filter (fun column => !Catalog.internalFields.contains column) ++
        Catalog.virtualFields layer = [] ∧ AreAlike (listedLabels labels)) := by
  have odd : (∃ label ∈ listedLabels labels, ∀ t, label ≠ .str t) ↔
      ∃ label ∈ labels, ∀ t, label ≠ .str t := by
    -- Only text can be an internal name.
    have kept : ∀ label : Json, (∀ t, label ≠ .str t) → isInternal label = false := by
      intro label noText
      cases label with
      | str t => exact absurd rfl (noText t)
      | _ => rfl
    constructor
    · rintro ⟨label, member, noText⟩
      exact ⟨label, (List.mem_filter.mp member).1, noText⟩
    · rintro ⟨label, member, noText⟩
      exact ⟨label, List.mem_filter.mpr ⟨member, by rw [kept label noText]; rfl⟩, noText⟩
  have none : columns.filter (fun column => !Catalog.internalFields.contains column) = [] ↔
      ¬ ∃ column ∈ columns, column ∉ Catalog.internalFields := by
    simp [List.filter_eq_nil_iff]
  rw [odd, List.append_eq_nil_iff, none, not_and_or, not_and_or, not_not, or_assoc]
  exact ⟨fun clash => ⟨clash.odd, clash.unordered⟩, fun both => ⟨both.1, both.2⟩⟩

theorem exists_loaded_iff_not_lapse {schema : LayerSchema} {entry : Json} {columns : List Text} :
    (∃ layer, loaded schema entry columns = .ok layer) ↔ ¬ EntryLapse schema.name columns entry := by
  have nothingListed : ∀ facts, Json.member? facts "fields" = none → members entry = .ok facts →
      ∃ layer, loaded schema entry columns = .ok layer := by
    intro facts absent read
    have noFields : fieldLabels (valueAt facts "fields") = .ok [] := by
      rw [valueAt, absent]
      rfl
    exact exists_loaded_iff.mpr ⟨facts, [], read, noFields, by simp [listedLabels]⟩
  rcases members_cases entry with ⟨facts, rfl, read⟩ | ⟨void, other, read⟩ | ⟨told, other, read⟩
  · cases found : Json.member? facts "fields" with
    | none =>
      refine iff_of_true (nothingListed facts found read) ?_
      rintro (⟨_, other⟩ | ⟨stated, _⟩ | ⟨stated, _⟩)
      · exact other facts rfl
      · cases found.symm.trans stated
      · cases found.symm.trans stated
    | some fields =>
      have value : valueAt facts "fields" = fields := by
        rw [valueAt, found]
        rfl
      rw [exists_loaded_iff]
      constructor
      · rintro ⟨_, labels, isRead, listed, sortable⟩
        obtain rfl := Except.ok.inj (read.symm.trans isRead)
        rw [value] at listed
        rintro (⟨_, other⟩ | ⟨stated, none⟩ | ⟨stated, clash⟩)
        · exact other facts rfl
        · obtain rfl := Option.some.inj (found.symm.trans stated)
          exact exists_fieldLabels_iff.mp ⟨labels, listed⟩ none
        · obtain rfl := Option.some.inj (found.symm.trans stated)
          cases listed
          exact (clash_iff.mp clash).2 (sortable (clash_iff.mp clash).1)
      · intro noLapse
        obtain ⟨labels, listed⟩ := exists_fieldLabels_iff.mpr fun none => noLapse (.fields found none)
        refine ⟨facts, labels, read, value.symm ▸ listed, fun odd => ?_⟩
        rcases texts_of_fieldLabels listed with rfl | ⟨_, texts⟩
        · by_contra unordered
          exact noLapse (.labels found (clash_iff.mpr ⟨odd, unordered⟩))
        · obtain ⟨label, member, noText⟩ := odd
          obtain ⟨t, isText⟩ := texts label (List.mem_filter.mp member).1
          exact absurd isText (noText t)
  · refine iff_of_true (nothingListed [] rfl read) ?_
    have nothing : entry.get? "fields" = none := by
      cases entry with
      | obj facts => exact absurd rfl (other facts)
      | _ => rfl
    rintro (⟨told, _⟩ | ⟨stated, _⟩ | ⟨stated, _⟩)
    · exact Bool.noConfusion (void.symm.trans told)
    · cases nothing.symm.trans stated
    · cases nothing.symm.trans stated
  · refine iff_of_false ?_ fun noLapse => noLapse (.notAnObject told other)
    rw [exists_loaded_iff]
    rintro ⟨facts, _, isRead, _⟩
    cases read.symm.trans isRead

/-! ## Layers -/

abbrev Columns := Describe Id

def tableOf (columns : Columns) (layer : Text) : List Text :=
  match columns with
  | none => []
  | some columns => columns layer

def HasTable (columns : Columns) (layer : Text) : Prop := columns.isSome = true → tableOf columns layer ≠ []

/-- A layer that is not listed, or has no table, is not loaded; any other one is, from its entry. -/
theorem layer_cases (columns : Columns) (entries : List (Text × Json)) (schema : LayerSchema) :
    ((∀ entry, entry? entries schema.name = some entry → ¬ HasTable columns schema.name) ∧
      layer columns entries schema = pure (.ok (unloaded schema))) ∨
    ∃ entry, entry? entries schema.name = some entry ∧ HasTable columns schema.name ∧
      layer columns entries schema = pure (loaded schema entry (tableOf columns schema.name)) := by
  unfold layer
  cases entry? entries schema.name with
  | none => exact .inl ⟨nofun, rfl⟩
  | some entry =>
    cases columns with
    | none => exact .inr ⟨entry, rfl, nofun, rfl⟩
    | some columns =>
      cases table : columns schema.name with
      | nil =>
        refine .inl ⟨fun _ _ has => has rfl table, ?_⟩
        simp only [table]
        rfl
      | cons column others =>
        have has : HasTable (some columns) schema.name := fun _ none => nomatch table.symm.trans none
        refine .inr ⟨entry, rfl, has, ?_⟩
        simp only [tableOf, table]
        rfl

def LayerLapse (columns : Columns) (entries : List (Text × Json)) (schema : LayerSchema) : Prop :=
  ∃ entry, Json.member? entries schema.name = some entry ∧ HasTable columns schema.name ∧
    EntryLapse schema.name (tableOf columns schema.name) entry

theorem layerLapse_iff {columns : Columns} {entries : List (Text × Json)} {schema : LayerSchema} :
    LayerLapse columns entries schema ↔ ∃ entry, entry? entries schema.name = some entry ∧
      HasTable columns schema.name ∧ EntryLapse schema.name (tableOf columns schema.name) entry := by
  have listed : ∀ entry, EntryLapse schema.name (tableOf columns schema.name) entry →
      (Json.member? entries schema.name = some entry ↔ entry? entries schema.name = some entry) := by
    intro entry lapse
    have notNull : entry ≠ .null := by
      rintro rfl
      rcases lapse with ⟨told, _⟩ | ⟨stated, _⟩ | ⟨stated, _⟩
      · cases told
      · cases stated
      · cases stated
    unfold entry? valueAt
    cases Json.member? entries schema.name with
    | none => exact iff_of_false nofun nofun
    | some other =>
      cases other with
      | null => exact iff_of_false (fun same => notNull (Option.some.inj same).symm) nofun
      | _ => exact Iff.rfl
  constructor
  · rintro ⟨entry, isListed, has, lapse⟩
    exact ⟨entry, (listed entry lapse).mp isListed, has, lapse⟩
  · rintro ⟨entry, isListed, has, lapse⟩
    exact ⟨entry, (listed entry lapse).mpr isListed, has, lapse⟩

section

variable {columns : Columns} {entries : List (Text × Json)} {schema : LayerSchema} {result : Layer}

theorem exists_layer_iff : (∃ result, layer columns entries schema = pure (.ok result)) ↔
    ¬ LayerLapse columns entries schema := by
  rw [layerLapse_iff]
  rcases layer_cases columns entries schema with ⟨notListed, built⟩ | ⟨entry, listed, has, built⟩
  · refine iff_of_true ⟨_, built⟩ ?_
    rintro ⟨entry, listed, has, _⟩
    exact notListed entry listed has
  · rw [built]
    refine exists_loaded_iff_not_lapse.trans (not_congr ?_)
    constructor
    · exact fun lapse => ⟨entry, listed, has, lapse⟩
    · rintro ⟨other, alsoListed, _, lapse⟩
      exact Option.some.inj (listed.symm.trans alsoListed) ▸ lapse

theorem realizes_of_layer (built : layer columns entries schema = pure (.ok result)) :
    result.Realizes schema := by
  rcases layer_cases columns entries schema with ⟨_, isBuilt⟩ | ⟨entry, _, _, isBuilt⟩
  · cases built.symm.trans isBuilt
    exact unloaded_realizes schema
  · exact loaded_realizes (isBuilt.symm.trans built)

theorem layers_eq_mapM (schemas : List LayerSchema) :
    (layers columns entries schemas).run =
      schemas.mapM fun schema => (layer columns entries schema).run := by
  induction schemas with
  | nil => rfl
  | cons schema rest ih =>
    rw [List.mapM_cons, ← ih]
    simp only [layers, Id.run_bind]
    cases (layer columns entries schema).run with
    | error fault => rfl
    | ok first =>
      dsimp only
      rw [Id.run_bind]
      cases (layers columns entries rest).run with
      | error fault => rfl
      | ok others => rfl

theorem exists_layers_iff {schemas : List LayerSchema} :
    (∃ results, (layers columns entries schemas).run = .ok results) ↔
      ¬ ∃ schema ∈ schemas, LayerLapse columns entries schema := by
  rw [layers_eq_mapM]
  constructor
  · rintro ⟨results, built⟩ ⟨schema, member, lapse⟩
    obtain ⟨result, one⟩ := exists_of_mapM built schema member
    exact exists_layer_iff.mp ⟨result, one⟩ lapse
  · intro noLapse
    refine exists_mapM fun schema member => ?_
    exact exists_layer_iff.mpr fun lapse => noLapse ⟨schema, member, lapse⟩

theorem realize_of_layers {schemas : List LayerSchema} {results : List Layer}
    (built : (layers columns entries schemas).run = .ok results) :
    List.Forall₂ Layer.Realizes results schemas := by
  rw [layers_eq_mapM] at built
  exact ((forall₂_of_mapM built).imp fun _ _ one => realizes_of_layer one).flip

end

end SpatialQuery.Manifest
