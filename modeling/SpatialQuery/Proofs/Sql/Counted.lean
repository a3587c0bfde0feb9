import SpatialQuery.Proofs.Layer.Built
import SpatialQuery.Proofs.Success
import SpatialQuery.Proofs.Sql.Statement

/-!
# Conditions as they are handed over

Compiling hands a value over, and numbers its placeholder, when the part that stands for it is made.
The lemmas here say of each condition, whatever values were handed over before it, when it is compiled,
which text it writes, and which values it adds: the text is that of the fragments of its part, counted
on from the number of the earlier values, and the values that it adds are those of these fragments in
their order.
-/

set_option autoImplicit false

namespace SpatialQuery.Sql

/-! ## Text that is counted on -/

def textFrom (count : Nat) (fragments : List Fragment) : Text := ⟨writtenFrom count fragments⟩

section textFrom

variable (count : Nat) (rest : List Fragment)

@[simp] theorem textFrom_nil : textFrom count [] = Text.ofString "" := rfl

@[simp] theorem textFrom_text (text : String) :
    textFrom count (.text text :: rest) = Text.ofString text ++ textFrom count rest := rfl

@[simp] theorem textFrom_name (identifier : Text) :
    textFrom count (.name identifier :: rest) = quoteIdentifier identifier ++ textFrom count rest :=
  rfl

@[simp] theorem textFrom_value (value : FilterValue) :
    textFrom count (.value value :: rest) = placeholder (count + 1) ++ textFrom (count + 1) rest := rfl

@[simp] theorem textFrom_append (first : List Fragment) :
    textFrom count (first ++ rest) =
      textFrom count first ++ textFrom (count + (values first).length) rest :=
  congrArg Text.mk (writtenFrom_append first rest count)

end textFrom

theorem textFrom_of_no_values {fragments : List Fragment} (none : values fragments = [])
    (count : Nat) : textFrom count fragments = textFrom 0 fragments := by
  induction fragments with
  | nil => rfl
  | cons fragment rest ih =>
    cases fragment with
    | text text => rw [textFrom_text, textFrom_text, ih none]
    | name identifier => rw [textFrom_name, textFrom_name, ih none]
    | value value => cases none

/-- The text of each part, counted on from part to part. -/
def textsFrom : Nat → List (List Fragment) → List Text
  | _, [] => []
  | count, part :: rest => textFrom count part :: textsFrom (count + (values part).length) rest

theorem textsFrom_append (first rest : List (List Fragment)) (count : Nat) :
    textsFrom count (first ++ rest) =
      textsFrom count first ++ textsFrom (count + (first.flatMap values).length) rest := by
  induction first generalizing count with
  | nil => rfl
  | cons part more ih =>
    simp only [List.cons_append, textsFrom, ih, List.flatMap_cons, List.length_append, Nat.add_assoc]

theorem textsFrom_of_no_values {parts : List (List Fragment)} (none : ∀ part ∈ parts, values part = [])
    (count : Nat) : textsFrom count parts = parts.map (textFrom 0) := by
  induction parts with
  | nil => rfl
  | cons part rest ih =>
    obtain ⟨here, others⟩ := List.forall_mem_cons.mp none
    simp only [textsFrom, here, textFrom_of_no_values here count, List.length_nil, Nat.add_zero,
      ih others, List.map_cons]

theorem intercalate_textsFrom (separator : String) :
    ∀ (count : Nat) (parts : List (List Fragment)),
      Text.intercalate separator (textsFrom count parts) = textFrom count (joined separator parts)
  | _, [] => rfl
  | _, [_] => rfl
  | count, part :: next :: rest => by
    have others := intercalate_textsFrom separator (count + (values part).length) (next :: rest)
    simp only [textsFrom] at others
    simp only [textsFrom, Text.intercalate, joined, textFrom_append, textFrom_text, others,
      Text.append_assoc]

/-! ## Steps that hand values over -/

section Steps

variable {α β : Type} {given : List FilterValue}

theorem run_pure_iff (a : α) (result : α × List FilterValue) :
    (pure a : Compiling α).run given = .ok result ↔ result = (a, given) :=
  pure_ok_iff _ _

theorem run_throw_iff (e : CompileError) (result : α × List FilterValue) :
    (throw e : Compiling α).run given = .ok result ↔ False :=
  iff_false_intro (throw_ne_ok e result)

theorem run_bind_known_iff {step : Compiling α} {Known : Prop} {value : α}
    {after : List FilterValue}
    (spec : ∀ result, step.run given = .ok result ↔ Known ∧ result = (value, after))
    (next : α → Compiling β) (result : β × List FilterValue) :
    (step >>= next).run given = .ok result ↔ Known ∧ (next value).run after = .ok result := by
  rw [StateT.run_bind, bind_known_iff spec]

theorem run_lift_iff {step : Compiled α} {Known : Prop} {value : α}
    (spec : ∀ a, step = .ok a ↔ Known ∧ a = value) (result : α × List FilterValue) :
    (liftM step : Compiling α).run given = .ok result ↔ Known ∧ result = (value, given) := by
  change (step >>= fun a => pure (a, given)) = .ok result ↔ _
  rw [bind_known_iff spec, pure_ok_iff]

theorem run_bound_iff (value : FilterValue) (result : Text × List FilterValue) :
    (bound value).run given = .ok result ↔
      result = (placeholder (given.length + 1), given ++ [value]) := by
  have counted : (given ++ [value]).length = given.length + 1 := List.length_append
  rw [← counted]
  exact pure_ok_iff _ _

theorem run_bind_bound_iff (value : FilterValue) (next : Text → Compiling β)
    (result : β × List FilterValue) :
    (bound value >>= next).run given = .ok result ↔
      (next (placeholder (given.length + 1))).run (given ++ [value]) = .ok result := by
  have spec (last : Text × List FilterValue) : (bound value).run given = .ok last ↔
      True ∧ last = (placeholder (given.length + 1), given ++ [value]) := by
    rw [run_bound_iff, true_and]
  rw [run_bind_known_iff spec, true_and]

theorem run_mapM_iff {step : α → Compiling Text} {Known : α → Prop} {fragments : α → List Fragment}
    (spec : ∀ a given result, (step a).run given = .ok result ↔
      Known a ∧ result = (textFrom given.length (fragments a), given ++ values (fragments a)))
    (items : List α) (given : List FilterValue) (result : List Text × List FilterValue) :
    (items.mapM step).run given = .ok result ↔ (∀ a ∈ items, Known a) ∧
      result = (textsFrom given.length (items.map fragments),
        given ++ (items.map fragments).flatMap values) := by
  induction items generalizing given result with
  | nil =>
    simp only [List.mapM_nil, run_pure_iff, List.not_mem_nil, false_implies, implies_true, true_and,
      List.map_nil, textsFrom, List.flatMap_nil, List.append_nil]
  | cons a rest ih =>
    rw [List.mapM_cons, run_bind_known_iff (spec a given), StateT.run_bind,
      bind_known_iff (ih (given ++ values (fragments a)))]
    simp only [run_pure_iff, List.forall_mem_cons, List.map_cons, textsFrom, List.flatMap_cons,
      List.length_append, List.append_assoc, and_assoc]

end Steps

/-! ## Names -/

theorem layer_ok_iff (registry : Registry) (name : Text) (found : Layer) :
    layer registry name = .ok found ↔ registry.get? name = some found := by
  unfold layer
  cases registry.get? name <;> simp

theorem run_bind_layer_iff {β : Type} (registry : Registry) (name : Text)
    (next : Layer → Compiling β) (given : List FilterValue) (result : β × List FilterValue) :
    ((liftM (layer registry name) : Compiling Layer) >>= next).run given = .ok result ↔
      ∃ found, registry.get? name = some found ∧ (next found).run given = .ok result := by
  have spec (p : Layer × List FilterValue) :
      (liftM (layer registry name) : Compiling Layer).run given = .ok p ↔
        ∃ found, registry.get? name = some found ∧ p = (found, given) := by
    change (layer registry name >>= fun found => pure (found, given)) = .ok p ↔ _
    simp only [bind_ok_iff, layer_ok_iff, pure_ok_iff]
  simp only [StateT.run_bind, bind_ok_iff, spec]
  constructor
  · rintro ⟨_, ⟨found, known, rfl⟩, success⟩
    exact ⟨found, known, success⟩
  · rintro ⟨found, known, success⟩
    exact ⟨_, ⟨found, known, rfl⟩, success⟩

theorem column_ok_iff (layer : Layer) (field result : Text) :
    column layer field = .ok result ↔
      layer.hasColumn field = true ∧ result = quoteIdentifier field := by
  unfold column
  by_cases known : layer.hasColumn field = true
  · simp only [known, if_true, Except.ok.injEq, true_and]
    exact eq_comm
  · simp [known]

/-! ## Conditions -/

theorem attributeCondition_ok_iff (layer : Layer) (f : AttributeFilter) (given : List FilterValue)
    (result : Text × List FilterValue) :
    (attributeCondition layer f).run given = .ok result ↔ f.Testable layer ∧
      result = (textFrom given.length f.test.fragments, given ++ values f.test.fragments) := by
  obtain ⟨field, op, value⟩ := f
  have split_known : AttributeFilter.Testable layer ⟨field, op, value⟩ ↔
      layer.hasColumn field = true ∧ AttributeFilter.IsSayable ⟨field, op, value⟩ :=
    ⟨fun h => ⟨h.known, h.sayable⟩, fun h => ⟨h.1, h.2⟩⟩
  rw [split_known, attributeCondition, run_bind_known_iff (run_lift_iff (column_ok_iff layer field)),
    and_assoc]
  refine and_congr_right fun _ => ?_
  have bound_spec (value : Scalar) (given : List FilterValue) (result : Text × List FilterValue) :
      (bound (.one value)).run given = .ok result ↔ True ∧
        result = (textFrom given.length [.value (.one value)],
          given ++ values [.value (.one value)]) := by
    rw [run_bound_iff, true_and, textFrom_value, textFrom_nil, Text.append_empty]
    rfl
  cases op with
  | oneOf =>
    rcases value with value | (_ | ⟨first, rest⟩)
    · simp only [run_throw_iff, AttributeFilter.IsSayable, reduceCtorEq, exists_false, false_and]
    · simp only [run_throw_iff, AttributeFilter.IsSayable, FilterValue.many.injEq, reduceCtorEq,
        exists_false, false_and]
    · simp only [run_bind_known_iff (run_mapM_iff bound_spec _ _), run_pure_iff,
        AttributeFilter.IsSayable, AttributeFilter.test, Test.fragments]
      simp [values, values_append, values_joined, intercalate_textsFrom, Text.append_assoc,
        Text.append_empty]
  | other name =>
    simp only [comparison?, run_throw_iff, AttributeFilter.IsSayable, Option.isSome_none,
      Bool.false_eq_true, false_and]
  | _ =>
    simp only [comparison?, run_bind_bound_iff, run_pure_iff, AttributeFilter.IsSayable,
      AttributeFilter.test, Test.fragments]
    simp [values, Text.ofString_append, Text.append_assoc, Text.append_empty]

theorem textFrom_union (count : Nat) (u : Union) :
    textFrom count u.fragments =
      (("SELECT ST_Union_Agg(" ++ u.frame.column ++ ") AS " ++ u.frame.targetName ++ " FROM " : String) :
        Text) ++ quoteIdentifier u.table ++
      if u.tests.isEmpty then Text.ofString "" else
        " WHERE " ++ Text.intercalate " AND " (textsFrom count (u.tests.map Test.fragments)) := by
  unfold Union.fragments conjunction
  by_cases untested : u.tests.isEmpty = true
  · simp only [untested, if_true, textFrom_text, textFrom_name, textFrom_nil, Text.append_assoc]
  · simp only [untested, if_false, Bool.false_eq_true, textFrom_text, textFrom_name,
      intercalate_textsFrom, Text.append_assoc]

theorem values_union (u : Union) :
    values u.fragments = (u.tests.map Test.fragments).flatMap values := by
  unfold Union.fragments conjunction
  by_cases untested : u.tests.isEmpty = true
  · rw [if_pos untested, List.isEmpty_iff.mp untested]
    rfl
  · rw [if_neg untested]
    exact values_joined " AND " _

theorem targetSubquery_ok_iff (registry : Registry) (s : SpatialFilter) (given : List FilterValue)
    (result : Text × List FilterValue) :
    (targetSubquery registry s).run given = .ok result ↔ s.Reachable registry ∧
      result = (textFrom given.length s.union.fragments, given ++ values s.union.fragments) := by
  rw [textFrom_union, values_union]
  unfold targetSubquery SpatialFilter.Reachable
  rw [run_bind_layer_iff, ← exists_and_right]
  refine exists_congr fun target => ?_
  rw [and_assoc]
  refine and_congr_right fun found => ?_
  have tests : s.union.tests.map Test.fragments = s.targets.map fun f => f.test.fragments :=
    List.map_map
  have none : s.union.tests.isEmpty = s.targets.isEmpty := List.isEmpty_map
  rw [registry.name_of_get? found, tests, none]
  by_cases untested : s.targets.isEmpty = true
  · rw [if_pos untested, if_pos untested, run_pure_iff, List.isEmpty_iff.mp untested,
      Text.append_empty]
    simp [SpatialFilter.union, Text.ofString_append, Text.append_assoc]
  · simp only [untested, if_false, Bool.false_eq_true,
      run_bind_known_iff (run_mapM_iff (attributeCondition_ok_iff target) _ _), run_pure_iff]
    simp [SpatialFilter.union, Text.ofString_append, Text.append_assoc]

theorem textFrom_near (count : Nat) (target : Union) (distance : Number) :
    textFrom count (Place.near target distance).fragments =
      ("ST_DWithin(" ++ target.frame.column ++ ", (") ++ textFrom count target.fragments ++ "), " ++
        placeholder (count + (values target.fragments).length + 1) ++ ")" := by
  simp only [Place.fragments, List.cons_append, textFrom_text, textFrom_append, textFrom_value,
    textFrom_nil, Text.ofString_append, Text.append_assoc, Text.append_empty]

theorem values_near (target : Union) (distance : Number) :
    values (Place.near target distance).fragments =
      values target.fragments ++ [.one (.num distance)] := by
  simp only [Place.fragments, List.cons_append, values, values_append]

theorem textFrom_related (count : Nat) (relation : Relation) (target : Union) :
    textFrom count (Place.related relation target).fragments =
      (relation.function ++ "(" ++ target.frame.column ++ ", (") ++ textFrom count target.fragments ++
        "))" := by
  simp only [Place.fragments, List.cons_append, textFrom_text, textFrom_append, textFrom_nil,
    Text.ofString_append, Text.append_assoc, Text.append_empty]

theorem values_related (relation : Relation) (target : Union) :
    values (Place.related relation target).fragments = values target.fragments := by
  simp only [Place.fragments, List.cons_append, values, values_append, List.append_nil]

theorem spatialCondition_ok_iff (registry : Registry) (s : SpatialFilter) (given : List FilterValue)
    (result : Text × List FilterValue) :
    (spatialCondition registry s).run given = .ok result ↔ s.Placeable registry ∧
      result = (textFrom given.length s.place.fragments, given ++ values s.place.fragments) := by
  have split_known : s.Placeable registry ↔ s.isNearest = false ∧
      s.Reachable registry ∧ (s.op = .withinDistance → s.distance.isSome = true) ∧
      (s.op ≠ .withinDistance → (relation? s.op).isSome = true) :=
    ⟨fun h => ⟨h.condition, h.reachable, h.measured, h.related⟩,
      fun h => ⟨h.1, h.2.1, h.2.2.1, h.2.2.2⟩⟩
  rw [split_known, spatialCondition, SpatialFilter.isNearest, beq_eq_false_iff_ne]
  by_cases nearest : s.op = .nearest
  · simp only [nearest, if_true, ne_eq, not_true_eq_false, false_and, iff_false]
    exact throw_ne_ok _ _
  simp only [nearest, if_false, run_bind_known_iff (targetSubquery_ok_iff registry s given), ne_eq,
    not_false_eq_true, true_and, and_assoc]
  refine and_congr_right fun _ => ?_
  by_cases measured : s.op = .withinDistance
  · cases stated : s.distance with
    | none =>
      simp only [measured, if_true, run_throw_iff, true_implies, Option.isSome_none,
        Bool.false_eq_true, false_and]
    | some distance =>
      simp only [measured, if_true, run_bind_bound_iff, run_pure_iff, textFrom_near, values_near,
        SpatialFilter.place_near measured stated, List.length_append, List.append_assoc]
      simp [SpatialFilter.union, measured]
  · cases related : relation? s.op with
    | none =>
      simp only [measured, if_false, run_throw_iff, not_false_eq_true, true_implies,
        Option.isSome_none, Bool.false_eq_true, false_and, and_false]
    | some relation =>
      simp only [measured, if_false, run_pure_iff, related, textFrom_related, values_related,
        SpatialFilter.place_related measured]
      simp [SpatialFilter.union]

def text? (count : Nat) (fragments : List Fragment) : Option Text :=
  if fragments.isEmpty then none else some (textFrom count fragments)

theorem text?_of_ne_nil {fragments : List Fragment} (written : fragments ≠ []) (count : Nat) :
    text? count fragments = some (textFrom count fragments) :=
  if_neg (mt List.isEmpty_iff.mp written)

theorem combine_textsFrom {α : Type} {write : α → List Fragment} (written : ∀ a, write a ≠ [])
    (g : Group α) (count : Nat) :
    combine g.logic (textsFrom count (g.conditions.map write)) = text? count (g.fragments write) := by
  unfold Group.fragments
  rcases g with ⟨logic, _ | ⟨first, _ | ⟨second, rest⟩⟩⟩
  · rfl
  · exact (text?_of_ne_nil (written first) count).symm
  · have several := intercalate_textsFrom (" " ++ logicWord logic ++ " ") count
      ((first :: second :: rest).map write)
    simp only [List.map_cons, textsFrom, Text.ofString_append, Text.append_assoc] at several
    simp only [List.map_cons, textsFrom, combine, several, List.cons_append, Text.append_assoc,
      text?_of_ne_nil (List.cons_ne_nil _ _), textFrom_text, textFrom_append, textFrom_nil,
      Text.append_empty]

theorem values_group {α : Type} (write : α → List Fragment) (g : Group α) :
    values (g.fragments write) = (g.conditions.map write).flatMap values := by
  unfold Group.fragments
  rcases g with ⟨logic, _ | ⟨first, _ | ⟨second, rest⟩⟩⟩
  · rfl
  · simp
  · simp only [List.cons_append, values, values_append, values_joined, List.append_nil]

theorem Test.fragments_ne_nil (t : Test) : t.fragments ≠ [] := by
  cases t <;> exact List.cons_ne_nil _ _

theorem Place.fragments_ne_nil (p : Place) : p.fragments ≠ [] := by
  cases p <;> exact List.cons_ne_nil _ _

theorem allOf_texts (count : Nat) (tests : Group Test) (places : Group Place) :
    allOf ((text? count (tests.fragments Test.fragments)).toList ++
        (text? (count + (values (tests.fragments Test.fragments)).length)
          (places.fragments Place.fragments)).toList) =
      text? count (whereFragments tests places) := by
  unfold whereFragments text?
  rcases tests.fragments Test.fragments with _ | ⟨a, as⟩ <;>
    rcases places.fragments Place.fragments with _ | ⟨b, bs⟩
  · rfl
  · rfl
  · rfl
  · exact congrArg some (intercalate_textsFrom " AND " count [a :: as, b :: bs])

theorem values_where (tests : Group Test) (places : Group Place) :
    values (whereFragments tests places) =
      values (tests.fragments Test.fragments) ++ values (places.fragments Place.fragments) := by
  unfold whereFragments
  rw [values_joined]
  rcases tests.fragments Test.fragments with _ | ⟨a, as⟩ <;>
    rcases places.fragments Place.fragments with _ | ⟨b, bs⟩ <;>
    simp [values]

theorem whereClause_ok_iff (registry : Registry) (layer : Layer) (q : Query)
    (given : List FilterValue) (result : Option Text × List FilterValue) :
    (whereClause registry layer q q.places).run given = .ok result ↔
      ((∀ f ∈ q.attributes, f.Testable layer) ∧ ∀ s ∈ q.places, s.Placeable registry) ∧
        result = (text? given.length (whereFragments q.attributeGroup q.spatialGroup),
          given ++ values (whereFragments q.attributeGroup q.spatialGroup)) := by
  unfold whereClause
  rw [run_bind_known_iff (run_mapM_iff (attributeCondition_ok_iff layer) _ _),
    run_bind_known_iff (run_mapM_iff (spatialCondition_ok_iff registry) _ _), run_pure_iff, and_assoc]
  have tests : (q.attributes.map fun f => f.test.fragments) =
      q.attributeGroup.conditions.map Test.fragments := by
    rw [Query.attributeGroup, List.map_map]
    rfl
  have places : (q.places.map fun s => s.place.fragments) =
      q.spatialGroup.conditions.map Place.fragments := by
    rw [Query.spatialGroup, List.map_map]
    rfl
  have first := combine_textsFrom Test.fragments_ne_nil q.attributeGroup given.length
  have second := combine_textsFrom Place.fragments_ne_nil q.spatialGroup
    (given.length + (values (q.attributeGroup.fragments Test.fragments)).length)
  rw [values_where, ← allOf_texts, ← first, ← second, tests, places, List.length_append,
    ← values_group, ← values_group, List.append_assoc]
  rfl

end SpatialQuery.Sql
