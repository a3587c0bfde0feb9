import SpatialQuery.Proofs.Assoc
import SpatialQuery.Proofs.Success
import SpatialQuery.Query.Replacement
import SpatialQuery.Query.Shape

/-!
# Well-formed queries

What every query has that was accepted: only operators of the language, a list of values exactly where
one of several values is asked for, a distance and a number of features where they are needed.  The
rules for concept fields keep a query well formed.
-/

set_option autoImplicit false

namespace SpatialQuery

structure AttributeFilter.WellFormed (f : AttributeFilter) : Prop where
  op : f.op ∈ AttributeOp.all
  value : Shape.valueFault? f = none

structure SpatialFilter.WellFormed (s : SpatialFilter) : Prop where
  op : s.op ∈ SpatialOp.all
  parameters : Shape.parameterFault? s = none
  targets : ∀ f ∈ s.targets, f.WellFormed

structure Query.WellFormed (q : Query) : Prop where
  attributes : ∀ f ∈ q.attributes, f.WellFormed
  spatials : ∀ s ∈ q.spatials, s.WellFormed

namespace Shape

open Checked

variable {α : Type}

theorem record_ok {kind : Text} {part : List (Text × Json) → Checked α} {j : Json} {a : α}
    (accepted : record kind part j = .ok a) : ∃ members, part members = .ok a := by
  cases j with
  | obj members => exact ⟨members, accepted⟩
  | _ => cases accepted

theorem required_ok {members : List (Text × Json)} {key spelling : Text} {rule : Rule α} {a : α}
    (accepted : required members key spelling rule = .ok a) : ∃ j, rule j = .ok a := by
  unfold required at accepted
  split at accepted
  · rename_i found j _
    exact ⟨j, under_ok_iff.mp accepted⟩
  · cases accepted

theorem optional_ok {members : List (Text × Json)} {key spelling : Text} {rule : Rule α} {a : α}
    (accepted : optional members key spelling rule = .ok (some a)) : ∃ j, rule j = .ok a := by
  unfold optional at accepted
  split at accepted
  · cases accepted
  · cases accepted
  · rename_i found j _ _
    obtain ⟨b, ruled, same⟩ := map_ok_iff.mp accepted
    cases same
    exact ⟨j, under_ok_iff.mp ruled⟩

theorem list_ok {item : Rule α} {j : Json} {results : List α}
    (accepted : list item j = .ok results) : ∀ a ∈ results, ∃ c, item c = .ok a := by
  cases j with
  | arr items => exact checked_of_mem_allFrom accepted
  | _ => cases accepted

theorem choice_eq_ok {all : List α} {nameOf : α → Text} {j : Json} {a : α}
    (accepted : choice all nameOf j = .ok a) : a ∈ all ∧ j = .str (nameOf a) := by
  unfold choice at accepted
  cases j with
  | str t =>
    dsimp only at accepted
    split at accepted
    · rename_i b found
      cases accepted
      have isName : t = nameOf a := by simpa using List.find?_some found
      exact ⟨List.mem_of_find?_eq_some found, isName ▸ rfl⟩
    · cases accepted
  | _ => cases accepted

/-! ## Accepted queries -/

theorem attributeFilter_ok {j : Json} {f : AttributeFilter}
    (accepted : attributeFilter j = .ok f) : f.WellFormed := by
  obtain ⟨members, parts⟩ := record_ok accepted
  obtain ⟨built, sound⟩ := ensure_ok_iff.mp parts
  obtain ⟨_, value, beforeValue, _, rfl⟩ := ap_ok_iff.mp built
  obtain ⟨_, op, beforeOp, chosen, rfl⟩ := ap_ok_iff.mp beforeValue
  obtain ⟨field, _, rfl⟩ := map_ok_iff.mp beforeOp
  obtain ⟨k, chosen⟩ := required_ok chosen
  exact ⟨(choice_eq_ok chosen).1, sound⟩

theorem filters_ok {members : List (Text × Json)} {key spelling : Text}
    {filters : Option (List AttributeFilter)}
    (accepted : optional members key spelling (list attributeFilter) = .ok filters) :
    ∀ f ∈ filters.getD [], f.WellFormed := by
  cases filters with
  | none => simp
  | some filters =>
    obtain ⟨j, listed⟩ := optional_ok accepted
    intro f member
    obtain ⟨k, ruled⟩ := list_ok listed f member
    exact attributeFilter_ok ruled

theorem spatialFilter_ok {j : Json} {s : SpatialFilter} (accepted : spatialFilter j = .ok s) :
    s.WellFormed := by
  obtain ⟨members, parts⟩ := record_ok accepted
  obtain ⟨built, sound⟩ := ensure_ok_iff.mp parts
  obtain ⟨_, limit, beforeLimit, _, rfl⟩ := ap_ok_iff.mp built
  obtain ⟨_, distance, beforeDistance, _, rfl⟩ := ap_ok_iff.mp beforeLimit
  obtain ⟨_, filters, beforeFilters, filtered, rfl⟩ := ap_ok_iff.mp beforeDistance
  obtain ⟨_, target, beforeTarget, _, rfl⟩ := ap_ok_iff.mp beforeFilters
  obtain ⟨op, chosen, rfl⟩ := map_ok_iff.mp beforeTarget
  obtain ⟨k, chosen⟩ := required_ok chosen
  exact ⟨(choice_eq_ok chosen).1, sound, filters_ok filtered⟩

theorem query_ok {raw : Json} {q : Query} (accepted : query raw = .ok q) : q.WellFormed := by
  obtain ⟨members, built⟩ := record_ok accepted
  obtain ⟨_, order, beforeOrder, _, rfl⟩ := ap_ok_iff.mp built
  obtain ⟨_, limit, beforeLimit, _, rfl⟩ := ap_ok_iff.mp beforeOrder
  obtain ⟨_, times, beforeTimes, _, rfl⟩ := ap_ok_iff.mp beforeLimit
  obtain ⟨_, aggregate, beforeAggregate, _, rfl⟩ := ap_ok_iff.mp beforeTimes
  obtain ⟨_, spatialLogic, beforeSpatialLogic, _, rfl⟩ := ap_ok_iff.mp beforeAggregate
  obtain ⟨_, spatials, beforeSpatials, placed, rfl⟩ := ap_ok_iff.mp beforeSpatialLogic
  obtain ⟨_, attributeLogic, beforeLogic, _, rfl⟩ := ap_ok_iff.mp beforeSpatials
  obtain ⟨_, attributes, beforeAttributes, filtered, rfl⟩ := ap_ok_iff.mp beforeLogic
  obtain ⟨_, fields, beforeFields, _, rfl⟩ := ap_ok_iff.mp beforeAttributes
  obtain ⟨selected, _, rfl⟩ := map_ok_iff.mp beforeFields
  refine ⟨filters_ok filtered, ?_⟩
  cases spatials with
  | none => simp [Query.spatials]
  | some spatials =>
    obtain ⟨j, listed⟩ := optional_ok placed
    intro s member
    obtain ⟨k, ruled⟩ := list_ok listed s member
    exact spatialFilter_ok ruled

end Shape

theorem Query.wellFormed_of_ofJson {raw : Json} {q : Query} (accepted : Query.ofJson raw = .ok q) :
    q.WellFormed := by
  unfold Query.ofJson at accepted
  cases checked : Shape.query raw with
  | ok checkedQuery =>
    rw [checked] at accepted
    cases accepted
    exact Shape.query_ok checked
  | error violations =>
    rw [checked] at accepted
    cases accepted

/-! ## Replacing concept fields -/

namespace FilterRules

def Preserving (rules : FilterRules) : Prop :=
  ∀ entry ∈ rules, ∀ f g note, entry.2 f = .ok (g, note) → f.WellFormed → g.WellFormed

theorem codeStart_wellFormed {layer field start : Text} {f g : AttributeFilter}
    {note : Option Text} (replaced : codeStart layer field start f = .ok (g, note)) :
    g.WellFormed := by
  unfold codeStart at replaced
  split at replaced
  · cases replaced
    exact ⟨(by decide : AttributeOp.like ∈ AttributeOp.all), rfl⟩
  · cases replaced
  · cases replaced

theorem renamed_wellFormed {field message : Text} {f g : AttributeFilter} {note : Option Text}
    (replaced : renamed field message f = .ok (g, note)) (wellFormed : f.WellFormed) :
    g.WellFormed := by
  cases replaced
  exact ⟨wellFormed.op, wellFormed.value⟩

theorem builtIn_preserving : builtIn.Preserving := by
  intro entry member f g note replaced wellFormed
  simp only [builtIn, List.mem_cons, List.not_mem_nil, or_false] at member
  rcases member with rfl | rfl | rfl
  · exact codeStart_wellFormed replaced
  · exact codeStart_wellFormed replaced
  · exact renamed_wellFormed replaced wellFormed

theorem replacement_cases (rules : FilterRules) (layer : Text) (f : AttributeFilter) :
    rules.replacement layer f = f ∨
      ∃ entry ∈ rules, ∃ note, entry.2 f = .ok (rules.replacement layer f, note) := by
  unfold replacement
  split
  · rename_i g note applied
    unfold apply at applied
    split at applied
    · cases applied
      exact Or.inl rfl
    · rename_i rule found
      exact Or.inr ⟨_, Assoc.mem_of_get?_eq_some found, note, applied⟩
  · exact Or.inl rfl

theorem replacement_wellFormed {rules : FilterRules} (preserving : rules.Preserving) (layer : Text)
    {f : AttributeFilter} (wellFormed : f.WellFormed) :
    (rules.replacement layer f).WellFormed := by
  rcases rules.replacement_cases layer f with same | ⟨entry, member, note, replaced⟩
  · rw [same]
    exact wellFormed
  · exact preserving entry member f _ note replaced wellFormed

end FilterRules

namespace Query

theorem eq_normalized {rules : FilterRules} {q normal : Query} {notes : List Text}
    (normalized : q.normalize rules = .ok (normal, notes)) : normal = q.normalized rules := by
  unfold normalize at normalized
  split at normalized
  · cases normalized
    rfl
  · cases normalized

theorem getD_map {α : Type} (f : α → α) (items : Option (List α)) :
    (items.map fun list => list.map f).getD [] = (items.getD []).map f := by
  cases items <;> rfl

theorem attributes_normalized (rules : FilterRules) (q : Query) :
    (q.normalized rules).attributes = q.attributes.map (rules.replacement q.selectLayer) :=
  getD_map _ q.attributeFilters

theorem spatials_normalized (rules : FilterRules) (q : Query) :
    (q.normalized rules).spatials = q.spatials.map (SpatialFilter.normalized rules) :=
  getD_map _ q.spatialFilters

theorem targets_normalized (rules : FilterRules) (s : SpatialFilter) :
    (s.normalized rules).targets = s.targets.map (rules.replacement s.targetLayer) :=
  getD_map _ s.targetFilter

theorem normalized_wellFormed {rules : FilterRules} (preserving : rules.Preserving) {q : Query}
    (wellFormed : q.WellFormed) : (q.normalized rules).WellFormed := by
  refine ⟨?_, ?_⟩
  · intro f member
    change f ∈ (q.attributeFilters.map fun filters =>
      filters.map (rules.replacement q.selectLayer)).getD [] at member
    rw [getD_map] at member
    obtain ⟨g, inAttributes, rfl⟩ := List.mem_map.mp member
    exact FilterRules.replacement_wellFormed preserving _ (wellFormed.attributes g inAttributes)
  · intro s member
    change s ∈ (q.spatialFilters.map fun filters =>
      filters.map (SpatialFilter.normalized rules)).getD [] at member
    rw [getD_map] at member
    obtain ⟨t, inSpatials, rfl⟩ := List.mem_map.mp member
    have sound := wellFormed.spatials t inSpatials
    refine ⟨sound.op, sound.parameters, ?_⟩
    intro f replaced
    change f ∈ (t.targetFilter.map fun filters =>
      filters.map (rules.replacement t.targetLayer)).getD [] at replaced
    rw [getD_map] at replaced
    obtain ⟨g, inTargets, rfl⟩ := List.mem_map.mp replaced
    exact FilterRules.replacement_wellFormed preserving _ (sound.targets g inTargets)

end Query

end SpatialQuery
