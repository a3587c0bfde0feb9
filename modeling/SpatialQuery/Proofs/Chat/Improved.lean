import SpatialQuery.Proofs.Chat.Classified

/-!
# Assessing a message with more layers

What is missing can only become less when layers are added, and what is matched can only become more.
So no message is answered less far with more layers loaded, whatever the concepts are; not even a
concept that needs no layer makes an exception.
-/

set_option autoImplicit false

namespace SpatialQuery.Chat

/-- How far a message can be answered; the farther, the greater. -/
def Status.rank : Status → Nat
  | .unsupported => 0
  | .partialMatch => 1
  | .exactMatch => 2

theorem Status.rank_le_iff {before after : Status} : before.rank ≤ after.rank ↔
    (after = .unsupported → before = .unsupported) ∧ (before = .exactMatch → after = .exactMatch) := by
  cases before <;> cases after <;> decide

/-- The assessment is at least as good as another one of the same message. -/
structure Assessment.IsNoWorse (after before : Assessment) : Prop where
  status : before.status.rank ≤ after.status.rank
  requestedConcepts : after.requestedConcepts = before.requestedConcepts
  /-- Each concept counts for itself, even where two have one name. -/
  missingConcepts : after.missingConcepts.Sublist before.missingConcepts
  missingLayers : after.missingLayers ⊆ before.missingLayers
  matchedLayers : before.matchedLayers ⊆ after.matchedLayers
  ambiguous : after.ambiguous = true → before.ambiguous = true

section

variable {concepts : List Concept} {isAsked : Concept → Bool} {ambiguous : Bool}
  {loaded more : List Text}

/-! ## The status without any assumption on the concepts -/

theorem unsupported_iff : (assessWhere isAsked ambiguous concepts loaded).status = .unsupported ↔
    missingOf isAsked concepts loaded ≠ [] ∧
      (assessWhere isAsked ambiguous concepts loaded).matchedLayers = [] := by
  rw [status_eq]
  cases missingOf isAsked concepts loaded <;>
    cases (assessWhere isAsked ambiguous concepts loaded).matchedLayers <;>
    cases ambiguous <;> simp

theorem exactMatch_iff : (assessWhere isAsked ambiguous concepts loaded).status = .exactMatch ↔
    missingOf isAsked concepts loaded = [] ∧ ambiguous = false := by
  rw [status_eq]
  cases missingOf isAsked concepts loaded <;>
    cases (assessWhere isAsked ambiguous concepts loaded).matchedLayers <;>
    cases ambiguous <;> simp

/-! ## More layers -/

theorem Concept.IsMissing.of_more (within : loaded ⊆ more) {concept : Concept}
    (missing : concept.IsMissing more) : concept.IsMissing loaded := by
  obtain ⟨layer, required, absent⟩ := missing
  exact ⟨layer, required, fun present => absent (within present)⟩

theorem missingOf_sublist (within : loaded ⊆ more) :
    (missingOf isAsked concepts more).Sublist (missingOf isAsked concepts loaded) := by
  refine List.monotone_filter_right _ fun concept missing => ?_
  rw [decide_eq_true_eq] at missing ⊢
  exact missing.of_more within

variable {ambiguousAfter : Bool}

theorem matchedLayers_subset (within : loaded ⊆ more) :
    (assessWhere isAsked ambiguous concepts loaded).matchedLayers ⊆
      (assessWhere isAsked ambiguousAfter concepts more).matchedLayers := by
  intro layer matched
  obtain ⟨concept, member, asked, isMet, required⟩ := mem_matchedLayers.mp matched
  exact mem_matchedLayers.mpr
    ⟨concept, member, asked, fun missing => isMet (missing.of_more within), required⟩

theorem missingLayers_subset (within : loaded ⊆ more) :
    (assessWhere isAsked ambiguousAfter concepts more).missingLayers ⊆
      (assessWhere isAsked ambiguous concepts loaded).missingLayers := by
  intro layer missing
  obtain ⟨concept, member, asked, required, absent⟩ := mem_missingLayers.mp missing
  exact mem_missingLayers.mpr
    ⟨concept, member, asked, required, fun present => absent (within present)⟩

theorem rank_mono (within : loaded ⊆ more) (clearer : ambiguousAfter = true → ambiguous = true) :
    (assessWhere isAsked ambiguous concepts loaded).status.rank ≤
      (assessWhere isAsked ambiguousAfter concepts more).status.rank := by
  have fewer : (missingOf isAsked concepts more).Sublist (missingOf isAsked concepts loaded) :=
    missingOf_sublist within
  refine Status.rank_le_iff.mpr ⟨fun unsupported => ?_, fun isExact => ?_⟩
  · obtain ⟨someMissing, noneMatched⟩ := unsupported_iff.mp unsupported
    refine unsupported_iff.mpr ⟨fun noneMissing => ?_, List.subset_nil.mp ?_⟩
    · rw [noneMissing] at fewer
      exact someMissing (List.sublist_nil.mp fewer)
    · rw [← noneMatched]
      exact matchedLayers_subset within
  · obtain ⟨noneMissing, clear⟩ := exactMatch_iff.mp isExact
    rw [noneMissing] at fewer
    refine exactMatch_iff.mpr ⟨List.sublist_nil.mp fewer, Bool.eq_false_iff.mpr fun ambiguous => ?_⟩
    exact Bool.false_ne_true (clear.symm.trans (clearer ambiguous))

theorem isNoWorse_assessWhere (within : loaded ⊆ more)
    (clearer : ambiguousAfter = true → ambiguous = true) :
    (assessWhere isAsked ambiguousAfter concepts more).IsNoWorse
      (assessWhere isAsked ambiguous concepts loaded) where
  status := rank_mono within clearer
  requestedConcepts := rfl
  missingConcepts := by
    simp only [assessWhere, filter_not_isMet]
    exact (missingOf_sublist within).map _
  missingLayers := missingLayers_subset within
  matchedLayers := matchedLayers_subset within
  ambiguous := clearer

theorem isAmbiguous_of_more (within : loaded ⊆ more) {message : Text}
    (ambiguous : isAmbiguous message more = true) : isAmbiguous message loaded = true := by
  obtain ⟨area, noBoundary⟩ := isAmbiguous_iff.mp ambiguous
  exact isAmbiguous_iff.mpr
    ⟨area, fun layer boundary present => noBoundary layer boundary (within present)⟩

end

/-- With more layers loaded no assessment gets worse, whatever the concepts and in whichever way the
message shows which of them it asks for. -/
theorem more_layers_are_no_worse (concepts : List Concept) (message : Text) {loaded more : List Text}
    (within : loaded ⊆ more) :
    (assess concepts message more).IsNoWorse (assess concepts message loaded) ∧
    ∀ isAsked : Concept → Bool,
      (assessWhere isAsked (isAmbiguous message more) concepts more).IsNoWorse
        (assessWhere isAsked (isAmbiguous message loaded) concepts loaded) := by
  have all : ∀ isAsked : Concept → Bool,
      (assessWhere isAsked (isAmbiguous message more) concepts more).IsNoWorse
        (assessWhere isAsked (isAmbiguous message loaded) concepts loaded) := fun _ =>
    isNoWorse_assessWhere within (isAmbiguous_of_more within)
  exact ⟨all _, all⟩

/-- A message that nothing could be told about is answered in part, and then in full. -/
theorem more_layers_are_no_worse_sample :
    let assessed := assess Concept.builtIn mixedMessage
    (assessed []).status = .unsupported ∧
    (assessed ["wildfire_risk"]).status = .partialMatch ∧
    (assessed ["wildfire_risk", "eviction_filings", "neighborhoods"]).status = .exactMatch ∧
    (assessed ["wildfire_risk"]).IsNoWorse (assessed []) ∧
    (assessed ["wildfire_risk", "eviction_filings", "neighborhoods"]).IsNoWorse
      (assessed ["wildfire_risk"]) := by
  refine ⟨by decide +kernel, by decide +kernel, by decide +kernel, ?_, ?_⟩
  · exact (more_layers_are_no_worse Concept.builtIn mixedMessage (List.nil_subset _)).1
  · exact (more_layers_are_no_worse Concept.builtIn mixedMessage (by decide)).1

end SpatialQuery.Chat
