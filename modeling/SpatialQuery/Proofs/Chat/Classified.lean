import SpatialQuery.Chat.Assessment
import SpatialQuery.Proofs.Layer.Built
import SpatialQuery.Proofs.Text.Order

/-!
# What an assessment tells

A concept that is asked for is missing if a layer that it needs is not loaded.  From the concepts that are
missing and those that are not, an assessment tells how far a message can be answered, which layers there
are for it and which are wanting, and what may be asked instead.
-/

set_option autoImplicit false

namespace SpatialQuery

/-! ## Texts in order of occurrence -/

/-- Texts that differ, in the order in which they occur first. -/
def InOrderOf (occurring texts : List Text) : Prop :=
  texts.Pairwise fun a b => occurring.idxOf a < occurring.idxOf b

/-- Of all texts that occur these are the first, up to the limit. -/
def AreFirst (limit : Nat) (occurring texts : List Text) : Prop :=
  ∃ rest, InOrderOf occurring (texts ++ rest) ∧ (∀ t, t ∈ texts ++ rest ↔ t ∈ occurring) ∧
    texts.length ≤ limit ∧ (rest ≠ [] → texts.length = limit)

theorem AreFirst.nodup {limit : Nat} {occurring texts : List Text}
    (first : AreFirst limit occurring texts) : texts.Nodup := by
  obtain ⟨rest, order, -⟩ := first
  refine ((List.pairwise_append.mp order).1).imp ?_
  rintro a _ less rfl
  exact Nat.lt_irrefl _ less

/-- Leaving a text out of a row does not change which of two others comes first. -/
theorem idxOf_lt_of_filter {left a b : Text} (notA : a ≠ left) (notB : b ≠ left) {items : List Text}
    (less : (items.filter fun t => !t == left).idxOf a < (items.filter fun t => !t == left).idxOf b) :
    items.idxOf a < items.idxOf b := by
  induction items with
  | nil => exact absurd less (Nat.lt_irrefl _)
  | cons t rest ih =>
    by_cases isLeft : t = left
    · subst isLeft
      rw [List.filter_cons_of_neg (by simp)] at less
      rw [List.idxOf_cons_ne _ notA.symm, List.idxOf_cons_ne _ notB.symm]
      exact Nat.succ_lt_succ (ih less)
    · rw [List.filter_cons_of_pos (by simpa using isLeft)] at less
      by_cases isB : t = b
      · subst isB
        rw [List.idxOf_cons_self] at less
        exact absurd less (Nat.not_lt_zero _)
      · rw [List.idxOf_cons_ne _ isB] at less ⊢
        by_cases isA : t = a
        · subst isA
          rw [List.idxOf_cons_self]
          exact Nat.succ_pos _
        · rw [List.idxOf_cons_ne _ isA] at less ⊢
          exact Nat.succ_lt_succ (ih (Nat.lt_of_succ_lt_succ less))

theorem inOrderOf_eraseDups : ∀ items : List Text, InOrderOf items items.eraseDups
  | [] => by
    rw [List.eraseDups_nil]
    exact .nil
  | t :: rest => by
    have others : ∀ other ∈ (rest.filter fun o => !o == t).eraseDups, other ≠ t := by
      intro other member
      have kept := (List.mem_filter.mp (List.mem_eraseDups.mp member)).2
      simpa using kept
    rw [List.eraseDups_cons]
    refine List.pairwise_cons.mpr ⟨?_, ?_⟩
    · intro other member
      rw [List.idxOf_cons_self, List.idxOf_cons_ne _ (others other member).symm]
      exact Nat.succ_pos _
    -- The rest of the row is the one without its first text, which is the shorter one of the recursion.
    · refine (inOrderOf_eraseDups (rest.filter fun o => !o == t)).imp_of_mem ?_
      intro a b isA isB less
      rw [List.idxOf_cons_ne _ (others a isA).symm, List.idxOf_cons_ne _ (others b isB).symm]
      exact Nat.succ_lt_succ (idxOf_lt_of_filter (others a isA) (others b isB) less)
termination_by items => items.length
decreasing_by exact Nat.lt_succ_of_le (List.length_filter_le _ _)

theorem areFirst_take_eraseDups (limit : Nat) (occurring : List Text) :
    AreFirst limit occurring (occurring.eraseDups.take limit) := by
  refine ⟨occurring.eraseDups.drop limit, ?_, ?_, List.length_take_le _ _, ?_⟩
  · rw [List.take_append_drop]
    exact inOrderOf_eraseDups occurring
  · intro t
    rw [List.take_append_drop, List.mem_eraseDups]
  · intro more
    rw [List.length_take, Nat.min_eq_left]
    rw [ne_eq, List.drop_eq_nil_iff] at more
    exact Nat.le_of_not_le more

namespace Chat

def Concept.IsMissing (concept : Concept) (loaded : List Text) : Prop :=
  ∃ layer ∈ concept.requiredLayers, layer ∉ loaded

instance (concept : Concept) (loaded : List Text) : Decidable (concept.IsMissing loaded) :=
  inferInstanceAs (Decidable (∃ layer ∈ concept.requiredLayers, layer ∉ loaded))

def missingOf (isAsked : Concept → Bool) (concepts : List Concept) (loaded : List Text) : List Concept :=
  (concepts.filter isAsked).filter fun concept => decide (concept.IsMissing loaded)

def SomeMissing (isAsked : Concept → Bool) (concepts : List Concept) (loaded : List Text) : Prop :=
  ∃ concept ∈ concepts, isAsked concept = true ∧ concept.IsMissing loaded

def AllMissing (isAsked : Concept → Bool) (concepts : List Concept) (loaded : List Text) : Prop :=
  ∀ concept ∈ concepts, isAsked concept = true → concept.IsMissing loaded

/-- What the assessment has to tell, by the concepts that are asked for and the layers that are loaded.  Each
concept counts for itself, even where two have one name. -/
structure Assessment.Classifies (concepts : List Concept) (isAsked : Concept → Bool)
    (ambiguous : Prop) (loaded : List Text) (a : Assessment) : Prop where
  requestedConcepts : a.requestedConcepts = (concepts.filter isAsked).map (·.name)
  missingConcepts : a.missingConcepts = (missingOf isAsked concepts loaded).map (·.name)
  matchedAscending : a.matchedLayers.Pairwise Text.Before
  missingAscending : a.missingLayers.Pairwise Text.Before
  matchedLayers : ∀ layer, layer ∈ a.matchedLayers ↔ ∃ concept ∈ concepts,
    isAsked concept = true ∧ ¬ concept.IsMissing loaded ∧ layer ∈ concept.requiredLayers
  missingLayers : ∀ layer, layer ∈ a.missingLayers ↔ ∃ concept ∈ concepts,
    isAsked concept = true ∧ layer ∈ concept.requiredLayers ∧ layer ∉ loaded
  disjoint : a.matchedLayers.Disjoint a.missingLayers
  isAmbiguous : a.ambiguous = true ↔ ambiguous
  unsupported : a.status = .unsupported ↔
    (∃ concept ∈ concepts, isAsked concept = true) ∧ AllMissing isAsked concepts loaded
  partialMatch : a.status = .partialMatch ↔
    a.status ≠ .unsupported ∧ (SomeMissing isAsked concepts loaded ∨ ambiguous)
  exactMatch : a.status = .exactMatch ↔ ¬ SomeMissing isAsked concepts loaded ∧ ¬ ambiguous
  /-- Those of the missing concepts, and one more where the area is ambiguous. -/
  suggestions : AreFirst 4
    ((missingOf isAsked concepts loaded).map (·.suggestion) ++
      if a.ambiguous then [(disambiguationSuggestion : Text)] else []) a.suggestions
  suggestedOnce : a.suggestions.Nodup

section

variable {concepts : List Concept} {isAsked : Concept → Bool} {ambiguous : Bool} {loaded : List Text}

theorem Concept.mem_missing {concept : Concept} {layer : Text} :
    layer ∈ concept.missing loaded ↔ layer ∈ concept.requiredLayers ∧ layer ∉ loaded := by
  simp [missing]

theorem Concept.isMet_iff {concept : Concept} :
    concept.isMet loaded = true ↔ ¬ concept.IsMissing loaded := by
  rw [isMet, List.isEmpty_iff, List.eq_nil_iff_forall_not_mem]
  simp only [mem_missing, IsMissing, not_exists]

theorem filter_not_isMet : ((concepts.filter isAsked).filter fun concept => !concept.isMet loaded) =
    missingOf isAsked concepts loaded := by
  refine List.filter_congr fun concept _ => ?_
  rw [Bool.eq_iff_iff, Bool.not_eq_true', decide_eq_true_eq, ← Bool.not_eq_true, Concept.isMet_iff, not_not]

theorem mem_missingOf {concept : Concept} : concept ∈ missingOf isAsked concepts loaded ↔
    concept ∈ concepts ∧ isAsked concept = true ∧ concept.IsMissing loaded := by
  rw [missingOf, List.mem_filter, List.mem_filter, decide_eq_true_eq, and_assoc]

theorem mem_matchedLayers {layer : Text} :
    layer ∈ (assessWhere isAsked ambiguous concepts loaded).matchedLayers ↔ ∃ concept ∈ concepts,
      isAsked concept = true ∧ ¬ concept.IsMissing loaded ∧ layer ∈ concept.requiredLayers := by
  simp only [assessWhere, Query.mem_ascending, List.mem_flatMap, List.mem_filter, Concept.isMet_iff,
    and_assoc]

theorem mem_missingLayers {layer : Text} :
    layer ∈ (assessWhere isAsked ambiguous concepts loaded).missingLayers ↔ ∃ concept ∈ concepts,
      isAsked concept = true ∧ layer ∈ concept.requiredLayers ∧ layer ∉ loaded := by
  simp only [assessWhere, filter_not_isMet, Query.mem_ascending, List.mem_flatMap, mem_missingOf,
    Concept.mem_missing, and_assoc]
  refine exists_congr fun concept => and_congr_right fun _ => and_congr_right fun _ => ?_
  exact ⟨fun both => both.2, fun lacking => ⟨⟨layer, lacking⟩, lacking⟩⟩

/-- As each concept needs a layer, there is a layer for one of those that are asked for unless all of them
are missing. -/
theorem matchedLayers_eq_nil_iff (needy : ∀ concept ∈ concepts, concept.requiredLayers ≠ []) :
    (assessWhere isAsked ambiguous concepts loaded).matchedLayers = [] ↔
      AllMissing isAsked concepts loaded := by
  rw [List.eq_nil_iff_forall_not_mem]
  simp only [mem_matchedLayers, not_exists, not_and, AllMissing]
  constructor
  · intro none concept member asked
    by_contra isMet
    obtain ⟨layer, required⟩ := List.exists_mem_of_ne_nil _ (needy concept member)
    exact none layer concept member asked isMet required
  · intro all layer concept member asked isMet
    exact absurd (all concept member asked) isMet

theorem missingOf_eq_nil_iff :
    missingOf isAsked concepts loaded = [] ↔ ¬ SomeMissing isAsked concepts loaded := by
  simp only [List.eq_nil_iff_forall_not_mem, mem_missingOf, SomeMissing, not_exists]

theorem status_eq : (assessWhere isAsked ambiguous concepts loaded).status =
    if !(missingOf isAsked concepts loaded).isEmpty &&
        (assessWhere isAsked ambiguous concepts loaded).matchedLayers.isEmpty then .unsupported
    else if !(missingOf isAsked concepts loaded).isEmpty || ambiguous then .partialMatch
    else .exactMatch := by
  simp only [assessWhere, filter_not_isMet]

theorem status_cases (needy : ∀ concept ∈ concepts, concept.requiredLayers ≠ []) (isAsked : Concept → Bool)
    (ambiguous : Bool) (loaded : List Text) :
    let status := (assessWhere isAsked ambiguous concepts loaded).status
    (SomeMissing isAsked concepts loaded ∧ AllMissing isAsked concepts loaded ∧ status = .unsupported) ∨
      (¬ (SomeMissing isAsked concepts loaded ∧ AllMissing isAsked concepts loaded) ∧
        (SomeMissing isAsked concepts loaded ∨ ambiguous = true) ∧ status = .partialMatch) ∨
      (¬ SomeMissing isAsked concepts loaded ∧ ambiguous = false ∧ status = .exactMatch) := by
  intro status
  have none : missingOf isAsked concepts loaded = [] ↔ ¬ SomeMissing isAsked concepts loaded :=
    missingOf_eq_nil_iff
  have all : (assessWhere isAsked ambiguous concepts loaded).matchedLayers = [] ↔
      AllMissing isAsked concepts loaded := matchedLayers_eq_nil_iff needy
  rw [← List.isEmpty_iff] at none all
  simp only [status, status_eq]
  cases noneMissing : (missingOf isAsked concepts loaded).isEmpty with
  | true =>
    have noSome := none.mp noneMissing
    cases ambiguous with
    | true => exact .inr (.inl ⟨fun both => noSome both.1, .inr rfl, rfl⟩)
    | false => exact .inr (.inr ⟨noSome, rfl, rfl⟩)
  | false =>
    have isSome : SomeMissing isAsked concepts loaded := by
      by_contra noSome
      rw [none.mpr noSome] at noneMissing
      cases noneMissing
    cases noneMet : (assessWhere isAsked ambiguous concepts loaded).matchedLayers.isEmpty with
    | true => exact .inl ⟨isSome, all.mp noneMet, rfl⟩
    | false =>
      have notAll : ¬ AllMissing isAsked concepts loaded := by
        intro allMissing
        rw [all.mpr allMissing] at noneMet
        cases noneMet
      exact .inr (.inl ⟨fun both => notAll both.2, .inl isSome, rfl⟩)

theorem classifies_assessWhere (needy : ∀ concept ∈ concepts, concept.requiredLayers ≠ [])
    (isAsked : Concept → Bool) (ambiguous : Bool) (loaded : List Text) :
    (assessWhere isAsked ambiguous concepts loaded).Classifies concepts isAsked (ambiguous = true)
      loaded := by
  have suggested : AreFirst 4
      ((missingOf isAsked concepts loaded).map (·.suggestion) ++
        if ambiguous then [(disambiguationSuggestion : Text)] else [])
      (assessWhere isAsked ambiguous concepts loaded).suggestions := by
    simp only [assessWhere, filter_not_isMet]
    exact areFirst_take_eraseDups 4 _
  have cases := status_cases needy isAsked ambiguous loaded
  dsimp only at cases
  constructor
  case requestedConcepts => rfl
  case missingConcepts => simp only [assessWhere, filter_not_isMet]
  case matchedAscending => exact Query.ascending_pairwise _
  case missingAscending => exact Query.ascending_pairwise _
  case matchedLayers => exact fun layer => mem_matchedLayers
  case missingLayers => exact fun layer => mem_missingLayers
  case disjoint =>
    intro layer matched missing
    obtain ⟨concept, _, _, isMet, required⟩ := mem_matchedLayers.mp matched
    obtain ⟨_, _, _, _, absent⟩ := mem_missingLayers.mp missing
    exact isMet ⟨layer, required, absent⟩
  case isAmbiguous => exact Iff.rfl
  case unsupported =>
    rcases cases with ⟨⟨concept, member, asked, missing⟩, all, told⟩ | ⟨notAll, _, told⟩ | ⟨none, _, told⟩
    · exact iff_of_true told ⟨⟨concept, member, asked⟩, all⟩
    · refine iff_of_false (by rw [told]; exact nofun) ?_
      rintro ⟨⟨concept, member, asked⟩, all⟩
      exact notAll ⟨⟨concept, member, asked, all concept member asked⟩, all⟩
    · refine iff_of_false (by rw [told]; exact nofun) ?_
      rintro ⟨⟨concept, member, asked⟩, all⟩
      exact none ⟨concept, member, asked, all concept member asked⟩
  case partialMatch =>
    rcases cases with ⟨_, _, told⟩ | ⟨_, either, told⟩ | ⟨none, clear, told⟩
    · rw [told]
      exact iff_of_false nofun fun both => both.1 rfl
    · rw [told]
      exact iff_of_true rfl ⟨nofun, either⟩
    · rw [told]
      refine iff_of_false nofun ?_
      rintro ⟨_, some | isAmbiguous⟩
      · exact none some
      · exact Bool.false_ne_true (clear.symm.trans isAmbiguous)
  case exactMatch =>
    rcases cases with ⟨some, _, told⟩ | ⟨_, either, told⟩ | ⟨none, clear, told⟩
    · rw [told]
      exact iff_of_false nofun fun both => both.1 some
    · rw [told]
      refine iff_of_false nofun ?_
      rintro ⟨none, unambiguous⟩
      exact either.elim none unambiguous
    · rw [told]
      exact iff_of_true rfl ⟨none, Bool.eq_false_iff.mp clear⟩
  case suggestions => exact suggested
  case suggestedOnce => exact suggested.nodup

theorem isAmbiguous_iff {message : Text} {loaded : List Text} : isAmbiguous message loaded = true ↔
    (∃ area ∈ ambiguousAreas, area.occursIn message = true) ∧ ∀ layer ∈ boundaryLayers, layer ∉ loaded := by
  simp [isAmbiguous]

/-- Of concepts that need a layer each, as the built-in ones do, an assessment tells rightly how far a message
can be answered, in whichever way the message shows which concepts it asks for. -/
theorem assessment_classifies {concepts : List Concept}
    (needy : ∀ concept ∈ concepts, concept.requiredLayers ≠ []) (message : Text) (loaded : List Text) :
    (assess concepts message loaded).Classifies concepts (fun concept => concept.isAskedIn message)
      ((∃ area ∈ ambiguousAreas, area.occursIn message = true) ∧
        ∀ layer ∈ boundaryLayers, layer ∉ loaded) loaded ∧
    ∀ (isAsked : Concept → Bool) (ambiguous : Bool),
      (assessWhere isAsked ambiguous concepts loaded).Classifies concepts isAsked (ambiguous = true)
        loaded := by
  refine ⟨?_, fun isAsked ambiguous => classifies_assessWhere needy isAsked ambiguous loaded⟩
  rw [← isAmbiguous_iff]
  exact classifies_assessWhere needy _ (isAmbiguous message loaded) loaded

def mixedMessage : Text := "Evictions and wildfire risk in midtown"

/-- Of two concepts one can be answered, and the area is told by no boundary. -/
theorem assessment_classifies_sample :
    (∀ concept ∈ Concept.builtIn, concept.requiredLayers ≠ []) ∧
    let a := assess Concept.builtIn mixedMessage ["wildfire_risk"]
    a.status = .partialMatch ∧ a.requestedConcepts = ["evictions", "wildfire_risk"] ∧
      ("eviction_filings" : Text) ∈ a.missingLayers ∧ a.suggestions.Nodup := by
  have needy : ∀ concept ∈ Concept.builtIn, concept.requiredLayers ≠ [] := by decide
  obtain ⟨classifies, _⟩ := assessment_classifies needy mixedMessage ["wildfire_risk"]
  refine ⟨needy, ?_, ?_, ?_, classifies.suggestedOnce⟩
  · refine classifies.partialMatch.mpr ⟨?_, .inr ⟨?_, ?_⟩⟩
    · decide +kernel
    · decide +kernel
    · decide
  · rw [classifies.requestedConcepts]
    decide +kernel
  · rw [classifies.missingLayers]
    decide +kernel

end

end Chat

end SpatialQuery
