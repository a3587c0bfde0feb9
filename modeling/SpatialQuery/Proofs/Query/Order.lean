import Mathlib.Data.List.Pairwise
import SpatialQuery.Proofs.Decimal.Distinct
import SpatialQuery.Proofs.Query.Language

/-!
# The order of faults

The order in which the faults of a query are told is strict: no two parts of a form share a step, and
different indexes are written differently.  So none is told twice.
-/

set_option autoImplicit false

namespace SpatialQuery

namespace Form

/-- Of two faults no more than one is told before the other. -/
def Strict (before : List Text → List Text → Prop) : Prop := ∀ p q, before p q → ¬ before q p

theorem indexStep_injective {i k : Nat} (same : indexStep i = indexStep k) : i = k := by
  have marks : (Decimal.digitChars i).map Mark.char = (Decimal.digitChars k).map Mark.char := by
    simpa [indexStep, Text.ofString, Text.ofChars, Decimal.digitChars] using same
  exact Decimal.digitChars_injective (List.map_injective_iff.mpr (fun _ _ => Mark.char.inj) marks)

theorem byIndex_cases {before : List Text → List Text → Prop} {p q : List Text}
    (order : ByIndex before p q) : ∃ i k p' q', p = indexStep i :: p' ∧ q = indexStep k :: q' ∧
      (i < k ∨ i = k ∧ before p' q') := by
  cases order with
  | apart earlier => exact ⟨_, _, _, _, rfl, rfl, .inl earlier⟩
  | within inner => exact ⟨_, _, _, _, rfl, rfl, .inr ⟨rfl, inner⟩⟩

theorem byIndex_strict {before : List Text → List Text → Prop} (strict : Strict before) :
    Strict (ByIndex before) := by
  intro p q first second
  obtain ⟨i, k, p', q', rfl, rfl, order⟩ := byIndex_cases first
  obtain ⟨k', i', q'', p'', same, same', order'⟩ := byIndex_cases second
  obtain ⟨step, rfl⟩ := List.cons.inj same
  obtain ⟨step', rfl⟩ := List.cons.inj same'
  cases indexStep_injective step
  cases indexStep_injective step'
  rcases order with earlier | ⟨rfl, inner⟩
  · rcases order' with later | ⟨rfl, _⟩
    · exact absurd earlier later.asymm
    · exact absurd earlier (lt_irrefl _)
  · rcases order' with later | ⟨_, outer⟩
    · exact absurd later (lt_irrefl _)
    · exact strict _ _ inner outer

def Branch.Apart (f g : Branch) : Prop := ∀ step ∈ f.steps, step ∉ g.steps

instance : Std.Symm Branch.Apart :=
  ⟨fun _ _ apart step isG isF => apart step isF isG⟩

section Branches

variable {branches : List Branch}

theorem mem_of_later {c f g : Branch} {rest : List Branch} (order : [f, g].Sublist (c :: rest)) :
    g ∈ rest := by
  cases order with
  | cons _ order => exact order.subset (by simp)
  | cons_cons _ order => exact List.singleton_sublist.mp order

/-- Where no two branches share a step, the first of two steps does not come second as well. -/
theorem not_both_orders (disjoint : branches.Pairwise Branch.Apart)
    {f g f' g' : Branch} (order : [f, g].Sublist branches) (order' : [f', g'].Sublist branches)
    {a b : Text} (first : a ∈ f.steps) (second : b ∈ g.steps) (first' : b ∈ f'.steps)
    (second' : a ∈ g'.steps) : False := by
  induction branches with
  | nil => cases order
  | cons c rest ih =>
    obtain ⟨apart, others⟩ := List.pairwise_cons.mp disjoint
    have later := mem_of_later order
    have later' := mem_of_later order'
    cases order with
    | cons_cons _ order => exact apart g' later' a first second'
    | cons _ order =>
      cases order' with
      | cons_cons _ order' => exact apart g later b first' second
      | cons _ order' => exact ih others order order'

theorem inOrder_strict (each : ∀ b ∈ branches, Strict b.before)
    (disjoint : branches.Pairwise Branch.Apart) : Strict (InOrder branches) := by
  have apart {f g : Branch} (order : [f, g].Sublist branches) : f.Apart g := by
    simpa using disjoint.sublist order
  intro p q first second
  cases first with
  | apart order isFirst isSecond =>
    cases second with
    | apart order' isFirst' isSecond' =>
      exact not_both_orders disjoint order order' isFirst isSecond isFirst' isSecond'
    | within => exact apart order _ isFirst isSecond
  | @within f a p q member step inner =>
    cases second with
    | apart order isFirst isSecond => exact apart order _ isFirst isSecond
    | @within g _ _ _ member' step' outer =>
      have same : f = g := by
        by_contra other
        exact disjoint.forall member member' other a step step'
      cases same
      exact each f member _ _ inner outer

end Branches

theorem flat_strict (holds : Json → Prop) (message : Json → Text → Prop) :
    Strict (flat holds message).before :=
  fun _ _ contrary => contrary.elim

theorem record_strict {kind : Text} {fields : List Field} {clash : List (Text × Json) → Text → Prop}
    (each : ∀ f ∈ fields, Strict f.form.before)
    (disjoint : fields.Pairwise fun f g => ∀ step ∈ [f.key, f.spelling], step ∉ [g.key, g.spelling]) :
    Strict (record kind fields clash).before := by
  refine inOrder_strict ?_ (List.pairwise_map.mpr disjoint)
  rintro _ member
  obtain ⟨f, isField, rfl⟩ := List.mem_map.mp member
  exact each f isField

theorem union_strict {kinds : List (Text × Form)} (each : ∀ kind ∈ kinds, Strict kind.2.before)
    (disjoint : (kinds.map Prod.fst).Nodup) : Strict (union kinds).before := by
  refine inOrder_strict ?_ ?_
  · rintro _ member
    obtain ⟨kind, isKind, rfl⟩ := List.mem_map.mp member
    exact each kind isKind
  · refine List.pairwise_map.mpr ((List.pairwise_map.mp disjoint).imp ?_)
    intro f g other step isFirst isSecond
    exact other ((List.mem_singleton.mp isFirst).symm.trans (List.mem_singleton.mp isSecond))

theorem value_strict : Strict value.before := by
  have scalars : ∀ kind ∈ scalarKinds, Strict kind.2.before := by
    simp [scalarKinds, bool, integer, number, string, plain, flat_strict]
  apply union_strict
  · intro kind member
    rcases List.mem_append.mp member with isScalar | isList
    · exact scalars kind isScalar
    · cases List.mem_singleton.mp isList
      exact byIndex_strict (union_strict scalars (by decide))
  · decide

theorem attributeFilter_strict : Strict attributeFilter.before := by
  apply record_strict
  · simp only [List.mem_cons, List.not_mem_nil, or_false, forall_eq_or_imp, forall_eq]
    exact ⟨flat_strict _ _, flat_strict _ _, value_strict⟩
  · decide

theorem distance_strict : Strict distance.before := by
  apply union_strict
  · simp [integer, number, plain, flat_strict]
  · decide

theorem spatialFilter_strict : Strict spatialFilter.before := by
  apply record_strict
  · simp only [List.mem_cons, List.not_mem_nil, or_false, forall_eq_or_imp, forall_eq]
    exact ⟨flat_strict _ _, flat_strict _ _, byIndex_strict attributeFilter_strict, distance_strict,
      flat_strict _ _⟩
  · decide

theorem aggregate_strict : Strict aggregate.before := by
  have metrics : Strict metric.before := by
    apply record_strict
    · simp [name, choice, flat_strict]
    · decide
  apply record_strict
  · simp only [List.mem_cons, List.not_mem_nil, or_false, forall_eq_or_imp, forall_eq]
    exact ⟨byIndex_strict (flat_strict _ _), byIndex_strict metrics⟩
  · decide

theorem timeRef_strict : Strict timeRef.before := by
  apply union_strict
  · simp only [List.mem_cons, List.not_mem_nil, or_false, forall_eq_or_imp, forall_eq]
    constructor
    · exact record_strict (by simp [year, flat_strict]) (by decide)
    · exact record_strict (by simp [date, flat_strict]) (by decide)
  · decide

theorem temporal_strict : Strict temporal.before := by
  apply record_strict
  · simp [name, flat_strict, timeRef_strict]
  · decide

theorem orderBy_strict : Strict orderBy.before := by
  apply record_strict
  · simp [name, choice, flat_strict]
  · decide

theorem query_strict : Strict query.before := by
  apply record_strict
  · simp only [List.mem_cons, List.not_mem_nil, or_false, forall_eq_or_imp, forall_eq]
    exact ⟨flat_strict _ _, byIndex_strict (flat_strict _ _), byIndex_strict attributeFilter_strict,
      flat_strict _ _, byIndex_strict spatialFilter_strict, flat_strict _ _, aggregate_strict,
      temporal_strict, flat_strict _ _, orderBy_strict⟩
  · decide

end Form

end SpatialQuery
