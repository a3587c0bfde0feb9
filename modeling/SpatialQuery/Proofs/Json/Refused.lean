import SpatialQuery.Proofs.Json.Printed
import SpatialQuery.Proofs.Json.Unambiguous

/-!
# What no JSON starts with

A mark that starts no value spoils every text that it comes to stand in.  Where it stands is known from the
marks before it, as there is only one way to read them.
-/

set_option autoImplicit false

namespace SpatialQuery.Json

/-- No such part starts with the marks. -/
def NoStart {α : Type} (part : α → Part) (marks : List Mark) : Prop :=
  ∀ ⦃x : α⦄ ⦃spelled r s : List Mark⦄, Spells (part x) spelled → (part x).Ends r →
    spelled ++ r ≠ marks ++ s

def Part.ofMember (m : Text × Json) : Part := .member m.1 m.2

variable {c : Char} {marks : List Mark}

theorem NoStart.append {α : Type} {part : α → Part} (none : NoStart part marks)
    (others : List Mark) : NoStart part (marks ++ others) := by
  intro x spelled r s spells ends
  rw [List.append_assoc]
  exact none spells ends

theorem NoStart.not_denotes {t : Text} (none : NoStart Part.element t.marks) (j : Json) :
    ¬ Denotes t j :=
  fun denotes => none denotes ends_nil rfl

theorem Spells.kind_of_start {j : Json} {spelled r rest : List Mark}
    (spells : Spells (.value j) spelled) (same : spelled ++ r = .char c :: rest) :
    kind? c = some j.kind := by
  obtain ⟨d, others, rfl, isKind⟩ := spells.kind
  rw [← Mark.char.inj (List.cons.inj same).1]
  exact isKind

theorem noStart_value (unknown : kind? c = none) : NoStart Part.value (.char c :: marks) := by
  intro j spelled r s spells _ same
  have isKind := spells.kind_of_start same
  rw [unknown] at isKind
  cases isKind

theorem noStart_element (notSpace : isSpace (.char c) = false)
    (none : NoStart Part.value (.char c :: marks)) : NoStart Part.element (.char c :: marks) := by
  intro j spelled r s spells ends same
  cases spells with
  | element isBlankBefore inner isBlankAfter =>
    simp only [List.append_assoc] at same
    exact none inner (stopsNumber_blank isBlankAfter ends.1) (blank_cancel isBlankBefore isBlank_nil
      (inner.stopsBlank _) (stopsBlank_cons notSpace _) same)

/-! ## Arrays -/

theorem noStart_items (none : NoStart Part.element marks) : NoStart Part.items marks := by
  intro items spelled r s spells ends same
  cases spells with
  | lastItem item =>
    obtain ⟨after, rfl⟩ := ends
    exact none item (ends_cons rfl rfl _) same
  | nextItem item _ =>
    rw [List.append_assoc] at same
    exact none item (ends_cons rfl rfl _) same

theorem noStart_array (notSpace : isSpace (.char c) = false) (notClosing : c ≠ ']')
    (none : NoStart Part.items (.char c :: marks)) :
    NoStart Part.value (.char '[' :: .char c :: marks) := by
  intro j spelled r s spells _ same
  have isArray := spells.kind_of_start same
  cases spells with
  | emptyArray isBlank =>
    have inner := (List.cons.inj same).2
    simp only [List.append_eq, List.append_assoc] at inner
    have closing := blank_cancel isBlank isBlank_nil (stopsBlank_cons rfl _)
      (stopsBlank_cons notSpace _) inner
    exact notClosing (Mark.char.inj (List.cons.inj closing).1).symm
  | array inner => exact none inner ⟨_, rfl⟩ (by simpa using same)
  | _ => cases isArray

/-! ## Objects -/

theorem noStart_member {key : Text} {quoted : List Mark} (quotation : Quotation quoted key)
    (none : NoStart Part.element marks) : NoStart Part.ofMember (quoted ++ .char ':' :: marks) := by
  rintro ⟨other, j⟩ spelled r s spells ends same
  cases spells with
  | member isBlankBefore otherQuotation isBlankAfter inner =>
    simp only [List.append_assoc, List.cons_append] at same
    have member := blank_cancel isBlankBefore isBlank_nil (otherQuotation.stopsBlank _)
      (quotation.stopsBlank _) same
    obtain ⟨rfl, colon⟩ := quotation_cancel otherQuotation quotation member
    exact none inner ends (blank_cancel_cons isBlankAfter isBlank_nil rfl colon)

theorem noStart_members {key : Text} {j : Json} {first : List Mark}
    (member : Spells (.member key j) first) (none : NoStart Part.ofMember marks) :
    NoStart Part.members (first ++ .char ',' :: marks) := by
  intro members spelled r s spells ends same
  obtain ⟨after, rfl⟩ := ends
  rw [List.append_assoc] at same
  cases spells with
  | lastMember only =>
    obtain ⟨-, rest⟩ := only.known member trivial (ends_cons rfl rfl _) (ends_cons rfl rfl _) same
    exact absurd (List.cons.inj rest).1 (by decide)
  | nextMember next others =>
    rw [List.append_assoc] at same
    obtain ⟨-, rest⟩ := next.known member trivial (ends_cons rfl rfl _) (ends_cons rfl rfl _) same
    have later := (List.cons.inj rest).2
    cases others with
    | @lastMember key j _ second =>
      exact none (x := (key, j)) second (ends_cons rfl rfl _) later
    | @nextMember key j _ _ _ second _ =>
      simp only [List.append_eq, List.append_assoc] at later
      exact none (x := (key, j)) second (ends_cons rfl rfl _) later

theorem noStart_object (none : NoStart Part.members (.char '"' :: marks)) :
    NoStart Part.value (.char '\x7b' :: .char '"' :: marks) := by
  intro j spelled r s spells _ same
  have isObject := spells.kind_of_start same
  cases spells with
  | emptyObject isBlank =>
    have inner := (List.cons.inj same).2
    simp only [List.append_eq, List.append_assoc] at inner
    have closing := blank_cancel isBlank isBlank_nil (stopsBlank_cons rfl _)
      (stopsBlank_cons rfl _) inner
    exact absurd (List.cons.inj closing).1 (by decide)
  | object inner => exact none inner ⟨_, rfl⟩ (by simpa using same)
  | _ => cases isObject

end SpatialQuery.Json
