import Mathlib.Data.List.Lex
import SpatialQuery.Proofs.Text.Units
import SpatialQuery.Query.Basic

/-!
# The order of texts

Texts come one before the other as their rows of code points do in a dictionary.  Names in ascending
order come each before all later ones, so that none of them is there twice.
-/

set_option autoImplicit false

namespace SpatialQuery

namespace Text

def codes (t : Text) : List Nat := t.marks.map Mark.code

/-- The text comes before the other one in a dictionary, and differs from it. -/
def Before (a b : Text) : Prop := List.Lex (· < ·) a.codes b.codes

theorem codes_injective {a b : Text} (same : a.codes = b.codes) : a = b := by
  obtain ⟨as⟩ := a
  obtain ⟨bs⟩ := b
  exact congrArg Text.mk (List.map_injective_iff.mpr (fun _ _ => Mark.code_injective) same)

theorem Before.trans {a b c : Text} (first : a.Before b) (second : b.Before c) : a.Before c :=
  IsTrans.trans (r := fun x y : List Nat => x < y) a.codes b.codes c.codes first second

theorem before_or_eq_or_before (a b : Text) : a.Before b ∨ a = b ∨ b.Before a :=
  (trichotomous_of (List.Lex (· < ·)) a.codes b.codes).imp_right (Or.imp_left codes_injective)

theorem marksPrecede_iff {as bs : List Mark} : marksPrecede as bs = true ↔
    as = bs ∨ List.Lex (· < ·) (as.map Mark.code) (bs.map Mark.code) := by
  induction as generalizing bs with
  | nil =>
    cases bs with
    | nil => exact iff_of_true rfl (.inl rfl)
    | cons b bs => exact iff_of_true rfl (.inr .nil)
  | cons a as ih =>
    cases bs with
    | nil =>
      refine iff_of_false Bool.false_ne_true ?_
      rintro (same | less)
      · cases same
      · cases less
    | cons b bs =>
      simp only [marksPrecede, Bool.or_eq_true, Bool.and_eq_true, decide_eq_true_eq, beq_iff_eq, ih,
        List.map_cons, List.cons.injEq]
      constructor
      · rintro (less | ⟨rfl, rfl | later⟩)
        · exact .inr (.rel less)
        · exact .inl ⟨rfl, rfl⟩
        · exact .inr (.cons later)
      · rintro (⟨rfl, rfl⟩ | lex)
        · exact .inr ⟨rfl, .inl rfl⟩
        · rcases List.cons_lex_cons_iff.mp lex with less | ⟨same, later⟩
          · exact .inl less
          · exact .inr ⟨Mark.code_injective same, .inr later⟩

theorem precedes_iff {a b : Text} : a.precedes b = true ↔ a = b ∨ a.Before b := by
  obtain ⟨as⟩ := a
  obtain ⟨bs⟩ := b
  rw [precedes, marksPrecede_iff, Text.mk.injEq]
  exact Iff.rfl

end Text

theorem pairwise_eraseDups {α : Type} [BEq α] [LawfulBEq α] {r : α → α → Prop} :
    ∀ {items : List α}, items.Pairwise r → items.eraseDups.Pairwise fun a b => r a b ∧ a ≠ b
  | [], _ => by
    rw [List.eraseDups_nil]
    exact .nil
  | a :: rest, ordered => by
    obtain ⟨first, others⟩ := List.pairwise_cons.mp ordered
    rw [List.eraseDups_cons]
    refine List.pairwise_cons.mpr ⟨fun b member => ?_, pairwise_eraseDups (others.filter _)⟩
    rw [List.mem_eraseDups, List.mem_filter] at member
    refine ⟨first b member.1, ?_⟩
    rintro rfl
    simp at member
termination_by items => items.length
decreasing_by exact Nat.lt_succ_of_le (List.length_filter_le _ _)

theorem Query.ascending_pairwise (names : List Text) : (ascending names).Pairwise Text.Before := by
  have sorted : (names.mergeSort Text.precedes).Pairwise fun a b => a.precedes b = true := by
    apply List.pairwise_mergeSort
    · intro a b c
      simp only [Text.precedes_iff]
      rintro (rfl | first) (rfl | second)
      · exact .inl rfl
      · exact .inr second
      · exact .inr first
      · exact .inr (first.trans second)
    · intro a b
      simp only [Bool.or_eq_true, Text.precedes_iff]
      rcases Text.before_or_eq_or_before a b with before | rfl | after
      · exact .inl (.inr before)
      · exact .inl (.inl rfl)
      · exact .inr (.inr after)
  exact (pairwise_eraseDups sorted).imp fun both => (Text.precedes_iff.mp both.1).resolve_left both.2

end SpatialQuery
