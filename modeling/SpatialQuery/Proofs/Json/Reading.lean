import SpatialQuery.Json.Reader
import SpatialQuery.Proofs.Json.Every

/-!
# What every reading keeps

A property of values that texts, numbers and words have when they are read, and that lists and settled
objects take over from their parts, is a property of whatever is read.  It may depend on a property of the
marks, which then has to hold of the marks that are left.
-/

set_option autoImplicit false

namespace SpatialQuery.Json

/-- Each part of the reader gives a value, or a key, with its property and leaves marks with theirs. -/
structure Keeps (value : Json → Prop) (key : Text → Prop) (left : List Mark → Prop) : Prop where
  tail : ∀ {m marks}, left (m :: marks) → left marks
  skipSpace : ∀ {marks}, left marks → left (skipSpace marks)
  text : ∀ {marks t rest}, left marks → readText marks = .ok (t, rest) → key t ∧ left rest
  number : ∀ {marks n rest}, left marks → readNumber marks = .ok (n, rest) →
    value (.num n) ∧ left rest
  word : ∀ {marks j rest}, left marks → readWord? marks = some (j, rest) → value j ∧ left rest
  str : ∀ {t}, key t → value (.str t)
  arr : ∀ {items}, (∀ j ∈ items, value j) → value (.arr items)
  obj : ∀ {members}, (∀ m ∈ members, key m.1 ∧ value m.2) → value (.obj (Assoc.settle members))

namespace Keeps

variable {value : Json → Prop} {key : Text → Prop} {left : List Mark → Prop}

/-- Calls with that much fuel give what they should. -/
structure Within (value : Json → Prop) (key : Text → Prop) (left : List Mark → Prop) (fuel : Nat) :
    Prop where
  ofValue : ∀ {depth marks j rest}, left marks → readValue fuel depth marks = .ok (j, rest) →
    value j ∧ left rest
  ofItems : ∀ {depth marks items rest}, left marks → readItems fuel depth marks = .ok (items, rest) →
    (∀ j ∈ items, value j) ∧ left rest
  ofMembers : ∀ {depth marks members rest}, left marks →
    readMembers fuel depth marks = .ok (members, rest) →
      (∀ m ∈ members, key m.1 ∧ value m.2) ∧ left rest

section

variable (keeps : Keeps value key left) {fuel depth : Nat} (ih : Within value key left fuel)
  {marks : List Mark} (given : left marks) {rest : List Mark}

include keeps ih given

theorem value_step {j : Json} (read : readValue (fuel + 1) depth marks = .ok (j, rest)) :
    value j ∧ left rest := by
  unfold readValue at read
  split at read
  · split at read
    · rename_i t after found
      cases read
      obtain ⟨held, remaining⟩ := keeps.text given found
      exact ⟨keeps.str held, remaining⟩
    · cases read
  · split at read
    · cases read
    · have spaces := keeps.skipSpace (keeps.tail given)
      split at read
      · rename_i after spaced
        cases read
        rw [spaced] at spaces
        have empty : value (.obj (Assoc.settle [])) := keeps.obj (List.forall_mem_nil _)
        exact ⟨empty, keeps.tail spaces⟩
      · split at read
        · rename_i members after found
          cases read
          obtain ⟨held, remaining⟩ := ih.ofMembers spaces found
          exact ⟨keeps.obj held, remaining⟩
        · cases read
  · split at read
    · cases read
    · have spaces := keeps.skipSpace (keeps.tail given)
      split at read
      · rename_i after spaced
        cases read
        rw [spaced] at spaces
        exact ⟨keeps.arr (List.forall_mem_nil _), keeps.tail spaces⟩
      · split at read
        · rename_i items after found
          cases read
          obtain ⟨held, remaining⟩ := ih.ofItems spaces found
          exact ⟨keeps.arr held, remaining⟩
        · cases read
  · split at read
    · rename_i word after found
      cases read
      exact keeps.word given found
    · split at read
      · rename_i n after found
        cases read
        exact keeps.number given found
      · cases read

theorem items_step {items : List Json}
    (read : readItems (fuel + 1) depth marks = .ok (items, rest)) :
    (∀ j ∈ items, value j) ∧ left rest := by
  unfold readItems at read
  split at read
  · cases read
  · rename_i item after found
    obtain ⟨held, remaining⟩ := ih.ofValue given found
    have spaces := keeps.skipSpace remaining
    split at read
    · rename_i later spaced
      cases read
      rw [spaced] at spaces
      exact ⟨List.forall_mem_singleton.mpr held, keeps.tail spaces⟩
    · rename_i later spaced
      rw [spaced] at spaces
      split at read
      · rename_i others last more
        cases read
        obtain ⟨heldOthers, final⟩ := ih.ofItems (keeps.skipSpace (keeps.tail spaces)) more
        exact ⟨List.forall_mem_cons.mpr ⟨held, heldOthers⟩, final⟩
      · cases read
    · cases read

theorem members_step {members : List (Text × Json)}
    (read : readMembers (fuel + 1) depth marks = .ok (members, rest)) :
    (∀ m ∈ members, key m.1 ∧ value m.2) ∧ left rest := by
  unfold readMembers at read
  split at read
  · split at read
    · cases read
    · rename_i name afterKey foundKey
      obtain ⟨heldKey, remainingKey⟩ := keeps.text given foundKey
      have colonSpaces := keeps.skipSpace remainingKey
      split at read
      · rename_i beforeValue colon
        rw [colon] at colonSpaces
        split at read
        · cases read
        · rename_i stored after found
          obtain ⟨held, remaining⟩ := ih.ofValue (keeps.skipSpace (keeps.tail colonSpaces)) found
          have spaces := keeps.skipSpace remaining
          split at read
          · rename_i later spaced
            cases read
            rw [spaced] at spaces
            exact ⟨List.forall_mem_singleton.mpr ⟨heldKey, held⟩, keeps.tail spaces⟩
          · rename_i later spaced
            rw [spaced] at spaces
            split at read
            · rename_i others last more
              cases read
              obtain ⟨heldOthers, final⟩ := ih.ofMembers (keeps.skipSpace (keeps.tail spaces)) more
              exact ⟨List.forall_mem_cons.mpr ⟨⟨heldKey, held⟩, heldOthers⟩, final⟩
            · cases read
          · cases read
      · cases read
  · cases read

end

theorem within (keeps : Keeps value key left) (fuel : Nat) : Within value key left fuel := by
  induction fuel with
  | zero =>
    refine ⟨?_, ?_, ?_⟩
    · intro depth marks j rest _ read
      cases read
    · intro depth marks items rest _ read
      cases read
    · intro depth marks members rest _ read
      cases read
  | succ fuel ih =>
    refine ⟨?_, ?_, ?_⟩
    · intro depth marks j rest given read
      exact keeps.value_step ih given read
    · intro depth marks items rest given read
      exact keeps.items_step ih given read
    · intro depth marks members rest given read
      exact keeps.members_step ih given read

theorem of_read (keeps : Keeps value key left) {deepest : Nat} {t : Text} (given : left t.marks)
    {j : Json} (found : read deepest t = .ok j) : value j := by
  have taken : readMarks deepest t.marks = .ok j := by
    unfold read at found
    split at found
    · cases found
    · exact found
  unfold readMarks at taken
  split at taken
  · rename_i read all
    cases taken
    unfold readAll at all
    split at all
    · cases all
    · rename_i other after first
      split at all
      · cases all
        exact ((keeps.within _).ofValue (keeps.skipSpace given) first).1
      · cases all
  · cases taken
  · cases taken

end Keeps

end SpatialQuery.Json
