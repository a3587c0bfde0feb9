import SpatialQuery.Proofs.Json.Printed
import SpatialQuery.Proofs.Json.Reading

/-!
# What is read is settled

A text of characters alone is read as a value whose texts are whole and whose objects have distinct
keys, so that nothing of it is lost when it is written again.
-/

set_option autoImplicit false

namespace SpatialQuery.Json

open Text (Piece joined)

def AreCharacters (marks : List Mark) : Prop := ∀ m ∈ marks, ∃ c, m = .char c

theorem AreCharacters.of_subset {marks rest : List Mark} (characters : AreCharacters marks)
    (subset : rest ⊆ marks) : AreCharacters rest := fun m member => characters m (subset member)

theorem AreCharacters.tail {m : Mark} {marks : List Mark} (characters : AreCharacters (m :: marks)) :
    AreCharacters marks := characters.of_subset (List.subset_cons_self m marks)

theorem AreCharacters.skipSpace {marks : List Mark} (characters : AreCharacters marks) :
    AreCharacters (skipSpace marks) :=
  characters.of_subset (List.dropWhile_sublist _).subset

theorem AreCharacters.drop {marks : List Mark} (characters : AreCharacters marks) (n : Nat) :
    AreCharacters (marks.drop n) :=
  characters.of_subset (List.drop_subset n marks)

def ArePlain (pieces : List Piece) : Prop := ∀ m, Piece.mark m ∈ pieces → ∃ c, m = .char c

theorem prependPiece_ok {p : Piece} {reading : Reading (List Piece)} {pieces : List Piece}
    {rest : List Mark} (read : prependPiece p reading = .ok (pieces, rest)) :
    ∃ others, reading = .ok (others, rest) ∧ pieces = p :: others := by
  unfold prependPiece at read
  split at read
  · cases read
    exact ⟨_, rfl, rfl⟩
  · cases read

theorem arePlain_cons {p : Piece} {pieces : List Piece} (first : ∀ m, p = .mark m → ∃ c, m = .char c)
    (others : ArePlain pieces) : ArePlain (p :: pieces) := by
  intro m member
  rcases List.mem_cons.mp member with same | later
  · exact first m same.symm
  · exact others m later

theorem readPieces_plain (opening : List Mark) {marks : List Mark} (characters : AreCharacters marks)
    {pieces : List Piece} {rest : List Mark} (read : readPieces opening marks = .ok (pieces, rest)) :
    ArePlain pieces ∧ AreCharacters rest := by
  fun_induction readPieces opening marks generalizing pieces rest with
  | case1 | case3 | case5 | case6 | case8 | case9 => cases read
  | case2 =>
    cases read
    exact ⟨nofun, characters.tail⟩
  | case4 _ _ _ _ _ _ _ _ ih =>
    obtain ⟨others, later, rfl⟩ := prependPiece_ok read
    have subset := characters.tail.tail.tail.tail.tail.tail
    obtain ⟨plain, left⟩ := ih subset later
    exact ⟨arePlain_cons nofun plain, left⟩
  | case7 _ _ _ _ c _ ih =>
    obtain ⟨others, later, rfl⟩ := prependPiece_ok read
    obtain ⟨plain, left⟩ := ih characters.tail.tail later
    exact ⟨arePlain_cons (fun m same => ⟨c, (Piece.mark.inj same).symm⟩) plain, left⟩
  | case10 m _ _ _ _ _ _ _ ih =>
    obtain ⟨others, later, rfl⟩ := prependPiece_ok read
    obtain ⟨plain, left⟩ := ih characters.tail later
    refine ⟨arePlain_cons (fun other same => ?_) plain, left⟩
    rw [← Piece.mark.inj same]
    exact characters m (by simp)

theorem readText_whole {marks : List Mark} (characters : AreCharacters marks) {t : Text}
    {rest : List Mark} (read : readText marks = .ok (t, rest)) : t.IsWhole ∧ AreCharacters rest := by
  unfold readText at read
  split at read
  · rename_i pieces after found
    cases read
    obtain ⟨plain, left⟩ := readPieces_plain marks
      (characters.of_subset (List.tail_sublist marks).subset) found
    exact ⟨Text.marksAreWhole_joined plain, left⟩
  · cases read

theorem isSettled_words : ∀ word ∈ words, word.2.IsSettled := by
  simp only [words, List.forall_mem_cons]
  exact ⟨trivial, trivial, trivial, trivial, trivial, trivial, nofun⟩

theorem readWord?_settled {marks : List Mark} (characters : AreCharacters marks) {j : Json}
    {rest : List Mark} (read : readWord? marks = some (j, rest)) : j.IsSettled ∧ AreCharacters rest := by
  obtain ⟨word, member, found⟩ := List.exists_of_findSome?_eq_some read
  dsimp only at found
  split at found
  · cases found
    exact ⟨isSettled_words _ member, characters.drop _⟩
  · cases found

theorem readNumber_rest {marks : List Mark} (characters : AreCharacters marks) {n : Number}
    {rest : List Mark} (read : readNumber marks = .ok (n, rest)) : AreCharacters rest := by
  unfold readNumber at read
  dsimp only at read
  split at read
  · cases read
  · cases read
  · cases read
    exact characters.drop _

theorem isSettled_settle {members : List (Text × Json)} (settled : MembersAreSettled members) :
    (obj (Assoc.settle members)).IsSettled := by
  refine ⟨Assoc.nodup_settle members, membersAreSettled_iff.mpr fun m member => ?_⟩
  exact membersAreSettled_iff.mp settled m (Assoc.mem_of_mem_settle member)

theorem areSettled_iff {items : List Json} : AreSettled items ↔ ∀ j ∈ items, j.IsSettled := by
  induction items with
  | nil => simp [AreSettled]
  | cons j rest ih => simp [AreSettled, ih]

theorem keeps_settled : Keeps IsSettled Text.IsWhole AreCharacters where
  tail := AreCharacters.tail
  skipSpace := AreCharacters.skipSpace
  text := fun characters read => readText_whole characters read
  number := fun characters read => ⟨trivial, readNumber_rest characters read⟩
  word := fun characters read => readWord?_settled characters read
  str := id
  arr := areSettled_iff.mpr
  obj := fun held => isSettled_settle (membersAreSettled_iff.mpr held)

theorem isSettled_of_read {deepest : Nat} {t : Text} (ordinary : t.toString?.isSome = true) {j : Json}
    (found : read deepest t = .ok j) : j.IsSettled :=
  keeps_settled.of_read (Text.characters_of_ordinary ordinary) found

/-! ## Without the numbers that are not finite -/

theorem keys_membersFiniteOrNull (members : List (Text × Json)) :
    (membersFiniteOrNull members).map (·.1) = members.map (·.1) := by
  induction members with
  | nil => rfl
  | cons m rest ih => rw [membersFiniteOrNull, List.map_cons, List.map_cons, ih]

mutual

theorem isSettled_finiteOrNull : ∀ {j : Json}, j.IsSettled → (finiteOrNull j).IsSettled
  | .null, _ | .bool _, _ => trivial
  | .str _, whole => whole
  | .num n, _ => by
    rw [finiteOrNull]
    split <;> trivial
  | .arr items, settled => by
    rw [finiteOrNull]
    exact areSettled_finiteOrNull settled
  | .obj members, settled => by
    rw [finiteOrNull]
    refine ⟨?_, membersAreSettled_finiteOrNull settled.2⟩
    rw [keys_membersFiniteOrNull]
    exact settled.1

theorem areSettled_finiteOrNull : ∀ {items : List Json}, AreSettled items →
    AreSettled (allFiniteOrNull items)
  | [], _ => trivial
  | _ :: _, settled => ⟨isSettled_finiteOrNull settled.1, areSettled_finiteOrNull settled.2⟩

theorem membersAreSettled_finiteOrNull : ∀ {members : List (Text × Json)},
    MembersAreSettled members → MembersAreSettled (membersFiniteOrNull members)
  | [], _ => trivial
  | (_, _) :: _, settled =>
    ⟨settled.1, isSettled_finiteOrNull settled.2.1, membersAreSettled_finiteOrNull settled.2.2⟩

end

end SpatialQuery.Json
