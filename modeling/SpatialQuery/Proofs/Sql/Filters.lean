import SpatialQuery.Proofs.Sql.Atoms
import SpatialQuery.Proofs.Sql.Clauses
import SpatialQuery.Proofs.Sql.Compiled

/-!
# Filters keep their meaning

The condition that is read in the text of a compiled query joins the filters of the query as the query
joins them, whatever each filter holds of.  So neither a parenthesis nor a placeholder is in a wrong
place.
-/

set_option autoImplicit false

namespace SpatialQuery.Sql

/-! ## Atoms of either kind -/

theorem ReadsAtom.test {written : List Token} {t : TestAtom} (reads : ReadsAtom readTest written t) :
    ReadsAtom readAtom written (.test t) := by
  intro rest
  obtain ⟨unopened, read⟩ := reads rest
  refine ⟨unopened, ?_⟩
  rcases tokens : written ++ rest with _ | ⟨word | column, more⟩
  · rw [tokens] at read
    cases read
  · rw [tokens] at read
    cases read
  · rw [tokens] at read
    simp [readAtom, read]

theorem ReadsAtom.place {written : List Token} {p : PlaceAtom}
    (reads : ReadsAtom readPlace written p) : ReadsAtom readAtom written (.place p) := by
  intro rest
  obtain ⟨unopened, read⟩ := reads rest
  refine ⟨unopened, ?_⟩
  rcases tokens : written ++ rest with _ | ⟨word | column, more⟩
  · rw [tokens] at read
    cases read
  · rw [tokens] at read
    simp [readAtom, read]
  · rw [tokens] at read
    cases read

/-! ## Groups -/

theorem logic_tokens (logic : Logic) :
    textTokens (" " ++ logicWord logic ++ " ") = [.word (logicWord logic)] := by
  cases logic <;> decide

theorem tokensFrom_group {α : Type} (write : α → List Fragment) (g : Group α) (count : Nat) :
    tokensFrom count (g.fragments write) =
      groupTokens g.logic (tokenParts count (g.conditions.map write)) := by
  obtain ⟨logic, conditions⟩ := g
  rcases conditions with _ | ⟨first, _ | ⟨second, rest⟩⟩
  · rfl
  · rfl
  · have opening : textTokens "(" = [.word "("] := by decide
    have listed := tokensFrom_joined (logic_tokens logic) ((first :: second :: rest).map write) count
    simp only [Group.fragments, List.cons_append, tokensFrom, tokensFrom_append, opening,
      closing_tokens, listed]
    rfl

def IsRead (count : Nat) (fragments : List Fragment) : Option (Condition Atom) → Prop
  | none => fragments = []
  | some c => fragments ≠ [] ∧ IsUnit readAtom (tokensFrom count fragments) c

theorem group_ne_nil {α : Type} {write : α → List Fragment} (nonempty : ∀ a, write a ≠ [])
    {g : Group α} (conditional : g.conditions ≠ []) : g.fragments write ≠ [] := by
  obtain ⟨logic, conditions⟩ := g
  rcases conditions with _ | ⟨first, _ | ⟨second, rest⟩⟩
  · exact absurd rfl conditional
  · exact nonempty first
  · exact List.cons_ne_nil _ _

theorem group_read {α β γ : Type} {read : Reader γ} {write : β → List Fragment} {make : α → β}
    {Expresses : α → γ → Prop} {lift : γ → Atom} {parameters : List FilterValue}
    (nonempty : ∀ b, write b ≠ [])
    (lifts : ∀ {written c}, ReadsAtom read written c → ReadsAtom readAtom written (lift c))
    (items : List α)
    (each : ∀ a ∈ items, ∀ count, Supplied parameters count (values (write (make a))) →
      ∃ c, ReadsAtom read (tokensFrom count (write (make a))) c ∧ Expresses a c)
    (logic : Logic) (count : Nat)
    (supplied : Supplied parameters count
      (values (Group.fragments write ⟨logic, items.map make⟩))) :
    ∃ atoms, List.Forall₂ Expresses items atoms ∧
      IsRead count (Group.fragments write ⟨logic, items.map make⟩)
        (Condition.joined logic ((atoms.map lift).map .atom)) := by
  rw [values_group, List.map_map] at supplied
  obtain ⟨atoms, reads, expressed⟩ := parts_read items each count supplied
  refine ⟨atoms, expressed, ?_⟩
  cases whole : Condition.joined logic ((atoms.map lift).map .atom) with
  | none =>
    have unconditional : atoms = [] := by
      simpa using Condition.joined_eq_none.mp whole
    subst unconditional
    cases expressed
    rfl
  | some c =>
    have conditional : items.map make ≠ [] := by
      intro none
      have empty : items = [] := List.map_eq_nil_iff.mp none
      subst empty
      cases expressed
      cases whole
    refine ⟨group_ne_nil nonempty conditional, ?_⟩
    rw [tokensFrom_group]
    have lifted : List.Forall₂ (ReadsAtom readAtom) (tokenParts count ((items.map make).map write))
        (atoms.map lift) := by
      rw [List.map_map]
      exact List.forall₂_map_right_iff.mpr (reads.imp fun _ _ => lifts)
    exact IsUnit.of_group logic lifted whole

/-! ## The condition -/

theorem groups_units {count : Nat} {first second : List Fragment} {c d : Option (Condition Atom)}
    (readFirst : IsRead count first c) (readSecond : IsRead (count + (values first).length) second d) :
    List.Forall₂ (IsUnit readAtom)
      (tokenParts count ([first, second].filter fun group => !group.isEmpty))
      ([c, d].filterMap id) := by
  have written {group : List Fragment} (nonempty : group ≠ []) : group.isEmpty = false := by
    simpa using nonempty
  cases c with
  | none =>
    cases readFirst
    cases d with
    | none =>
      cases readSecond
      exact .nil
    | some d =>
      obtain ⟨nonempty, isUnit⟩ := readSecond
      have counted : count + (values ([] : List Fragment)).length = count := rfl
      rw [counted] at isUnit
      simpa [written nonempty, tokenParts] using isUnit
  | some c =>
    obtain ⟨nonempty, isUnit⟩ := readFirst
    cases d with
    | none =>
      cases readSecond
      simpa [written nonempty, tokenParts] using isUnit
    | some d =>
      obtain ⟨nonemptySecond, isUnitSecond⟩ := readSecond
      simpa [written nonempty, written nonemptySecond, tokenParts] using ⟨isUnit, isUnitSecond⟩

theorem joined_ne_nil {separator : String} :
    ∀ {parts : List (List Fragment)}, parts ≠ [] → (∀ part ∈ parts, part ≠ []) →
      joined separator parts ≠ []
  | [], nonempty, _ => absurd rfl nonempty
  | [last], _, each => each last (by simp)
  | part :: next :: rest, _, each => by
    simp [joined]

theorem readWhere_groups (s : Select) {c d : Option (Condition Atom)}
    (readTests : IsRead (values s.source).length (s.tests.fragments Test.fragments) c)
    (readPlaces : IsRead
      ((values s.source).length + (values (s.tests.fragments Test.fragments)).length)
      (s.places.fragments Place.fragments) d) :
    readWhere (tokensFrom 0 s.fragments) =
      some (Condition.joined .and ([c, d].filterMap id)) := by
  have units := groups_units readTests readPlaces
  have kept : ∀ part ∈ [s.tests.fragments Test.fragments, s.places.fragments Place.fragments].filter
      fun group => !group.isEmpty, part ≠ [] := by
    intro part member empty
    have filled := (List.mem_filter.mp member).2
    rw [empty] at filled
    cases filled
  have shape : whereFragments s.tests s.places = joined " AND " ([s.tests.fragments Test.fragments,
      s.places.fragments Place.fragments].filter fun group => !group.isEmpty) := rfl
  -- From here on it does not matter which of the groups were left out.
  generalize [s.tests.fragments Test.fragments, s.places.fragments Place.fragments].filter
    (fun group => !group.isEmpty) = parts at units kept shape
  cases parts with
  | nil =>
    have unread := List.forall₂_nil_left_iff.mp units
    rw [unread]
    exact readWhere_none s shape
  | cons part rest =>
    obtain ⟨e, whole⟩ : ∃ e, Condition.joined .and ([c, d].filterMap id) = some e := by
      refine Condition.exists_joined .and fun none => ?_
      rw [none] at units
      cases units
    rw [whole]
    refine readWhere_some s ?_ ?_
    · rw [shape]
      exact joined_ne_nil (List.cons_ne_nil _ _) kept
    · rw [shape, tokensFrom_joined and_tokens]
      exact condition_reads units whole

/-! ## The statement of a query -/

theorem statement_tests (q : Query) (tolerance : Number) :
    (q.statement tolerance).tests = q.attributeGroup := by
  unfold Query.statement
  split <;> rfl

theorem statement_places (q : Query) (tolerance : Number) :
    (q.statement tolerance).places = q.spatialGroup := by
  unfold Query.statement
  split <;> rfl

theorem where_supplied (s : Select) :
    Supplied s.written.values (values s.source).length
      (values (s.tests.fragments Test.fragments) ++ values (s.places.fragments Place.fragments)) := by
  have parameters : s.written.values = values s.source ++
      (values (clause "WHERE" (whereFragments s.tests s.places)) ++ values s.later) := by
    change values s.fragments = _
    rw [s.fragments_eq, values_append, values_append]
  have clauseValues : values (clause "WHERE" (whereFragments s.tests s.places)) =
      values (whereFragments s.tests s.places) := by
    unfold clause
    split
    · rename_i empty
      rw [List.isEmpty_iff.mp empty]
    · rfl
  rw [Supplied, parameters, clauseValues, List.drop_left, values_where]
  exact List.prefix_append _ _

/-! ## The distance to the nearest target -/

theorem joined_append (separator : String) :
    ∀ {first rest : List (List Fragment)}, first ≠ [] → rest ≠ [] →
      joined separator (first ++ rest) =
        joined separator first ++ .text separator :: joined separator rest
  | [], _, nonempty, _ => absurd rfl nonempty
  | [_], [], _, nonempty => absurd rfl nonempty
  | [_], _ :: _, _, _ => rfl
  | part :: next :: more, rest, _, nonempty => by
    have others := joined_append separator (List.cons_ne_nil next more) nonempty
    simp only [List.cons_append, joined] at others ⊢
    rw [others, List.append_assoc, List.cons_append]

theorem columns_silent (names : List Text) (count : Nat) :
    ∀ token ∈ tokensFrom count (joined ", " ((names.map Output.column).map Output.fragments)),
      (!isDistanceCall token) = true := by
  have silent (name : Text) : (!isDistanceCall (.name name)) = true := rfl
  induction names with
  | nil => simp [joined, tokensFrom]
  | cons name rest ih =>
    cases rest with
    | nil => exact List.forall_mem_singleton.mpr (silent name)
    | cons next more =>
      change ∀ token ∈ .name name :: (textTokens ", " ++ tokensFrom count (joined ", "
        (((next :: more).map Output.column).map Output.fragments))), _
      rw [comma_tokens]
      exact List.forall_mem_cons.mpr ⟨silent name, List.forall_mem_cons.mpr ⟨rfl, ih⟩⟩

theorem outputs_silent (q : Query) (count : Nat) :
    ∀ token ∈ tokensFrom count (joined ", " (q.outputs.map Output.fragments)),
      (!isDistanceCall token) = true := by
  unfold Query.outputs
  cases q.selectFields.getD [] with
  | nil =>
    have attributes : ∀ token ∈ textTokens allAttributes, (!isDistanceCall token) = true := by decide
    simpa [joined, Output.fragments, tokensFrom] using attributes
  | cons name rest => exact columns_silent (name :: rest) count

theorem outputs_ne_nil (q : Query) : q.outputs.map Output.fragments ≠ [] := by
  unfold Query.outputs
  cases q.selectFields.getD [] <;> exact List.cons_ne_nil _ _

section Nearest

variable {q : Query} {nearest : SpatialFilter}

theorem nearest_fragments (single : q.nearest = [nearest]) (tolerance : Number) :
    ∃ later, (q.statement tolerance).fragments =
      .text "SELECT " :: (joined ", " (q.outputs.map Output.fragments) ++ .text ", " ::
        .text ("ST_Distance(" ++ Catalog.projectedColumn ++ ", (") ::
          (nearest.union.fragments ++ .text ")) AS distance" :: later)) := by
  unfold Query.statement
  rw [single]
  simp only [Select.fragments, List.map_append, joined_append ", " (outputs_ne_nil q)
    (List.cons_ne_nil _ _), List.map_cons, List.map_nil, joined, Output.fragments,
    List.cons_append, List.append_assoc, List.nil_append]
  exact ⟨_, rfl⟩

theorem nearest_supplied (single : q.nearest = [nearest]) (tolerance : Number) :
    Supplied (q.statement tolerance).written.values
      (values (joined ", " (q.outputs.map Output.fragments))).length
      (values nearest.union.fragments) := by
  obtain ⟨later, written⟩ := nearest_fragments single tolerance
  change Supplied (values (q.statement tolerance).fragments) _ _
  rw [written]
  simp only [values, values_append, Supplied, List.drop_left]
  exact List.prefix_append _ _

theorem distance_call (single : q.nearest = [nearest]) (tolerance : Number) :
    ∃ tail, (tokensFrom 0 (q.statement tolerance).fragments).dropWhile
      (fun token => !isDistanceCall token) = .word "ST_Distance" :: .word "(" ::
        .word "geom_utm13" :: .word "," :: .word "(" ::
          (tokensFrom (values (joined ", " (q.outputs.map Output.fragments))).length
            nearest.union.fragments ++ .word ")" :: .word ")" :: tail) := by
  obtain ⟨later, written⟩ := nearest_fragments single tolerance
  have selectTokens : textTokens "SELECT " = [.word "SELECT"] := by decide
  have callTokens : textTokens ("ST_Distance(" ++ Catalog.projectedColumn ++ ", (") =
      [.word "ST_Distance", .word "(", .word "geom_utm13", .word ",", .word "("] := by decide
  have closing : textTokens ")) AS distance" = [.word ")", .word ")", .word "AS",
      .word "distance"] := by decide
  rw [written]
  simp only [tokensFrom, tokensFrom_append, selectTokens, comma_tokens, callTokens, closing,
    List.cons_append, List.nil_append, Nat.zero_add]
  have passed (rest : List Token) : (.word "SELECT" :: rest).dropWhile
      (fun token => !isDistanceCall token) = rest.dropWhile fun token => !isDistanceCall token := rfl
  rw [passed, List.dropWhile_append_of_pos (outputs_silent q 0)]
  exact ⟨_, rfl⟩

/-- The distance is measured in the projected geometry, to the filtered target. -/
theorem distance_read {registry : Registry} (single : q.nearest = [nearest])
    (reachable : nearest.Reachable registry) (tolerance : Number) :
    ∃ p, distanceOf (q.statement tolerance).written.text = some p ∧ p.geometry = "geom_utm13" ∧
      p.target.Expresses (q.statement tolerance).written.values "geom_utm13" nearest := by
  have isNearest : nearest.op = .nearest := by
    have member : nearest ∈ q.nearest := by simp [single]
    have passed := (List.mem_filter.mp member).2
    simpa [SpatialFilter.isNearest] using passed
  have geometry : Text.ofString (frame nearest.op).column = "geom_utm13" := by
    rw [isNearest]
    rfl
  obtain ⟨_, _, testable⟩ := reachable
  obtain ⟨t, reads, expressed⟩ := target_read (fun f member => (testable f member).sayable) _
    (nearest_supplied single tolerance)
  obtain ⟨tail, call⟩ := distance_call single tolerance
  refine ⟨⟨"ST_Distance", "geom_utm13", t, none⟩, ?_, rfl, geometry ▸ expressed⟩
  have read := readPlace_call "ST_Distance" "geom_utm13" reads (.word ")" :: tail)
  simp only [distanceOf, (q.statement tolerance).scan_written, Option.bind_eq_bind,
    Option.bind_some, tokens_piecesFrom _ (q.statement tolerance).spaced, call, read]
  rfl

end Nearest

/-! ## The condition of a query -/

def conditionOfGroups (forTests forPlaces : Logic) (tests : List TestAtom)
    (places : List PlaceAtom) : Option (Condition Atom) :=
  Condition.joined .and ([Condition.joined forTests ((tests.map Atom.test).map .atom),
    Condition.joined forPlaces ((places.map Atom.place).map .atom)].filterMap id)

variable (forTests forPlaces : Logic) (tests : List TestAtom) (places : List PlaceAtom)

theorem atoms_lifted {γ : Type} (lift : γ → Atom) (logic : Logic) (atoms : List γ) :
    (Condition.joined logic ((atoms.map lift).map .atom)).elim [] Condition.atoms =
      atoms.map lift := by
  rw [Condition.atoms_joined, List.flatMap_map]
  change (atoms.map lift).flatMap (fun a => [a]) = _
  rw [← List.map_eq_flatMap, List.map_id']

theorem atoms_conditionOfGroups :
    (conditionOfGroups forTests forPlaces tests places).elim [] Condition.atoms =
      tests.map .test ++ places.map .place := by
  have kept (c d : Option (Condition Atom)) : ([c, d].filterMap id).flatMap Condition.atoms =
      c.elim [] Condition.atoms ++ d.elim [] Condition.atoms := by
    cases c <;> cases d <;> simp
  rw [conditionOfGroups, Condition.atoms_joined, kept, atoms_lifted, atoms_lifted]

theorem holds_conditionOfGroups (truth : Nat → Bool) :
    (conditionOfGroups forTests forPlaces tests places).elim true (Condition.holdsFrom truth 0) =
      (forTests.holds ((List.range' 0 tests.length).map truth) &&
        forPlaces.holds ((List.range' tests.length places.length).map truth)) := by
  rw [conditionOfGroups, Condition.holdsFrom_groups, atoms_lifted, Condition.holdsFrom_atoms,
    Condition.holdsFrom_atoms]
  simp only [List.length_map, Nat.zero_add]

theorem conditionOfGroups_eq_none :
    conditionOfGroups forTests forPlaces tests places = none ↔ tests = [] ∧ places = [] := by
  have unread {γ : Type} (lift : γ → Atom) (logic : Logic) (atoms : List γ) :
      Condition.joined logic ((atoms.map lift).map .atom) = none ↔ atoms = [] := by
    rw [Condition.joined_eq_none, List.map_eq_nil_iff, List.map_eq_nil_iff]
  rw [conditionOfGroups, Condition.joined_eq_none, ← unread Atom.test forTests,
    ← unread Atom.place forPlaces]
  generalize Condition.joined forTests ((tests.map Atom.test).map .atom) = first
  generalize Condition.joined forPlaces ((places.map Atom.place).map .atom) = second
  cases first <;> cases second <;> simp

/-- The condition that is read in the text has one atom for each filter, in their order, and each atom
expresses its filter.  Whichever atoms hold, the condition holds as the query joins its filters; there
is none if and only if the query has no filters. -/
theorem filters_keep_their_meaning {registry : Registry} {q : Query} {tolerance : Number}
    {w : Written} (compiled : compile registry q tolerance = .ok w) :
    ∃ condition tests places, conditionOf w.text = some condition ∧
      condition.elim [] Condition.atoms = tests.map .test ++ places.map .place ∧
      List.Forall₂ (TestAtom.Expresses w.values) q.attributes tests ∧
      List.Forall₂ (PlaceAtom.Expresses w.values) q.places places ∧
      (∀ truth : Nat → Bool, condition.elim true (Condition.holdsFrom truth 0) =
        ((q.attributeLogic.getD .and).holds ((List.range' 0 tests.length).map truth) &&
          (q.spatialLogic.getD .and).holds
            ((List.range' tests.length places.length).map truth))) ∧
      (condition = none ↔ q.attributes = [] ∧ q.places = []) ∧
      ∀ nearest ∈ q.nearest, ∃ p, distanceOf w.text = some p ∧
        p.geometry = "geom_utm13" ∧
        p.target.Expresses w.values "geom_utm13" nearest := by
  obtain ⟨layer, _, compilable, rfl⟩ := (compile_ok_iff registry q tolerance w).mp compiled
  have supplied := where_supplied (q.statement tolerance)
  rw [statement_tests, statement_places] at supplied
  obtain ⟨tests, expressedTests, readTests⟩ := group_read Test.fragments_ne_nil ReadsAtom.test
    q.attributes (fun f member count supplied =>
      test_read (compilable.tests f member).sayable count supplied)
    (q.attributeLogic.getD .and) _ supplied.left
  obtain ⟨places, expressedPlaces, readPlaces⟩ := group_read Place.fragments_ne_nil ReadsAtom.place
    q.places (fun s member count supplied =>
      place_read (compilable.places s member) count supplied)
    (q.spatialLogic.getD .and) _ supplied.right
  have read := readWhere_groups (q.statement tolerance)
    (by rw [statement_tests]; exact readTests)
    (by rw [statement_tests, statement_places]; exact readPlaces)
  refine ⟨conditionOfGroups (q.attributeLogic.getD .and) (q.spatialLogic.getD .and) tests places,
    tests, places, ?_, atoms_conditionOfGroups _ _ _ _, expressedTests, expressedPlaces,
    holds_conditionOfGroups _ _ _ _, ?_, ?_⟩
  · simp only [conditionOf, (q.statement tolerance).scan_written, Option.bind_eq_bind,
      Option.bind_some, tokens_piecesFrom _ (q.statement tolerance).spaced]
    exact read
  · have noTests : tests = [] ↔ q.attributes = [] := by
      rw [← List.length_eq_zero_iff, ← expressedTests.length_eq, List.length_eq_zero_iff]
    have noPlaces : places = [] ↔ q.places = [] := by
      rw [← List.length_eq_zero_iff, ← expressedPlaces.length_eq, List.length_eq_zero_iff]
    rw [conditionOfGroups_eq_none, noTests, noPlaces]
  · intro nearest member
    obtain ⟨single, reachable⟩ := nearest_of_mem compilable.outputs member
    exact distance_read single reachable tolerance

theorem filters_keep_their_meaning_sample :
    ∃ w condition, compile sampleRegistry sampleQuery (.int 0) = .ok w ∧
      conditionOf w.text = some condition ∧
      ∀ truth : Nat → Bool, condition.elim true (Condition.holdsFrom truth 0) =
        ((truth 0 || truth 1) && (truth 2 || truth 3)) := by
  obtain ⟨condition, tests, places, read, -, expressed, placed, holds, -⟩ :=
    filters_keep_their_meaning compile_sampleQuery
  have two : tests.length = 2 := expressed.length_eq.symm
  have twoPlaces : places.length = 2 := placed.length_eq.symm
  refine ⟨_, condition, compile_sampleQuery, read, fun truth => ?_⟩
  rw [holds, two, twoPlaces]
  simp [sampleQuery, Query.ofLayer, Logic.holds, List.range']

end SpatialQuery.Sql
