import SpatialQuery.Proofs.Sql.Reading
import SpatialQuery.Proofs.Sql.Statement
import SpatialQuery.Proofs.Sql.Tokens

/-!
# Filters are read back

Each filter that can be compiled is written as tokens from which its atom is read again.  The atom names
the column or the layer of the filter and its operator, and its placeholders select the values of the
filter from the parameters, wherever among them the values of the filter stand.
-/

set_option autoImplicit false

namespace SpatialQuery

open Sql

/-! ## What an atom should say -/

def AttributeOp.word? : AttributeOp → Option Text
  | .eq => some "="
  | .neq => some "!="
  | .gt => some ">"
  | .gte => some ">="
  | .lt => some "<"
  | .lte => some "<="
  | .like => some "LIKE"
  | .oneOf | .other _ => none

def SpatialOp.function? : SpatialOp → Option Text
  | .withinDistance => some "ST_DWithin"
  | .intersects => some "ST_Intersects"
  | .contains => some "ST_Contains"
  | .within => some "ST_Within"
  | .nearest | .other _ => none

def SpatialOp.geometry : SpatialOp → Text
  | .withinDistance => "geom_utm13"
  | _ => "geom_4326"

namespace Sql

def selected (parameters : List FilterValue) : Nat → Option FilterValue
  | 0 => none
  | number + 1 => parameters[number]?

/-- The atom compares the column of the filter by its operator with its value. -/
def TestAtom.Expresses (parameters : List FilterValue) (f : AttributeFilter) : TestAtom → Prop
  | .compare column operator placeholder =>
    column = f.field ∧ f.op.word? = some operator ∧
      selected parameters placeholder = some f.value
  | .member column placeholders =>
    column = f.field ∧ f.op = .oneOf ∧ ∃ values, f.value = .many values ∧
      placeholders.map (selected parameters) = values.map fun value => some (.one value)

/-- The target is the layer of the filter, over the rows for which all of its filters hold. -/
structure TargetAtom.Expresses (parameters : List FilterValue) (geometry : Text) (s : SpatialFilter)
    (t : TargetAtom) : Prop where
  geometry : t.geometry = geometry
  table : t.table = s.targetLayer
  filters : ∃ tests, List.Forall₂ (TestAtom.Expresses parameters) s.targets tests ∧
    t.condition = Condition.joined .and (tests.map .atom)

/-- The atom applies the function of the filter to one geometry column on both sides. -/
structure PlaceAtom.Expresses (parameters : List FilterValue) (s : SpatialFilter) (p : PlaceAtom) :
    Prop where
  function : s.op.function? = some p.function
  geometry : p.geometry = s.op.geometry
  target : p.target.Expresses parameters s.op.geometry s
  distance : match p.distance with
    | none => s.op ≠ .withinDistance
    | some placeholder => s.op = .withinDistance ∧
      ∃ distance, s.distance = some distance ∧
        selected parameters placeholder = some (.one (.num distance))

/-! ## Placeholders -/

theorem mapM_char? (cs : List Char) : (cs.map Mark.char).mapM Mark.char? = some cs := by
  induction cs with
  | nil => rfl
  | cons c rest ih =>
    rw [List.map_cons, List.mapM_cons, ih]
    rfl

theorem number_placeholder (number : Nat) :
    Token.number? (.word (placeholder number)) = some number := by
  have digits : (Decimal.digitChars number).all Char.isDigit = true :=
    List.all_eq_true.mpr fun c member => Decimal.isDigit_of_mem_digitChars member
  have nonempty : (Decimal.digitChars number).isEmpty = false := by
    simpa using Decimal.digitChars_ne_nil number
  have decoded : Nat.ofDigitChars 10 (Decimal.digitChars number) 0 = number :=
    Nat.ofDigitChars_ten_toDigits
  have read : Token.number? (.word (placeholder number)) =
      (((Decimal.digitChars number).map Mark.char).mapM Mark.char?).bind fun cs =>
        if cs.all Char.isDigit && !cs.isEmpty then some (Nat.ofDigitChars 10 cs 0) else none := rfl
  rw [read, mapM_char?, Option.bind_some, digits, nonempty, decoded]
  rfl

/-- The values stand among the parameters, after the first `count` of them. -/
def Supplied (parameters : List FilterValue) (count : Nat) (values : List FilterValue) : Prop :=
  values <+: parameters.drop count

theorem Supplied.left {parameters : List FilterValue} {count : Nat}
    {first rest : List FilterValue} (supplied : Supplied parameters count (first ++ rest)) :
    Supplied parameters count first := (List.prefix_append first rest).trans supplied

theorem Supplied.right {parameters : List FilterValue} {count : Nat}
    {first rest : List FilterValue} (supplied : Supplied parameters count (first ++ rest)) :
    Supplied parameters (count + first.length) rest := by
  obtain ⟨others, same⟩ := supplied
  refine ⟨others, ?_⟩
  rw [← List.drop_drop, ← same, List.append_assoc, List.drop_left]

theorem Supplied.selected {parameters : List FilterValue} {count : Nat} {value : FilterValue}
    {rest : List FilterValue} (supplied : Supplied parameters count (value :: rest)) :
    selected parameters (count + 1) = some value := by
  obtain ⟨others, same⟩ := supplied
  have headed : (parameters.drop count)[0]? = some value := by rw [← same]; rfl
  simpa [Sql.selected] using headed

/-! ## Tokens of parts -/

def tokenParts : Nat → List (List Fragment) → List (List Token)
  | _, [] => []
  | count, part :: rest =>
    tokensFrom count part :: tokenParts (count + (values part).length) rest

theorem tokensFrom_joined {separator : String} {word : Text}
    (tokens : textTokens separator = [.word word]) :
    ∀ (parts : List (List Fragment)) (count : Nat),
      tokensFrom count (joined separator parts) = separated word (tokenParts count parts)
  | [], _ => rfl
  | [_], _ => rfl
  | part :: next :: rest, count => by
    have others := tokensFrom_joined tokens (next :: rest) (count + (values part).length)
    rw [joined, tokensFrom_append, tokensFrom, tokens, others]
    rfl

theorem parts_read {α β : Type} {read : Reader β} {write : α → List Fragment} {Expresses : α → β → Prop}
    {parameters : List FilterValue} (items : List α)
    (each : ∀ a ∈ items, ∀ count, Supplied parameters count (values (write a)) →
      ∃ b, ReadsAtom read (tokensFrom count (write a)) b ∧ Expresses a b)
    (count : Nat) (supplied : Supplied parameters count ((items.map write).flatMap values)) :
    ∃ atoms, List.Forall₂ (ReadsAtom read) (tokenParts count (items.map write)) atoms ∧
      List.Forall₂ Expresses items atoms := by
  induction items generalizing count with
  | nil => exact ⟨[], .nil, .nil⟩
  | cons a rest ih =>
    obtain ⟨first, others⟩ := List.forall_mem_cons.mp each
    obtain ⟨b, reads, expressed⟩ := first count supplied.left
    obtain ⟨bs, readsRest, expressedRest⟩ := ih others _ supplied.right
    exact ⟨b :: bs, .cons reads readsRest, .cons expressed expressedRest⟩

/-! ## Tests -/

theorem readNumber_placeholder (number : Nat) (rest : List Token) :
    readNumber (.word (placeholder number) :: rest) = some (number, rest) := by
  simp [readNumber, number_placeholder]

theorem readNumbers_listed (parameters : List FilterValue) :
    ∀ (first : Scalar) (more : List Scalar) (count : Nat),
      Supplied parameters count ((first :: more).map .one) →
      ∃ placeholders, (∀ rest, readNumbers (tokensFrom count (joined ", " ((first :: more).map
          fun value => [.value (.one value)])) ++ .word ")" :: rest) = some (placeholders, rest)) ∧
        placeholders.map (selected parameters) =
          (first :: more).map fun value => some (.one value)
  | first, [], count, supplied => by
    refine ⟨[count + 1], fun rest => ?_, by simp [supplied.selected]⟩
    simp [joined, tokensFrom, readNumbers, number_placeholder]
  | first, next :: more, count, supplied => by
    have distinct : Text.ofString "," ≠ ")" := by decide
    have later : Supplied parameters (count + 1) ((next :: more).map .one) := by
      rw [List.map_cons, ← List.singleton_append] at supplied
      exact supplied.right
    obtain ⟨placeholders, read, same⟩ := readNumbers_listed parameters next more (count + 1) later
    refine ⟨(count + 1) :: placeholders, fun rest => ?_, ?_⟩
    · simp only [List.map_cons] at read ⊢
      simp [joined, tokensFrom, comma_tokens, readNumbers, number_placeholder, distinct, read]
    · rw [List.map_cons, List.map_cons, same, supplied.selected]

theorem comparison_tokens (comparison : Comparison) :
    textTokens (" " ++ comparison.symbol ++ " ") = [.word comparison.symbol] := by
  cases comparison <;> decide

theorem comparison_word (comparison : Comparison) :
    Text.ofString comparison.symbol ≠ "IN" ∧
      Text.ofString comparison.symbol ∈ comparisonWords := by
  cases comparison <;> decide

theorem word_of_comparison {op : AttributeOp} {comparison : Comparison}
    (same : comparison? op = some comparison) : op.word? = some (Text.ofString comparison.symbol) := by
  cases op <;> cases same <;> rfl

theorem compare_read {parameters : List FilterValue} {f : AttributeFilter} {comparison : Comparison}
    (same : comparison? f.op = some comparison) (count : Nat)
    (supplied : Supplied parameters count [f.value]) :
    ∃ t, ReadsAtom readTest
        (tokensFrom count (Test.compare f.field comparison f.value).fragments) t ∧
      t.Expresses parameters f := by
  obtain ⟨other, known⟩ := comparison_word comparison
  have tokens := comparison_tokens comparison
  refine ⟨.compare f.field comparison.symbol (count + 1), fun rest => ⟨rfl, ?_⟩, rfl,
    word_of_comparison same, supplied.selected⟩
  simp [Test.fragments, tokensFrom, tokens, readTest, other, known, readNumber_placeholder]

theorem member_read {parameters : List FilterValue} (field : Text) (first : Scalar)
    (more : List Scalar) (count : Nat)
    (supplied : Supplied parameters count ((first :: more).map .one)) :
    ∃ t, ReadsAtom readTest (tokensFrom count (Test.member field (first :: more)).fragments) t ∧
      t.Expresses parameters ⟨field, .oneOf, .many (first :: more)⟩ := by
  have opening : textTokens " IN (" = [.word "IN", .word "("] := by decide
  obtain ⟨placeholders, read, same⟩ := readNumbers_listed parameters first more count supplied
  refine ⟨.member field placeholders, fun rest => ⟨rfl, ?_⟩, rfl, rfl, _, rfl, same⟩
  generalize first :: more = scalars at read
  simp only [Test.fragments, List.cons_append, tokensFrom, opening, tokensFrom_append, closing_tokens,
    List.append_assoc, List.nil_append, readTest, if_true, after?_word, Option.bind_eq_bind,
    Option.bind_some, read]

theorem values_member (field : Text) (scalars : List Scalar) :
    values (Test.member field scalars).fragments = scalars.map .one := by
  simp only [Test.fragments, List.cons_append, values, values_append, values_joined,
    List.append_nil, List.flatMap_map]
  rw [List.map_eq_flatMap]

theorem test_read {parameters : List FilterValue} {f : AttributeFilter} (sayable : f.IsSayable)
    (count : Nat) (supplied : Supplied parameters count (values f.test.fragments)) :
    ∃ t, ReadsAtom readTest (tokensFrom count f.test.fragments) t ∧ t.Expresses parameters f := by
  obtain ⟨field, op, value⟩ := f
  cases op with
  | oneOf =>
    obtain ⟨first, more, listed⟩ := sayable
    cases listed
    change Supplied parameters count (values (Test.member field (first :: more)).fragments)
      at supplied
    rw [values_member] at supplied
    exact member_read field first more count supplied
  | other name => cases sayable
  | _ => exact compare_read rfl count supplied

/-! ## Targets -/

theorem conjunction_eq (filters : List AttributeFilter) :
    conjunction (filters.map AttributeFilter.test) =
      joined " AND " (filters.map fun f => f.test.fragments) := by
  rw [conjunction, List.map_map]
  rfl

theorem conjunction_read {parameters : List FilterValue} {filters : List AttributeFilter}
    (nonempty : filters ≠ []) (sayable : ∀ f ∈ filters, f.IsSayable) (count : Nat)
    (supplied : Supplied parameters count
      (values (conjunction (filters.map AttributeFilter.test)))) :
    ∃ tests c, ReadsBefore Ends (condition readTest)
        (tokensFrom count (conjunction (filters.map AttributeFilter.test))) c ∧
      List.Forall₂ (TestAtom.Expresses parameters) filters tests ∧
      Condition.joined .and (tests.map .atom) = some c := by
  rw [conjunction_eq, values_joined] at supplied
  obtain ⟨tests, reads, expressed⟩ := parts_read filters
    (fun f member count supplied => test_read (sayable f member) count supplied) count supplied
  obtain ⟨c, whole⟩ : ∃ c, Condition.joined .and (tests.map .atom) = some c := by
    refine Condition.exists_joined .and fun none => ?_
    rw [List.map_eq_nil_iff.mp none] at expressed
    cases expressed
    exact nonempty rfl
  have units : List.Forall₂ (IsUnit readTest)
      (tokenParts count (filters.map fun f => f.test.fragments)) (tests.map .atom) :=
    List.forall₂_map_right_iff.mpr (reads.imp fun _ _ => IsUnit.of_atom)
  refine ⟨tests, c, ?_, expressed, whole⟩
  rw [conjunction_eq, tokensFrom_joined and_tokens]
  exact condition_reads units whole

theorem union_tokens (frame : Frame) :
    textTokens ("SELECT ST_Union_Agg(" ++ frame.column ++ ") AS " ++ frame.targetName ++
      " FROM ") = [.word "SELECT", .word "ST_Union_Agg", .word "(", .word frame.column, .word ")",
        .word "AS", .word frame.targetName, .word "FROM"] := by
  cases frame <;> decide

def Closes (rest : List Token) : Prop := ∃ more, rest = .word ")" :: more

theorem Closes.ends {rest : List Token} (closes : Closes rest) : Ends rest := by
  obtain ⟨more, rfl⟩ := closes
  intro logic
  cases logic <;> rfl

theorem target_read {parameters : List FilterValue} {s : SpatialFilter}
    (sayable : ∀ f ∈ s.targets, f.IsSayable) (count : Nat)
    (supplied : Supplied parameters count (values s.union.fragments)) :
    ∃ t, ReadsBefore Closes readTarget (tokensFrom count s.union.fragments) t ∧
      t.Expresses parameters (frame s.op).column s := by
  have tokens := union_tokens s.union.frame
  have whereTokens : textTokens " WHERE " = [.word "WHERE"] := by decide
  by_cases untested : s.targets = []
  · have unfiltered : s.union.tests.isEmpty = true := by simp [SpatialFilter.union, untested]
    refine ⟨⟨s.union.frame.column, s.targetLayer, none⟩, ?_, rfl, rfl, [], ?_, rfl⟩
    · rintro rest ⟨more, rfl⟩
      simp only [Union.fragments, unfiltered, if_true, tokensFrom, tokens]
      rfl
    · rw [untested]
      exact .nil
  · have filtered : s.union.tests.isEmpty = false := by
      simpa [SpatialFilter.union] using untested
    simp only [Union.fragments, filtered, Bool.false_eq_true, if_false, values] at supplied
    obtain ⟨tests, c, reads, expressed, whole⟩ := conjunction_read untested sayable count supplied
    refine ⟨⟨s.union.frame.column, s.targetLayer, some c⟩, ?_, rfl, rfl, tests, expressed,
      whole.symm⟩
    intro rest closes
    have read := reads rest closes.ends
    -- Behind WHERE the reader of the target is the reader of conditions.
    have shape : readTarget (tokensFrom count s.union.fragments ++ rest) =
        (condition readTest (tokensFrom count (conjunction s.union.tests) ++ rest)).bind
          fun read => some (⟨s.union.frame.column, s.targetLayer, some read.1⟩, read.2) := by
      simp only [Union.fragments, filtered, Bool.false_eq_true, if_false, tokensFrom, tokens,
        whereTokens]
      rfl
    rw [shape]
    change (condition readTest (tokensFrom count (conjunction (s.targets.map
      AttributeFilter.test)) ++ rest)).bind _ = _
    rw [read]
    rfl

/-! ## Places -/

theorem near_tokens (frame : Frame) :
    textTokens ("ST_DWithin(" ++ frame.column ++ ", (") = [.word "ST_DWithin", .word "(",
      .word frame.column, .word ",", .word "("] := by
  cases frame <;> decide

theorem related_tokens (relation : Relation) (frame : Frame) :
    textTokens (relation.function ++ "(" ++ frame.column ++ ", (") = [.word relation.function,
      .word "(", .word frame.column, .word ",", .word "("] := by
  cases relation <;> cases frame <;> decide

theorem function_unopened (relation : Relation) (rest : List Token) :
    after? "(" (.word relation.function :: rest) = none := by
  cases relation <;> rfl

theorem readPlace_call (function geometry : Text) {written : List Token} {t : TargetAtom}
    (reads : ReadsBefore Closes readTarget written t) (rest : List Token) :
    readPlace (.word function :: .word "(" :: .word geometry :: .word "," :: .word "(" ::
      (written ++ .word ")" :: rest)) = readCallEnd (.mk function geometry t) rest := by
  have read := reads (.word ")" :: rest) ⟨rest, rfl⟩
  simp only [readPlace, readWord, afterAll?, after?_word, Option.bind_eq_bind, Option.bind_some,
    read]

theorem function_of_relation {op : SpatialOp} {relation : Relation}
    (same : relation? op = some relation) : op.function? = some (Text.ofString relation.function) := by
  cases op <;> cases same <;> rfl

theorem geometry_of_relation {op : SpatialOp} {relation : Relation}
    (same : relation? op = some relation) : Text.ofString (frame op).column = op.geometry := by
  cases op <;> cases same <;> rfl

theorem tokensFrom_near (target : Union) (distance : Number) (count : Nat) (rest : List Token) :
    tokensFrom count (Place.near target distance).fragments ++ rest =
      .word "ST_DWithin" :: .word "(" :: .word target.frame.column :: .word "," :: .word "(" ::
        (tokensFrom count target.fragments ++ .word ")" :: .word "," ::
          .word (placeholder (count + (values target.fragments).length + 1)) :: .word ")" ::
            rest) := by
  have middle : textTokens "), " = [.word ")", .word ","] := by decide
  simp only [Place.fragments, List.cons_append, tokensFrom, near_tokens, tokensFrom_append, middle,
    closing_tokens, List.append_assoc, List.nil_append]

theorem tokensFrom_related (relation : Relation) (target : Union) (count : Nat) (rest : List Token) :
    tokensFrom count (Place.related relation target).fragments ++ rest =
      .word relation.function :: .word "(" :: .word target.frame.column :: .word "," ::
        .word "(" :: (tokensFrom count target.fragments ++ .word ")" :: .word ")" :: rest) := by
  have closing : textTokens "))" = [.word ")", .word ")"] := by decide
  simp only [Place.fragments, List.cons_append, tokensFrom, related_tokens, tokensFrom_append,
    closing, List.append_assoc, List.nil_append]

theorem near_read {parameters : List FilterValue} {s : SpatialFilter} {distance : Number}
    (metric : s.op = .withinDistance) (given : s.distance = some distance)
    (sayable : ∀ f ∈ s.targets, f.IsSayable) (count : Nat)
    (supplied : Supplied parameters count (values (Place.near s.union distance).fragments)) :
    ∃ p, ReadsAtom readPlace (tokensFrom count (Place.near s.union distance).fragments) p ∧
      p.Expresses parameters s := by
  simp only [Place.fragments, List.cons_append, values, values_append] at supplied
  obtain ⟨t, reads, expressed⟩ := target_read sayable count supplied.left
  have geometry : Text.ofString (frame s.op).column = s.op.geometry := by
    rw [metric]
    rfl
  refine ⟨⟨"ST_DWithin", s.union.frame.column, t,
    some (count + (values s.union.fragments).length + 1)⟩, fun rest => ?_, ?_⟩
  · rw [tokensFrom_near, readPlace_call _ _ reads]
    exact ⟨rfl, by simp [readCallEnd, readNumber_placeholder]⟩
  · refine ⟨by rw [metric]; rfl, geometry, geometry ▸ expressed, metric, distance, given, ?_⟩
    exact supplied.right.selected

theorem related_read {parameters : List FilterValue} {s : SpatialFilter} {relation : Relation}
    (same : relation? s.op = some relation) (unmeasured : s.op ≠ .withinDistance)
    (sayable : ∀ f ∈ s.targets, f.IsSayable) (count : Nat)
    (supplied : Supplied parameters count (values (Place.related relation s.union).fragments)) :
    ∃ p, ReadsAtom readPlace (tokensFrom count (Place.related relation s.union).fragments) p ∧
      p.Expresses parameters s := by
  simp only [Place.fragments, List.cons_append, values, values_append] at supplied
  obtain ⟨t, reads, expressed⟩ := target_read sayable count supplied.left
  have geometry := geometry_of_relation same
  refine ⟨⟨relation.function, (frame s.op).column, t, none⟩, fun rest => ?_, ?_⟩
  · rw [tokensFrom_related, readPlace_call _ _ reads]
    exact ⟨function_unopened relation _, rfl⟩
  · exact ⟨function_of_relation same, geometry, geometry ▸ expressed, unmeasured⟩

theorem place_read {registry : Registry} {parameters : List FilterValue} {s : SpatialFilter}
    (placeable : s.Placeable registry) (count : Nat)
    (supplied : Supplied parameters count (values s.place.fragments)) :
    ∃ p, ReadsAtom readPlace (tokensFrom count s.place.fragments) p ∧ p.Expresses parameters s := by
  obtain ⟨_, _, testable⟩ := placeable.reachable
  have sayable : ∀ f ∈ s.targets, f.IsSayable := fun f member => (testable f member).sayable
  by_cases metric : s.op = .withinDistance
  · obtain ⟨distance, given⟩ := Option.isSome_iff_exists.mp (placeable.measured metric)
    rw [SpatialFilter.place_near metric given] at supplied ⊢
    exact near_read metric given sayable count supplied
  · obtain ⟨relation, same⟩ := Option.isSome_iff_exists.mp (placeable.related metric)
    rw [SpatialFilter.place_related metric, same, Option.getD_some] at supplied ⊢
    exact related_read same metric sayable count supplied

end Sql

end SpatialQuery
