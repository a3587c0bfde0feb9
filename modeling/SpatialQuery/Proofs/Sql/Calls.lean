import SpatialQuery.Proofs.Sql.Filters

/-!
# Calls in a statement

Wherever the name of a function stands in the text of a statement, a call begins, whose arguments are
what stands between the commas up to its closing parenthesis.  The third argument of a call of
`ST_DWithin` is always one placeholder; the parameters that these placeholders select are the distances
of the query, in their order.  A name that is written in quotes begins no call, and the parentheses
inside of an argument neither end the call nor part the argument.
-/

set_option autoImplicit false

namespace SpatialQuery

def SpatialFilter.reach? (s : SpatialFilter) : Option Number :=
  if s.op = .withinDistance then s.distance else none

def Query.reaches (q : Query) : List Number := q.spatials.filterMap SpatialFilter.reach?

namespace Sql

/-! ## Arguments -/

/-- What stands between the commas of a call, the first part of it behind `read`; nothing if the call is
not closed. -/
def argumentsFrom : Nat → List Token → List Token → Option (List (List Token))
  | _, _, [] => none
  | depth, read, token :: rest =>
    if token = .word "(" then argumentsFrom (depth + 1) (read ++ [token]) rest
    else if token = .word ")" then
      match depth with
      | 0 => some [read]
      | outer + 1 => argumentsFrom outer (read ++ [token]) rest
    else if token = .word "," ∧ depth = 0 then (argumentsFrom 0 [] rest).map (read :: ·)
    else argumentsFrom depth (read ++ [token]) rest

def arguments? (tokens : List Token) : Option (List (List Token)) :=
  (after? "(" tokens).bind (argumentsFrom 0 [])

def callsOf (function : Text) : List Token → List (Option (List (List Token)))
  | [] => []
  | token :: rest =>
    if token = .word function then arguments? rest :: callsOf function rest
    else callsOf function rest

/-- The parameter that an argument stands for, which has to be a placeholder alone. -/
def parameterOf (parameters : List FilterValue) : List Token → Option FilterValue
  | [token] => token.number?.bind (selected parameters)
  | _ => none

def thirdParameter (parameters : List FilterValue) (arguments : Option (List (List Token))) :
    Option FilterValue :=
  (arguments.bind fun arguments => arguments[2]?).bind (parameterOf parameters)

/-- What is bound as the third argument of each call of `ST_DWithin`. -/
def boundDistances (w : Written) : Option (List (Option FilterValue)) :=
  (scan w.text).map fun pieces =>
    (callsOf "ST_DWithin" (tokens pieces)).map (thirdParameter w.values)

def asParameters (distances : List Number) : List (Option FilterValue) :=
  distances.map fun d => some (.one (.num d))

/-! ## Inside of an argument -/

/-- Inside of parentheses the tokens go into the argument that is read, and behind them the depth is
what it was. -/
def IsNested (tokens : List Token) : Prop :=
  ∀ depth read rest, argumentsFrom (depth + 1) read (tokens ++ rest) =
    argumentsFrom (depth + 1) (read ++ tokens) rest

theorem IsNested.nil : IsNested [] := by
  intro depth read rest
  rw [List.nil_append, List.append_nil]

theorem IsNested.append {first rest : List Token} (nested : IsNested first)
    (nestedRest : IsNested rest) : IsNested (first ++ rest) := by
  intro depth read tokens
  rw [List.append_assoc, nested, nestedRest, List.append_assoc]

theorem IsNested.cons {token : Token} {rest : List Token} (notOpening : token ≠ .word "(")
    (notClosing : token ≠ .word ")") (nested : IsNested rest) : IsNested (token :: rest) := by
  intro depth read tokens
  have inner : ¬ (token = .word "," ∧ depth + 1 = 0) := fun both => absurd both.2 depth.succ_ne_zero
  rw [List.cons_append, argumentsFrom, if_neg notOpening, if_neg notClosing, if_neg inner, nested,
    List.append_assoc, List.singleton_append]

theorem IsNested.parenthesized {inner : List Token} (nested : IsNested inner) :
    IsNested (.word "(" :: inner ++ [.word ")"]) := by
  intro depth read rest
  have other : (.word ")" : Token) ≠ .word "(" := by decide
  rw [List.append_assoc, List.cons_append, argumentsFrom, if_pos rfl, nested, List.singleton_append,
    argumentsFrom, if_neg other, if_pos rfl]
  simp

/-- No call of `ST_DWithin` begins among the tokens. -/
def IsSilent (tokens : List Token) : Prop := .word "ST_DWithin" ∉ tokens

instance (tokens : List Token) : Decidable (IsSilent tokens) := inferInstanceAs (Decidable (¬ _))

/-- Inside of parentheses the tokens are a part of an argument in which no call begins. -/
structure IsInner (tokens : List Token) : Prop where
  nested : IsNested tokens
  silent : IsSilent tokens

def Token.isParenthesis (token : Token) : Bool := token == .word "(" || token == .word ")"

theorem IsInner.of_words {tokens : List Token}
    (plain : ∀ token ∈ tokens, token.isParenthesis = false) (silent : IsSilent tokens) :
    IsInner tokens := by
  refine ⟨?_, silent⟩
  clear silent
  induction tokens with
  | nil => exact .nil
  | cons token rest ih =>
    obtain ⟨first, others⟩ := List.forall_mem_cons.mp plain
    simp only [Token.isParenthesis, Bool.or_eq_false_iff, beq_eq_false_iff_ne] at first
    exact .cons first.1 first.2 (ih others)

/-! ## Properties of all parts -/

/-- What holds of names and of placeholders, and of any parts one after the other of which it holds. -/
structure IsModular (P : List Token → Prop) : Prop where
  nil : P []
  append : ∀ {first rest}, P first → P rest → P (first ++ rest)
  name : ∀ identifier, P [.name identifier]
  placeholder : ∀ number, P [.word (placeholder number)]

theorem isModular_silent : IsModular IsSilent where
  nil := List.not_mem_nil
  append first rest member := (List.mem_append.mp member).elim first rest
  name identifier := by simp [IsSilent]
  placeholder number member := by
    have same := Token.word.inj (List.mem_singleton.mp member)
    exact placeholder_ne (by decide) number _ same.symm

theorem isModular_inner : IsModular IsInner where
  nil := ⟨.nil, isModular_silent.nil⟩
  append first rest :=
    ⟨first.nested.append rest.nested, isModular_silent.append first.silent rest.silent⟩
  name identifier := .of_words (List.forall_mem_singleton.mpr rfl) (isModular_silent.name identifier)
  placeholder number := by
    refine .of_words (List.forall_mem_singleton.mpr ?_) (isModular_silent.placeholder number)
    have notOpening : placeholder number ≠ "(" := placeholder_ne (by decide) number []
    have notClosing : placeholder number ≠ ")" := placeholder_ne (by decide) number []
    simp [Token.isParenthesis, notOpening, notClosing]

def Throughout (P : List Token → Prop) (fragments : List Fragment) : Prop :=
  ∀ count, P (tokensFrom count fragments)

section Parts

variable {P : List Token → Prop} (modular : IsModular P)

include modular

theorem IsModular.text {text : String} {rest : List Fragment} (holds : P (textTokens text))
    (others : Throughout P rest) : Throughout P (.text text :: rest) := fun count =>
  modular.append holds (others count)

theorem IsModular.cons_name (identifier : Text) {rest : List Fragment} (others : Throughout P rest) :
    Throughout P (.name identifier :: rest) := fun count =>
  modular.append (modular.name identifier) (others count)

theorem IsModular.cons_value (value : FilterValue) {rest : List Fragment}
    (others : Throughout P rest) : Throughout P (.value value :: rest) := fun count =>
  modular.append (modular.placeholder (count + 1)) (others (count + 1))

theorem IsModular.fragments_nil : Throughout P [] := fun _ => modular.nil

theorem IsModular.fragments_append {first rest : List Fragment} (holds : Throughout P first)
    (others : Throughout P rest) : Throughout P (first ++ rest) := by
  intro count
  rw [tokensFrom_append]
  exact modular.append (holds count) (others _)

theorem IsModular.joined {separator : String} (between : P (textTokens separator)) :
    ∀ parts : List (List Fragment), (∀ part ∈ parts, Throughout P part) →
      Throughout P (Sql.joined separator parts)
  | [], _ => modular.fragments_nil
  | [last], holds => holds last List.mem_cons_self
  | part :: next :: rest, holds => by
    obtain ⟨first, others⟩ := List.forall_mem_cons.mp holds
    exact modular.fragments_append first
      (modular.text between (IsModular.joined between (next :: rest) others))

theorem IsModular.joined_map {α : Type} {write : α → List Fragment}
    (each : ∀ a, Throughout P (write a)) {separator : String}
    (between : P (textTokens separator)) (items : List α) :
    Throughout P (Sql.joined separator (items.map write)) :=
  modular.joined between _ (List.forall_mem_map.mpr fun a _ => each a)

end Parts

/-! ## Targets -/

theorem isInner_comma : IsInner (textTokens ", ") := by
  rw [comma_tokens]
  exact .of_words (by decide) (by decide)

theorem IsInner.parenthesized {inner : List Token} (isInner : IsInner inner) :
    IsInner (.word "(" :: inner ++ [.word ")"]) := by
  refine ⟨isInner.nested.parenthesized, ?_⟩
  have opening : IsSilent [.word "("] := by decide
  have closing : IsSilent [.word ")"] := by decide
  exact isModular_silent.append (isModular_silent.append opening isInner.silent) closing

theorem Test.isInner (t : Test) : Throughout IsInner t.fragments := by
  cases t with
  | compare column comparison value =>
    have operator : IsInner (textTokens (" " ++ comparison.symbol ++ " ")) := by
      rw [comparison_tokens]
      exact .of_words (by cases comparison <;> decide) (by cases comparison <;> decide)
    exact isModular_inner.cons_name column
      (isModular_inner.text operator (isModular_inner.cons_value value isModular_inner.fragments_nil))
  | member column values =>
    intro count
    have opening : textTokens " IN (" = [.word "IN", .word "("] := by decide
    have word : IsInner [.word "IN"] := .of_words (by decide) (by decide)
    have listed : Throughout IsInner
        (joined ", " (values.map fun value => [.value (.one value)])) :=
      isModular_inner.joined_map
        (fun value => isModular_inner.cons_value (.one value) isModular_inner.fragments_nil)
        isInner_comma values
    have written : tokensFrom count (Test.member column values).fragments =
        [.name column] ++ ([.word "IN"] ++ (.word "(" :: tokensFrom count
          (joined ", " (values.map fun value => [.value (.one value)])) ++ [.word ")"])) := by
      simp only [Test.fragments, List.cons_append, tokensFrom, opening, tokensFrom_append,
        closing_tokens, List.nil_append, List.append_nil]
    rw [written]
    exact isModular_inner.append (isModular_inner.name column)
      (isModular_inner.append word (listed count).parenthesized)

theorem Union.isInner (u : Union) : Throughout IsInner u.fragments := by
  have selection : IsInner (textTokens ("SELECT ST_Union_Agg(" ++ u.frame.column ++ ") AS " ++
      u.frame.targetName ++ " FROM ")) := by
    have words : IsInner [.word "SELECT", .word "ST_Union_Agg"] := .of_words (by decide) (by decide)
    have column : IsInner [.word u.frame.column] :=
      .of_words (by cases u.frame <;> decide) (by cases u.frame <;> decide)
    have name : IsInner [.word "AS", .word u.frame.targetName, .word "FROM"] :=
      .of_words (by cases u.frame <;> decide) (by cases u.frame <;> decide)
    rw [union_tokens]
    exact isModular_inner.append words (isModular_inner.append column.parenthesized name)
  have whereWord : IsInner (textTokens " WHERE ") := by
    have tokens : textTokens " WHERE " = [.word "WHERE"] := by decide
    rw [tokens]
    exact .of_words (by decide) (by decide)
  have andWord : IsInner (textTokens " AND ") := by
    rw [and_tokens]
    exact .of_words (by decide) (by decide)
  refine isModular_inner.text selection (isModular_inner.cons_name u.table ?_)
  split
  · exact isModular_inner.fragments_nil
  · exact isModular_inner.text whereWord (isModular_inner.joined_map Test.isInner andWord u.tests)

/-! ## Calls of the fragments -/

theorem callsOf_append_of_silent {first : List Token} (silent : IsSilent first) (rest : List Token) :
    callsOf "ST_DWithin" (first ++ rest) = callsOf "ST_DWithin" rest := by
  induction first with
  | nil => rfl
  | cons token more ih =>
    obtain ⟨other, others⟩ := not_or.mp (mt List.mem_cons.mpr silent)
    rw [List.cons_append, callsOf, if_neg (Ne.symm other), ih others]

/-- The target stands in parentheses of its own, so its commas are not those of the call. -/
theorem arguments?_near (frame : Frame) {target : List Token} (nested : IsNested target)
    (number : Nat) (rest : List Token) :
    arguments? (.word "(" :: .word frame.column :: .word "," :: .word "(" ::
        (target ++ .word ")" :: .word "," :: .word (placeholder number) :: .word ")" :: rest)) =
      some [[.word frame.column], .word "(" :: target ++ [.word ")"],
        [.word (placeholder number)]] := by
  have plain : (.word frame.column : Token) ≠ .word "(" ∧ (.word frame.column : Token) ≠ .word ")" ∧
      (.word frame.column : Token) ≠ .word "," := by
    cases frame <;> decide
  have notOpening : placeholder number ≠ "(" := placeholder_ne (by decide) number []
  have notClosing : placeholder number ≠ ")" := placeholder_ne (by decide) number []
  have notComma : placeholder number ≠ "," := placeholder_ne (by decide) number []
  have marks : (.word ")" : Token) ≠ .word "(" ∧ (.word "," : Token) ≠ .word "(" ∧
      (.word "," : Token) ≠ .word ")" := by decide
  simp only [arguments?, after?_word, Option.bind_some, argumentsFrom, plain, marks, if_false,
    if_true, and_true, List.nil_append]
  rw [nested]
  simp [argumentsFrom, notOpening, notClosing, notComma, marks]

/-- The parameters that the calls among the fragments are bound to, whatever follows them. -/
def Binds (parameters : List FilterValue) (count : Nat) (fragments : List Fragment)
    (bound : List (Option FilterValue)) : Prop :=
  ∀ rest, (callsOf "ST_DWithin" (tokensFrom count fragments ++ rest)).map
      (thirdParameter parameters) =
    bound ++ (callsOf "ST_DWithin" rest).map (thirdParameter parameters)

section Binds

variable {parameters : List FilterValue} {count : Nat}

theorem Binds.of_silent {fragments : List Fragment} (silent : Throughout IsSilent fragments) :
    Binds parameters count fragments [] := by
  intro rest
  rw [callsOf_append_of_silent (silent count), List.nil_append]

theorem Binds.append {first rest : List Fragment} {bound boundRest : List (Option FilterValue)}
    (binds : Binds parameters count first bound)
    (bindsRest : Binds parameters (count + (values first).length) rest boundRest) :
    Binds parameters count (first ++ rest) (bound ++ boundRest) := by
  intro tokens
  rw [tokensFrom_append, List.append_assoc, binds, bindsRest, List.append_assoc]

theorem Binds.cons_text {text : String} {rest : List Fragment} {bound : List (Option FilterValue)}
    (silent : IsSilent (textTokens text)) (binds : Binds parameters count rest bound) :
    Binds parameters count (.text text :: rest) bound := by
  intro tokens
  rw [tokensFrom, List.append_assoc, callsOf_append_of_silent silent, binds]

theorem binds_near {target : Union} {distance : Number}
    (supplied : Supplied parameters count (values (Place.near target distance).fragments)) :
    Binds parameters count (Place.near target distance).fragments
      [some (.one (.num distance))] := by
  intro rest
  simp only [Place.fragments, List.cons_append, values, values_append] at supplied
  obtain ⟨nested, silent⟩ := target.isInner count
  have chosen := supplied.right.selected
  have opening : IsSilent [.word "(", .word target.frame.column, .word ",", .word "("] := by
    cases target.frame <;> decide
  have middle : IsSilent [.word ")", .word ","] := by decide
  have closing : IsSilent [.word ")"] := by decide
  have others := isModular_silent.append opening (isModular_silent.append silent
    (isModular_silent.append middle (isModular_silent.append (isModular_silent.placeholder
      (count + (values target.fragments).length + 1)) closing)))
  -- Behind the name of the function no other call begins, not even within the target.
  have passed := callsOf_append_of_silent others rest
  simp only [List.append_assoc, List.cons_append, List.nil_append] at passed
  rw [tokensFrom_near, callsOf, if_pos rfl, arguments?_near target.frame nested, passed]
  simp [thirdParameter, parameterOf, number_placeholder, chosen]

theorem related_silent (relation : Relation) (target : Union) :
    Throughout IsSilent (Place.related relation target).fragments := by
  intro count
  have opening : IsSilent [.word relation.function, .word "(", .word target.frame.column,
      .word ",", .word "("] := by
    cases relation <;> cases target.frame <;> decide
  have closing : IsSilent [.word ")", .word ")"] := by decide
  have silent := isModular_silent.append opening
    (isModular_silent.append (target.isInner count).silent closing)
  have written := tokensFrom_related relation target count []
  rw [List.append_nil] at written
  rw [written]
  simpa only [List.cons_append, List.nil_append] using silent

theorem binds_place {s : SpatialFilter}
    (supplied : Supplied parameters count (values s.place.fragments)) :
    Binds parameters count s.place.fragments (asParameters s.reach?.toList) := by
  unfold SpatialFilter.reach?
  by_cases metric : s.op = .withinDistance
  · rw [if_pos metric]
    cases given : s.distance with
    | some distance =>
      rw [SpatialFilter.place_near metric given] at supplied ⊢
      exact binds_near supplied
    | none =>
      have place : s.place = .related .intersects s.union := by
        simp only [SpatialFilter.place, metric, given]
        rfl
      rw [place]
      exact .of_silent (related_silent _ _)
  · rw [if_neg metric, SpatialFilter.place_related metric]
    exact .of_silent (related_silent _ _)

theorem asParameters_reaches (s : SpatialFilter) (rest : List SpatialFilter) :
    asParameters ((s :: rest).filterMap SpatialFilter.reach?) =
      asParameters s.reach?.toList ++ asParameters (rest.filterMap SpatialFilter.reach?) := by
  rw [List.filterMap_cons]
  cases s.reach? <;> rfl

theorem binds_joined {separator : String} (silent : IsSilent (textTokens separator)) :
    ∀ (filters : List SpatialFilter) (count : Nat),
      Supplied parameters count ((filters.map fun s => s.place.fragments).flatMap values) →
      Binds parameters count (joined separator (filters.map fun s => s.place.fragments))
        (asParameters (filters.filterMap SpatialFilter.reach?))
  | [], _, _ => .of_silent isModular_silent.fragments_nil
  | [last], count, supplied => by
    rw [asParameters_reaches, List.filterMap_nil]
    have binds := (binds_place supplied.left).append (.of_silent isModular_silent.fragments_nil)
    rwa [List.append_nil] at binds
  | s :: next :: rest, count, supplied => by
    rw [asParameters_reaches]
    exact (binds_place supplied.left).append
      (.cons_text silent (binds_joined silent (next :: rest) _ supplied.right))

theorem binds_group (logic : Logic) (filters : List SpatialFilter)
    (supplied : Supplied parameters count
      (values (Group.fragments Place.fragments ⟨logic, filters.map SpatialFilter.place⟩))) :
    Binds parameters count (Group.fragments Place.fragments ⟨logic, filters.map SpatialFilter.place⟩)
      (asParameters (filters.filterMap SpatialFilter.reach?)) := by
  rw [values_group, List.map_map] at supplied
  have separator : IsSilent (textTokens (" " ++ logicWord logic ++ " ")) := by
    cases logic <;> decide
  have binds := binds_joined separator filters count supplied
  rcases filters with _ | ⟨only, _ | ⟨next, rest⟩⟩
  · exact binds
  · exact binds
  · have opening : IsSilent (textTokens "(") := by decide
    have closing : Throughout IsSilent [.text ")"] :=
      isModular_silent.text (by decide) isModular_silent.fragments_nil
    have whole := Binds.cons_text opening (binds.append (.of_silent closing))
    simpa [Group.fragments, Function.comp_def] using whole

/-- Where the first group has no call, it does not matter which of both groups is left out. -/
theorem binds_groups {first second : List Fragment} {bound : List (Option FilterValue)}
    (silent : Throughout IsSilent first)
    (binds : Binds parameters (count + (values first).length) second bound) :
    Binds parameters count
      (joined " AND " ([first, second].filter fun group => !group.isEmpty)) bound := by
  have andWord : IsSilent (textTokens " AND ") := by
    rw [and_tokens]
    decide
  cases first with
  | nil => cases second <;> exact binds
  | cons fragment more =>
    cases second with
    | nil =>
      have without : Binds parameters count (fragment :: more) [] := .of_silent silent
      have whole := without.append binds
      rwa [List.append_nil] at whole
    | cons other others => exact (Binds.of_silent silent).append (.cons_text andWord binds)

theorem Binds.clause {word : String} (silent : IsSilent (textTokens ("\n" ++ word ++ " ")))
    {body : List Fragment} {bound : List (Option FilterValue)}
    (binds : Binds parameters count body bound) : Binds parameters count (clause word body) bound := by
  cases body with
  | nil => exact binds
  | cons fragment more => exact .cons_text silent binds

end Binds

/-! ## Parts without a call -/

theorem IsModular.clause {P : List Token → Prop} (modular : IsModular P) {word : String}
    (holds : P (textTokens ("\n" ++ word ++ " "))) {body : List Fragment}
    (others : Throughout P body) : Throughout P (clause word body) := by
  cases body with
  | nil => exact others
  | cons fragment more => exact modular.text holds others

theorem silent_text {text : String} (silent : IsSilent (textTokens text)) :
    Throughout IsSilent [.text text] :=
  isModular_silent.text silent isModular_silent.fragments_nil

theorem silent_name (identifier : Text) : Throughout IsSilent [.name identifier] :=
  isModular_silent.cons_name identifier isModular_silent.fragments_nil

theorem silent_comma : IsSilent (textTokens ", ") := isInner_comma.silent

theorem silent_numeral {cs : List Char} (numeral : ∀ c ∈ cs, Decimal.isNumeral c = true) :
    IsSilent (textTokens (String.ofList cs)) := fun member =>
  numeral_word_ne numeral member (by decide) _ rfl

theorem silent_geometry (tolerance : Number) : IsSilent (textTokens (geometryText tolerance)) := by
  rcases geometry_tokens tolerance with same | same <;> rw [same]
  · decide
  · have written := silent_numeral (Decimal.isNumeral_of_mem_chars tolerance.toFloat)
    exact isModular_silent.append (isModular_silent.append (by decide) written) (by decide)

theorem Output.silent (o : Output) : Throughout IsSilent o.fragments := by
  cases o with
  | column name => exact silent_name name
  | attributes => exact silent_text (by decide)
  | geometry tolerance => exact silent_text (silent_geometry tolerance)
  | distance target =>
    have target : Throughout IsSilent target.fragments := fun count => (target.isInner count).silent
    exact isModular_silent.text (by decide)
      (isModular_silent.fragments_append target (silent_text (by decide)))
  | metric op argument name =>
    have function : IsSilent (textTokens (metricFunction op ++ "(")) := by cases op <;> decide
    have ending : Throughout IsSilent [.text ") AS ", .name name] :=
      isModular_silent.text (by decide) (silent_name name)
    refine isModular_silent.text function ?_
    cases argument with
    | rows => exact isModular_silent.text (by decide) ending
    | one => exact isModular_silent.text (by decide) ending
    | column name => exact isModular_silent.cons_name name ending

theorem Select.source_silent (s : Select) : Throughout IsSilent s.source := by
  have outputs := isModular_silent.joined_map Output.silent silent_comma s.outputs
  exact isModular_silent.text (by decide) (isModular_silent.fragments_append outputs
    (isModular_silent.text (by decide) (silent_name s.table)))

theorem order_silent (order : Option Order) :
    Throughout IsSilent (order.elim [] Order.fragments) := by
  rcases order with _ | ⟨name, direction⟩ | _
  · exact isModular_silent.fragments_nil
  · have direction : IsSilent (textTokens (" " ++ directionWord direction)) := by
      cases direction <;> decide
    exact isModular_silent.cons_name name (silent_text direction)
  · exact silent_text (by decide)

theorem Select.later_silent (s : Select) : Throughout IsSilent s.later := by
  have grouping : Throughout IsSilent (s.groupBy.elim [] groupFragments) := by
    cases s.groupBy with
    | none => exact isModular_silent.fragments_nil
    | some columns =>
      exact isModular_silent.text (by decide)
        (isModular_silent.joined_map silent_name silent_comma columns)
  have limiting : Throughout IsSilent (s.limit.elim [] fun limit =>
      [.text (String.ofList (Number.intChars limit))]) := by
    cases s.limit with
    | none => exact isModular_silent.fragments_nil
    | some limit => exact silent_text (silent_numeral (Number.isNumeral_of_mem_intChars limit))
  exact isModular_silent.fragments_append grouping (isModular_silent.fragments_append
    (isModular_silent.clause (by decide) (order_silent s.order))
    (isModular_silent.clause (by decide) limiting))

theorem tests_silent (g : Group Test) : Throughout IsSilent (g.fragments Test.fragments) := by
  obtain ⟨logic, tests⟩ := g
  have each (t : Test) : Throughout IsSilent t.fragments := fun count => (t.isInner count).silent
  have separator : IsSilent (textTokens (" " ++ logicWord logic ++ " ")) := by
    cases logic <;> decide
  rcases tests with _ | ⟨only, _ | ⟨next, rest⟩⟩
  · exact isModular_silent.fragments_nil
  · exact each only
  · exact isModular_silent.fragments_append
      (isModular_silent.text (by decide) (isModular_silent.joined_map each separator _))
      (silent_text (by decide))

/-! ## The calls of a statement -/

/-- A nearest filter is no condition, but neither does it ask for a distance. -/
theorem reaches_places (q : Query) : q.places.filterMap SpatialFilter.reach? = q.reaches := by
  rw [Query.places, Query.reaches, List.filterMap_filter]
  refine List.filterMap_congr fun s _ => ?_
  cases nearest : s.isNearest with
  | false => rfl
  | true =>
    have op : s.op = .nearest := by simpa [SpatialFilter.isNearest] using nearest
    simp [SpatialFilter.reach?, op]

theorem boundDistances_statement (q : Query) (tolerance : Number) :
    boundDistances (q.statement tolerance).written = some (asParameters q.reaches) := by
  have supplied := where_supplied (q.statement tolerance)
  rw [statement_tests, statement_places] at supplied
  -- All calls stand in the condition, behind its tests.
  have condition := binds_groups (tests_silent q.attributeGroup)
    (binds_group (q.spatialLogic.getD .and) q.places supplied.right)
  have whereWord : IsSilent (textTokens ("\n" ++ "WHERE" ++ " ")) := by decide
  have behind := (condition.clause whereWord).append
    (.of_silent (q.statement tolerance).later_silent)
  rw [List.append_nil, reaches_places, ← Nat.zero_add (values _).length] at behind
  have binds : Binds (q.statement tolerance).written.values 0 (q.statement tolerance).fragments
      (asParameters q.reaches) := by
    rw [Select.fragments_eq, statement_tests, statement_places]
    exact (Binds.of_silent (q.statement tolerance).source_silent).append behind
  have calls := binds []
  simp only [List.append_nil, callsOf, List.map_nil] at calls
  rw [boundDistances, (q.statement tolerance).scan_written, Option.map_some,
    tokens_piecesFrom _ (q.statement tolerance).spaced, calls]

/-- Neither a name in quotes nor what is nested in an argument is taken for a call or for its end. -/
example (first second : FilterValue) :
    boundDistances ⟨"ST_DWithin(a, (SELECT f(b, $1) FROM \"ST_DWithin(\"), $2)", [first, second]⟩ =
      some [some second] := by
  rfl

end Sql

end SpatialQuery
