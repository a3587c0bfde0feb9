import SpatialQuery.Proofs.Sql.Reading
import SpatialQuery.Proofs.Sql.Tokens

/-!
# Where the condition stands

The condition of a statement is found behind the outputs and the table, and it ends before the later
clauses.  No output hides a WHERE of its own outside of parentheses: the target whose distance is put
out has its condition two parentheses deep.
-/

set_option autoImplicit false

namespace SpatialQuery.Sql

/-- From the first depth to the second no condition starts outside of parentheses. -/
def Passes (start finish : Nat) (tokens : List Token) : Prop :=
  ∀ rest, afterWhere start (tokens ++ rest) = afterWhere finish rest

theorem Passes.nil (depth : Nat) : Passes depth depth [] := fun _ => rfl

theorem Passes.append {start middle finish : Nat} {first rest : List Token}
    (passes : Passes start middle first) (passesRest : Passes middle finish rest) :
    Passes start finish (first ++ rest) := by
  intro tokens
  rw [List.append_assoc, passes, passesRest]

theorem Passes.name {start finish : Nat} {tokens : List Token} (passes : Passes start finish tokens)
    (identifier : Text) : Passes start finish (.name identifier :: tokens) := passes

def Token.isQuiet (token : Token) : Bool :=
  token != .word "(" && token != .word ")" && token != .word "WHERE"

theorem Passes.quiet (depth : Nat) {tokens : List Token}
    (quiet : ∀ token ∈ tokens, token.isQuiet = true) : Passes depth depth tokens := by
  intro rest
  induction tokens with
  | nil => rfl
  | cons token more ih =>
    obtain ⟨first, others⟩ := List.forall_mem_cons.mp quiet
    cases token with
    | name identifier => exact ih others
    | word word =>
      simp only [Token.isQuiet, Bool.and_eq_true, bne_iff_ne, ne_eq, Token.word.injEq] at first
      obtain ⟨⟨notOpening, notClosing⟩, notWhere⟩ := first
      simp only [List.cons_append, afterWhere, if_neg notOpening, if_neg notClosing, notWhere,
        false_and, if_false]
      exact ih others

theorem placeholder_ne {c : Char} (differs : c ≠ '$') (number : Nat) (cs : List Char) :
    placeholder number ≠ Text.ofChars (c :: cs) := by
  intro same
  simp only [placeholder, Text.ofChars, List.map_cons, Text.mk.injEq, List.cons.injEq,
    Mark.char.injEq] at same
  exact differs same.1.symm

theorem placeholder_quiet (number : Nat) : Token.isQuiet (.word (placeholder number)) = true := by
  have notOpening : placeholder number ≠ "(" := placeholder_ne (by decide) number []
  have notClosing : placeholder number ≠ ")" := placeholder_ne (by decide) number []
  have notWhere : placeholder number ≠ "WHERE" := placeholder_ne (by decide) number _
  simp [Token.isQuiet, notOpening, notClosing, notWhere]

theorem numeral_word_ne {cs : List Char} (numeral : ∀ c ∈ cs, Decimal.isNumeral c = true)
    {word : Text} (member : .word word ∈ textTokens (String.ofList cs)) {c : Char}
    (strange : Decimal.isNumeral c = false) (more : List Char) : word ≠ Text.ofChars (c :: more) := by
  rintro rfl
  obtain ⟨marks, same, within⟩ := mem_of_mem_lex (List.mem_filter.mp member).1
  cases same
  have inText := within (.char c) List.mem_cons_self
  simp only [textMarks, Text.ofString, Text.ofChars, String.toList_ofList, List.mem_map] at inText
  obtain ⟨d, inNumeral, same⟩ := inText
  cases same
  rw [numeral c inNumeral] at strange
  cases strange

theorem numeral_quiet {cs : List Char} (numeral : ∀ c ∈ cs, Decimal.isNumeral c = true) :
    ∀ token ∈ textTokens (String.ofList cs), token.isQuiet = true := by
  intro token member
  obtain ⟨word, rfl, _⟩ := mem_of_mem_lex (List.mem_filter.mp member).1
  have notOpening : (⟨word⟩ : Text) ≠ "(" := numeral_word_ne numeral member (by decide) []
  have notClosing : (⟨word⟩ : Text) ≠ ")" := numeral_word_ne numeral member (by decide) []
  have notWhere : (⟨word⟩ : Text) ≠ "WHERE" := numeral_word_ne numeral member (by decide) _
  simp [Token.isQuiet, notOpening, notClosing, notWhere]

theorem textTokens_append {first second : String}
    (apart : endsSoftly first = true ∨ opensSoftly second = true) :
    textTokens (first ++ second) = textTokens first ++ textTokens second := by
  have marks : marksOf (textMarks (first ++ second)) =
      marksOf (textMarks first) ++ marksOf (textMarks second) := by
    rw [textMarks_append]
    exact List.map_append
  rw [textTokens, marks]
  refine tokens_marks_append _ _ fun last isLast => ?_
  rcases apart with ends | opens
  · have soft : isSoft last = true := by simpa [endsSoftly, isLast] using ends
    exact apart_of_soft soft _
  · intro next headed
    refine isGlued_of_soft_right ?_
    cases marks : textMarks second with
    | nil => simp [marks, marksOf] at headed
    | cons m more =>
      have same : m = next := by simpa [marks, marksOf] using headed
      simpa [opensSoftly, marks, ← same] using opens

/-! ## Fragments without a condition -/

/-- However the placeholders are counted, no condition starts here outside of parentheses. -/
def Skips (start finish : Nat) (fragments : List Fragment) : Prop :=
  ∀ count, Passes start finish (tokensFrom count fragments)

theorem Skips.nil (depth : Nat) : Skips depth depth [] := fun _ => Passes.nil depth

theorem Skips.text {start middle finish : Nat} {text : String} {rest : List Fragment}
    (passes : Passes start middle (textTokens text)) (skips : Skips middle finish rest) :
    Skips start finish (.text text :: rest) := fun count => passes.append (skips count)

theorem Skips.name {start finish : Nat} {rest : List Fragment} (skips : Skips start finish rest)
    (identifier : Text) : Skips start finish (.name identifier :: rest) := fun count =>
  (skips count).name identifier

theorem Skips.value {start finish : Nat} {rest : List Fragment} (skips : Skips start finish rest)
    (value : FilterValue) : Skips start finish (.value value :: rest) := fun count =>
  (Passes.quiet start (List.forall_mem_singleton.mpr (placeholder_quiet (count + 1)))).append
    (skips (count + 1))

theorem Skips.append {start middle finish : Nat} {first rest : List Fragment}
    (skips : Skips start middle first) (skipsRest : Skips middle finish rest) :
    Skips start finish (first ++ rest) := by
  intro count
  rw [tokensFrom_append]
  exact (skips count).append (skipsRest _)

theorem Skips.joined {depth : Nat} {separator : String}
    (quiet : ∀ token ∈ textTokens separator, token.isQuiet = true) :
    ∀ parts : List (List Fragment), (∀ part ∈ parts, Skips depth depth part) →
      Skips depth depth (joined separator parts)
  | [], _ => Skips.nil depth
  | [last], skips => skips last (by simp)
  | part :: next :: rest, skips =>
    have others := joined quiet (next :: rest) fun p member => skips p (List.mem_cons_of_mem _ member)
    (skips part (by simp)).append (.text (Passes.quiet depth quiet) others)

theorem Skips.joined_map {α : Type} {depth : Nat} {write : α → List Fragment}
    (each : ∀ a, Skips depth depth (write a)) {separator : String}
    (quiet : ∀ token ∈ textTokens separator, token.isQuiet = true) (items : List α) :
    Skips depth depth (Sql.joined separator (items.map write)) := by
  refine joined quiet _ fun part member => ?_
  obtain ⟨a, _, rfl⟩ := List.mem_map.mp member
  exact each a

theorem name_skips (depth : Nat) (identifier : Text) : Skips depth depth [.name identifier] :=
  .name (Skips.nil depth) identifier

theorem value_skips (depth : Nat) (value : FilterValue) : Skips depth depth [.value value] :=
  .value (Skips.nil depth) value

theorem comma_quiet : ∀ token ∈ textTokens ", ", token.isQuiet = true := by
  rw [comma_tokens]
  decide

theorem Test.skips (t : Test) : Skips 2 2 t.fragments := by
  cases t with
  | compare column comparison value =>
    have quiet : ∀ token ∈ textTokens (" " ++ comparison.symbol ++ " "), token.isQuiet = true := by
      cases comparison <;> decide
    exact .name (.text (Passes.quiet 2 quiet) (value_skips 2 value)) column
  | member column values =>
    have opening : Passes 2 3 (textTokens " IN (") := fun _ => rfl
    have closing : Passes 3 2 (textTokens ")") := fun _ => rfl
    have listed : Skips 3 3 (joined ", " (values.map fun value => [.value (.one value)])) :=
      Skips.joined_map (fun value => value_skips 3 (.one value)) comma_quiet values
    exact .name (.text opening (listed.append (.text closing (Skips.nil 2)))) column

theorem Union.skips (u : Union) : Skips 2 2 u.fragments := by
  have opening : Passes 2 2 (textTokens ("SELECT ST_Union_Agg(" ++ u.frame.column ++ ") AS " ++
      u.frame.targetName ++ " FROM ")) := by
    cases u.frame <;> exact fun _ => rfl
  have whereWord : Passes 2 2 (textTokens " WHERE ") := fun _ => rfl
  have quiet : ∀ token ∈ textTokens " AND ", token.isQuiet = true := by
    rw [and_tokens]
    decide
  refine .text opening (.name ?_ u.table)
  split
  · exact Skips.nil 2
  · exact .text whereWord (Skips.joined_map Test.skips quiet u.tests)

theorem geometry_tokens (tolerance : Number) :
    textTokens (geometryText tolerance) =
      textTokens ("ST_AsGeoJSON(" ++ Catalog.geographicColumn ++ ") AS geometry") ∨
    textTokens (geometryText tolerance) =
      textTokens ("ST_AsGeoJSON(" ++ ("ST_SimplifyPreserveTopology(" ++
        Catalog.geographicColumn ++ ", ")) ++
      textTokens (Decimal.plainLayout.text tolerance.toFloat) ++
      textTokens (")" ++ ") AS geometry") := by
  unfold geometryText
  dsimp only
  split
  · right
    rw [← textTokens_append (Or.inl (by decide)), ← textTokens_append (Or.inr (by decide))]
    simp only [String.append_assoc]
  · exact Or.inl rfl

theorem geometryText_passes (tolerance : Number) :
    Passes 0 0 (textTokens (geometryText tolerance)) := by
  rcases geometry_tokens tolerance with same | same <;> rw [same]
  · exact fun _ => rfl
  · have opening : Passes 0 2 (textTokens ("ST_AsGeoJSON(" ++ ("ST_SimplifyPreserveTopology(" ++
        Catalog.geographicColumn ++ ", "))) := fun _ => rfl
    have written : Passes 2 2 (textTokens (Decimal.plainLayout.text tolerance.toFloat)) :=
      Passes.quiet 2 (numeral_quiet (Decimal.isNumeral_of_mem_chars tolerance.toFloat))
    have closing : Passes 2 0 (textTokens (")" ++ ") AS geometry")) := fun _ => rfl
    exact (opening.append written).append closing

theorem Output.skips (o : Output) : Skips 0 0 o.fragments := by
  cases o with
  | column name => exact name_skips 0 name
  | attributes => exact .text (fun _ => rfl) (Skips.nil 0)
  | geometry tolerance => exact .text (geometryText_passes tolerance) (Skips.nil 0)
  | distance target =>
    have opening : Passes 0 2 (textTokens ("ST_Distance(" ++ Catalog.projectedColumn ++ ", (")) :=
      fun _ => rfl
    have closing : Passes 2 0 (textTokens ")) AS distance") := fun _ => rfl
    exact .text opening (target.skips.append (.text closing (Skips.nil 0)))
  | metric op argument name =>
    have opening : Passes 0 1 (textTokens (metricFunction op ++ "(")) := by
      cases op <;> exact fun _ => rfl
    have closing : Passes 1 0 (textTokens ") AS ") := fun _ => rfl
    have ending : Skips 1 0 [.text ") AS ", .name name] := .text closing (name_skips 0 name)
    refine .text opening ?_
    cases argument with
    | rows => exact .text (fun _ => rfl) ending
    | one => exact .text (fun _ => rfl) ending
    | column name => exact .name ending name

/-! ## Around the condition -/

def Select.source (s : Select) : List Fragment :=
  .text "SELECT " :: joined ", " (s.outputs.map Output.fragments) ++
    .text "\nFROM " :: [.name s.table]

def Select.later (s : Select) : List Fragment :=
  s.groupBy.elim [] groupFragments ++
    (clause "ORDER BY" (s.order.elim [] Order.fragments) ++
      clause "LIMIT" (s.limit.elim [] fun limit =>
        [.text (String.ofList (Number.intChars limit))]))

theorem Select.fragments_eq (s : Select) :
    s.fragments = s.source ++ (clause "WHERE" (whereFragments s.tests s.places) ++ s.later) := by
  simp [Select.fragments, Select.source, Select.later]

theorem Select.source_skips (s : Select) : Skips 0 0 s.source := by
  have outputs : Skips 0 0 (joined ", " (s.outputs.map Output.fragments)) :=
    Skips.joined_map Output.skips comma_quiet s.outputs
  exact .text (fun _ => rfl) (outputs.append (.text (fun _ => rfl) (name_skips 0 s.table)))

/-- Nothing, or a clause that stands behind the condition. -/
structure IsLater (fragments : List Fragment) : Prop where
  skips : Skips 0 0 fragments
  starts : ∀ count, startsLater (tokensFrom count fragments) = true

theorem IsLater.nil : IsLater [] := ⟨Skips.nil 0, fun _ => rfl⟩

theorem IsLater.append {first rest : List Fragment} (later : IsLater first)
    (laterRest : IsLater rest) : IsLater (first ++ rest) := by
  refine ⟨later.skips.append laterRest.skips, fun count => ?_⟩
  have starts := later.starts count
  rw [tokensFrom_append]
  cases tokens : tokensFrom count first with
  | nil => exact laterRest.starts _
  | cons token more =>
    rw [tokens] at starts
    cases token <;> exact starts

theorem IsLater.clause {word : String} {body : List Fragment}
    (passes : Passes 0 0 (textTokens ("\n" ++ word ++ " ")))
    (starts : ∀ rest, startsLater (textTokens ("\n" ++ word ++ " ") ++ rest) = true)
    (skips : Skips 0 0 body) : IsLater (clause word body) := by
  unfold Sql.clause
  split
  · exact IsLater.nil
  · exact ⟨.text passes skips, fun _ => starts _⟩

theorem groupFragments_isLater (columns : List Text) : IsLater (groupFragments columns) := by
  have names : Skips 0 0 (joined ", " (columns.map fun name => [.name name])) :=
    Skips.joined_map (name_skips 0) comma_quiet columns
  exact ⟨.text (fun _ => rfl) names, fun _ => rfl⟩

theorem order_skips (order : Option Order) : Skips 0 0 (order.elim [] Order.fragments) := by
  rcases order with _ | ⟨name, direction⟩ | _
  · exact Skips.nil 0
  · have passes : Passes 0 0 (textTokens (" " ++ directionWord direction)) := by
      cases direction <;> exact fun _ => rfl
    exact .name (.text passes (Skips.nil 0)) name
  · exact .text (fun _ => rfl) (Skips.nil 0)

theorem limit_skips (limit : Option Int) :
    Skips 0 0 (limit.elim [] fun limit => [.text (String.ofList (Number.intChars limit))]) := by
  cases limit with
  | none => exact Skips.nil 0
  | some limit =>
    have passes := Passes.quiet 0 (numeral_quiet (Number.isNumeral_of_mem_intChars limit))
    exact .text passes (Skips.nil 0)

theorem Select.later_isLater (s : Select) : IsLater s.later := by
  have grouping : IsLater (s.groupBy.elim [] groupFragments) := by
    cases s.groupBy with
    | none => exact IsLater.nil
    | some columns => exact groupFragments_isLater columns
  have ordering : IsLater (clause "ORDER BY" (s.order.elim [] Order.fragments)) :=
    IsLater.clause (fun _ => rfl) (fun _ => rfl) (order_skips s.order)
  have limiting : IsLater (clause "LIMIT" (s.limit.elim [] fun limit =>
      [.text (String.ofList (Number.intChars limit))])) :=
    IsLater.clause (fun _ => rfl) (fun _ => rfl) (limit_skips s.limit)
  exact grouping.append (ordering.append limiting)

theorem ends_of_startsLater {tokens : List Token} (later : startsLater tokens = true) :
    Ends tokens := by
  intro logic
  rcases tokens with _ | ⟨word | identifier, rest⟩
  · rfl
  · have notJoining : word ≠ logicWord logic := by
      rintro rfl
      have absent : laterWords.contains (logicWord logic) = false := by cases logic <;> decide
      rw [startsLater, absent] at later
      cases later
    simp [after?, notJoining]
  · rfl

theorem readWhere_none (s : Select) (unconditional : whereFragments s.tests s.places = []) :
    readWhere (tokensFrom 0 s.fragments) = some none := by
  have skips := s.source_skips.append s.later_isLater.skips
  have nothing := skips 0 []
  rw [List.append_nil] at nothing
  rw [s.fragments_eq, unconditional]
  change readWhere (tokensFrom 0 (s.source ++ s.later)) = some none
  rw [readWhere, nothing]
  rfl

theorem readWhere_some (s : Select) (conditional : whereFragments s.tests s.places ≠ [])
    {c : Condition Atom}
    (reads : ReadsBefore Ends (condition readAtom)
      (tokensFrom (values s.source).length (whereFragments s.tests s.places)) c) :
    readWhere (tokensFrom 0 s.fragments) = some (some c) := by
  have clauseWritten : clause "WHERE" (whereFragments s.tests s.places) =
      .text "\nWHERE " :: whereFragments s.tests s.places := by
    unfold clause
    rw [if_neg (by simpa using conditional)]
    rfl
  have whereTokens : textTokens "\nWHERE " = [.word "WHERE"] := by decide
  have starts := s.later_isLater.starts
    ((values s.source).length + (values (whereFragments s.tests s.places)).length)
  have read := reads _ (ends_of_startsLater starts)
  have found : afterWhere 0 (tokensFrom 0 s.fragments) =
      some (tokensFrom (values s.source).length (whereFragments s.tests s.places) ++ tokensFrom
        ((values s.source).length + (values (whereFragments s.tests s.places)).length) s.later) := by
    rw [s.fragments_eq, tokensFrom_append, s.source_skips 0, clauseWritten, List.cons_append,
      tokensFrom, whereTokens, tokensFrom_append, Nat.zero_add]
    rfl
  simp [readWhere, found, read, starts]

end SpatialQuery.Sql
