import SpatialQuery.Proofs.Decimal.Numeral
import SpatialQuery.Proofs.Sql.Scan
import SpatialQuery.Proofs.Sql.Select

/-!
# Names and values stand apart

Fragments read back from their text only if no two of them run together: a name must not be followed by
a quote, nor a value by a digit, nor a word by a letter.  `Spaced` says that this is so, every part of a
statement is spaced, and the text of spaced fragments is scanned into exactly the names, placeholders
and words that the fragments stand for.
-/

set_option autoImplicit false

namespace SpatialQuery.Sql

/-! ## Fixed text -/

/-- A mark that belongs to no word but its own. -/
def isSoft : Mark → Bool
  | .char c => !(isLetter c || isComparing c || c == '$' || c == '"')
  | .surrogate _ => false

def textMarks (text : String) : List Mark := (Text.ofString text).marks

/-- Fixed text has neither quotes nor dollar signs, and is not empty. -/
def isPlain (text : String) : Bool :=
  !(textMarks text).isEmpty && (textMarks text).all fun m => m != quoteMark && m != .char '$'

def opensSoftly (text : String) : Bool := (textMarks text).head?.any isSoft

def endsSoftly (text : String) : Bool := (textMarks text).getLast?.any isSoft

def isOpening (text : String) : Bool := isPlain text && endsSoftly text

def isClosing (text : String) : Bool := isPlain text && opensSoftly text

def isSeparator (text : String) : Bool := isOpening text && isClosing text

theorem isGlued_of_soft_left {a b : Mark} (soft : isSoft a = true) : isGlued a b = false := by
  cases a with
  | surrogate offset => simp [isSoft] at soft
  | char c =>
    simp only [isSoft, Bool.not_eq_true', Bool.or_eq_false_iff] at soft
    obtain ⟨⟨⟨notLetter, notComparing⟩, notDollar⟩, _⟩ := soft
    cases b <;> simp [isGlued, notLetter, notComparing, notDollar]

theorem isGlued_of_soft_right {a b : Mark} (soft : isSoft b = true) : isGlued a b = false := by
  cases b with
  | surrogate offset => simp [isSoft] at soft
  | char c =>
    simp only [isSoft, Bool.not_eq_true', Bool.or_eq_false_iff] at soft
    obtain ⟨⟨⟨notLetter, notComparing⟩, _⟩, _⟩ := soft
    cases a <;> simp [isGlued, notLetter, notComparing]

theorem quoteMark_not_soft : isSoft quoteMark = false := by decide

theorem quoteMark_not_mem_of_isPlain {text : String} (plain : isPlain text = true) :
    quoteMark ∉ textMarks text := by
  intro member
  simp only [isPlain, Bool.and_eq_true, List.all_eq_true] at plain
  simpa using plain.2 quoteMark member

/-! ## Spaced fragments -/

def Opens : List Fragment → Prop
  | [] => True
  | .text text :: _ => opensSoftly text = true
  | _ :: _ => False

def Spaced : List Fragment → Prop
  | [] => True
  | .text text :: rest => isPlain text = true ∧ (endsSoftly text = true ∨ Opens rest) ∧ Spaced rest
  | _ :: rest => Opens rest ∧ Spaced rest

theorem Opens.append {first rest : List Fragment} (opens : Opens first) (opensRest : Opens rest) :
    Opens (first ++ rest) := by
  cases first with
  | nil => exact opensRest
  | cons fragment more =>
    cases fragment with
    | text text => exact opens
    | name identifier => exact opens
    | value value => exact opens

theorem Spaced.append {first rest : List Fragment} (spaced : Spaced first)
    (spacedRest : Spaced rest) (opens : Opens rest) : Spaced (first ++ rest) := by
  induction first with
  | nil => exact spacedRest
  | cons fragment more ih =>
    cases fragment with
    | text text =>
      obtain ⟨plain, apart, spacedMore⟩ := spaced
      exact ⟨plain, apart.imp_right fun o => o.append opens, ih spacedMore⟩
    | name identifier => exact ⟨spaced.1.append opens, ih spaced.2⟩
    | value value => exact ⟨spaced.1.append opens, ih spaced.2⟩

theorem Spaced.cons_text {text : String} {rest : List Fragment} (opening : isOpening text = true)
    (spaced : Spaced rest) : Spaced (.text text :: rest) := by
  obtain ⟨plain, ends⟩ := Bool.and_eq_true_iff.mp opening
  exact ⟨plain, Or.inl ends, spaced⟩

theorem Spaced.append_closing {text : String} {first : List Fragment} (spaced : Spaced first)
    (closing : isClosing text = true) : Spaced (first ++ [.text text]) := by
  obtain ⟨plain, opens⟩ := Bool.and_eq_true_iff.mp closing
  exact spaced.append ⟨plain, Or.inr trivial, trivial⟩ opens

theorem Spaced.append_separator {text : String} {first rest : List Fragment} (spaced : Spaced first)
    (separates : isSeparator text = true) (spacedRest : Spaced rest) :
    Spaced (first ++ .text text :: rest) := by
  obtain ⟨opening, closing⟩ := Bool.and_eq_true_iff.mp separates
  exact spaced.append (cons_text opening spacedRest) (Bool.and_eq_true_iff.mp closing).2

theorem Spaced.joined {separator : String} (separates : isSeparator separator = true) :
    ∀ parts : List (List Fragment), (∀ part ∈ parts, Spaced part) → Spaced (joined separator parts)
  | [], _ => trivial
  | [last], spaced => spaced last (by simp)
  | part :: next :: rest, spaced =>
    have others := joined separates (next :: rest) fun p member =>
      spaced p (List.mem_cons_of_mem _ member)
    (spaced part (by simp)).append_separator separates others

theorem Spaced.joined_map {α : Type} {write : α → List Fragment} (each : ∀ a, Spaced (write a))
    {separator : String} (separates : isSeparator separator = true) (items : List α) :
    Spaced (Sql.joined separator (items.map write)) := by
  refine joined separates _ fun part member => ?_
  obtain ⟨a, _, rfl⟩ := List.mem_map.mp member
  exact each a

theorem name_spaced (identifier : Text) : Spaced [.name identifier] := ⟨trivial, trivial⟩

theorem value_spaced (value : FilterValue) : Spaced [.value value] := ⟨trivial, trivial⟩

/-! ## The parts of a statement are spaced -/

theorem Test.spaced (t : Test) : Spaced t.fragments := by
  cases t with
  | compare column comparison value =>
    have separates : isSeparator (" " ++ comparison.symbol ++ " ") = true := by
      cases comparison <;> decide
    exact (name_spaced column).append_separator separates (value_spaced value)
  | member column values =>
    have listed : Spaced (joined ", " (values.map fun value => [.value (.one value)])) :=
      Spaced.joined_map (fun value => value_spaced (.one value)) (by decide) values
    exact (name_spaced column).append_separator (by decide) (listed.append_closing (by decide))

theorem conjunction_spaced (tests : List Test) : Spaced (conjunction tests) :=
  Spaced.joined_map Test.spaced (by decide) tests

theorem Union.spaced (u : Union) : Spaced u.fragments := by
  have opening : isOpening ("SELECT ST_Union_Agg(" ++ u.frame.column ++ ") AS " ++
      u.frame.targetName ++ " FROM ") = true := by cases u.frame <;> decide
  refine Spaced.cons_text opening ?_
  by_cases untested : u.tests.isEmpty = true
  · rw [if_pos untested]
    exact name_spaced u.table
  · rw [if_neg untested]
    exact (name_spaced u.table).append_separator (by decide) (conjunction_spaced u.tests)

theorem Place.spaced (p : Place) : Spaced p.fragments := by
  cases p with
  | near target distance =>
    have opening : isOpening ("ST_DWithin(" ++ target.frame.column ++ ", (") = true := by
      cases target.frame <;> decide
    have closed : Spaced [.value (.one (.num distance)), .text ")"] :=
      (value_spaced (.one (.num distance))).append_closing (by decide)
    exact Spaced.cons_text opening (target.spaced.append_separator (by decide) closed)
  | related relation target =>
    have opening : isOpening (relation.function ++ "(" ++ target.frame.column ++ ", (") = true := by
      cases relation <;> cases target.frame <;> decide
    exact Spaced.cons_text opening (target.spaced.append_closing (by decide))

theorem textMarks_append (first second : String) :
    textMarks (first ++ second) = textMarks first ++ textMarks second :=
  congrArg Text.marks (Text.ofString_append first second)

theorem isPlain_append {first second : String} (plain : isPlain first = true)
    (rest : (textMarks second).all (fun m => m != quoteMark && m != .char '$') = true) :
    isPlain (first ++ second) = true := by
  simp only [isPlain, Bool.and_eq_true, Bool.not_eq_true', List.isEmpty_eq_false_iff] at plain ⊢
  rw [textMarks_append, List.all_append, plain.2, rest]
  exact ⟨fun empty => plain.1 (List.append_eq_nil_iff.mp empty).1, rfl⟩

theorem numeral_all_plain {cs : List Char} (numeral : ∀ c ∈ cs, Decimal.isNumeral c = true) :
    (textMarks (String.ofList cs)).all (fun m => m != quoteMark && m != .char '$') = true := by
  simp only [textMarks, Text.ofString, Text.ofChars, String.toList_ofList, List.all_map,
    List.all_eq_true]
  intro c member
  have notQuote : c ≠ '"' := by
    rintro rfl
    exact absurd (numeral _ member) (by decide)
  have notDollar : c ≠ '$' := by
    rintro rfl
    exact absurd (numeral _ member) (by decide)
  simp [notQuote, notDollar]

theorem geometryText_plain (tolerance : Number) : isPlain (geometryText tolerance) = true := by
  unfold geometryText
  dsimp only
  split
  · have opening : isPlain ("ST_AsGeoJSON(" ++
        ("ST_SimplifyPreserveTopology(" ++ Catalog.geographicColumn ++ ", ")) = true := by decide
    have written := isPlain_append opening
      (numeral_all_plain (Decimal.isNumeral_of_mem_chars tolerance.toFloat))
    have closed := isPlain_append written
      (by decide : (textMarks (")" ++ ") AS geometry")).all _ = true)
    simpa only [Decimal.Layout.text, String.append_assoc] using closed
  · decide

theorem Output.spaced (o : Output) : Spaced o.fragments := by
  cases o with
  | column name => exact name_spaced name
  | attributes => exact ⟨by decide, Or.inr trivial, trivial⟩
  | geometry tolerance => exact ⟨geometryText_plain tolerance, Or.inr trivial, trivial⟩
  | distance target =>
    exact Spaced.cons_text (by decide) (target.spaced.append_closing (by decide))
  | metric op argument name =>
    have opening : isOpening (metricFunction op ++ "(") = true := by cases op <;> decide
    have measured : Spaced [argument.fragment] := by
      cases argument with
      | rows => exact ⟨by decide, Or.inr trivial, trivial⟩
      | one => exact ⟨by decide, Or.inr trivial, trivial⟩
      | column name => exact name_spaced name
    exact Spaced.cons_text opening (measured.append_separator (by decide) (name_spaced name))

theorem Group.spaced {α : Type} {write : α → List Fragment} (each : ∀ a, Spaced (write a))
    (g : Group α) : Spaced (g.fragments write) := by
  obtain ⟨logic, conditions⟩ := g
  rcases conditions with _ | ⟨first, _ | ⟨second, rest⟩⟩
  · trivial
  · exact each first
  · have separates : isSeparator (" " ++ logicWord logic ++ " ") = true := by
      cases logic <;> decide
    have several := Spaced.joined_map each separates (first :: second :: rest)
    exact Spaced.cons_text (by decide) (several.append_closing (by decide))

theorem whereFragments_spaced (tests : Group Test) (places : Group Place) :
    Spaced (whereFragments tests places) := by
  refine Spaced.joined (by decide) _ fun part member => ?_
  have either := (List.mem_filter.mp member).1
  simp only [List.mem_cons, List.not_mem_nil, or_false] at either
  rcases either with rfl | rfl
  · exact Group.spaced Test.spaced tests
  · exact Group.spaced Place.spaced places

/-- A part of a statement that starts on a line of its own, or is left out. -/
structure IsClause (part : List Fragment) : Prop where
  spaced : Spaced part
  opens : Opens part

theorem IsClause.nil : IsClause [] := ⟨trivial, trivial⟩

theorem IsClause.cons_text {text : String} {body : List Fragment}
    (separates : isSeparator text = true) (spaced : Spaced body) : IsClause (.text text :: body) := by
  obtain ⟨opening, closing⟩ := Bool.and_eq_true_iff.mp separates
  exact ⟨.cons_text opening spaced, (Bool.and_eq_true_iff.mp closing).2⟩

theorem clause_isClause {word : String} (separates : isSeparator ("\n" ++ word ++ " ") = true)
    {body : List Fragment} (spaced : Spaced body) : IsClause (clause word body) := by
  unfold clause
  split
  · exact IsClause.nil
  · exact IsClause.cons_text separates spaced

theorem groupFragments_isClause (columns : List Text) : IsClause (groupFragments columns) :=
  IsClause.cons_text (by decide) (Spaced.joined_map name_spaced (by decide) columns)

theorem order_spaced (order : Option Order) : Spaced (order.elim [] Order.fragments) := by
  rcases order with _ | ⟨name, direction⟩ | _
  · trivial
  · have closing : isClosing (" " ++ directionWord direction) = true := by
      cases direction <;> decide
    exact (name_spaced name).append_closing closing
  · exact ⟨by decide, Or.inr trivial, trivial⟩

theorem limit_spaced (limit : Option Int) :
    Spaced (limit.elim [] fun limit => [.text (String.ofList (Number.intChars limit))]) := by
  cases limit with
  | none => trivial
  | some limit =>
    refine ⟨?_, Or.inr trivial, trivial⟩
    have nonempty : textMarks (String.ofList (Number.intChars limit)) ≠ [] := by
      simpa [textMarks, Text.ofString, Text.ofChars] using Number.intChars_ne_nil limit
    rw [isPlain, numeral_all_plain (Number.isNumeral_of_mem_intChars limit)]
    simpa using nonempty

theorem Select.spaced (s : Select) : Spaced s.fragments := by
  have outputs : Spaced (joined ", " (s.outputs.map Output.fragments)) :=
    Spaced.joined_map Output.spaced (by decide) s.outputs
  have grouping : IsClause (s.groupBy.elim [] groupFragments) := by
    cases s.groupBy with
    | none => exact IsClause.nil
    | some columns => exact groupFragments_isClause columns
  have condition : IsClause (clause "WHERE" (whereFragments s.tests s.places)) :=
    clause_isClause (by decide) (whereFragments_spaced s.tests s.places)
  have ordering : IsClause (clause "ORDER BY" (s.order.elim [] Order.fragments)) :=
    clause_isClause (by decide) (order_spaced s.order)
  have limiting : IsClause (clause "LIMIT" (s.limit.elim [] fun limit =>
      [.text (String.ofList (Number.intChars limit))])) :=
    clause_isClause (by decide) (limit_spaced s.limit)
  have source : Spaced (.name s.table :: clause "WHERE" (whereFragments s.tests s.places)) :=
    (name_spaced s.table).append condition.spaced condition.opens
  have selected : Spaced (.text "SELECT " :: joined ", " (s.outputs.map Output.fragments)) :=
    Spaced.cons_text (by decide) outputs
  have sourced := selected.append_separator (by decide : isSeparator "\nFROM " = true) source
  have grouped := sourced.append grouping.spaced grouping.opens
  have ordered := grouped.append ordering.spaced ordering.opens
  exact ordered.append limiting.spaced limiting.opens

/-! ## Reading back -/

/-- The pieces that fragments stand for, the placeholders counted from `count + 1` on. -/
def piecesFrom : Nat → List Fragment → List Piece
  | _, [] => []
  | count, .text text :: rest => marksOf (textMarks text) ++ piecesFrom count rest
  | count, .name identifier :: rest => .name identifier :: piecesFrom count rest
  | count, .value _ :: rest => marksOf (placeholder (count + 1)).marks ++ piecesFrom (count + 1) rest

theorem head_of_opens {fragments : List Fragment} (opens : Opens fragments) (count : Nat) :
    (∀ m, (writtenFrom count fragments).head? = some m → isSoft m = true) ∧
      ∀ m, (piecesFrom count fragments).head? = some (.mark m) → isSoft m = true := by
  rcases fragments with _ | ⟨text | identifier | value, rest⟩
  · simp [writtenFrom, piecesFrom]
  · have headed : (textMarks text).head?.any isSoft = true := opens
    cases marks : textMarks text with
    | nil => simp [marks] at headed
    | cons first more =>
      have soft : isSoft first = true := by simpa [marks] using headed
      rw [writtenFrom, piecesFrom]
      change (∀ m, (textMarks text ++ _).head? = some m → _) ∧ _
      rw [marks]
      simp [marksOf, soft]
  · exact opens.elim
  · exact opens.elim

theorem digit_is_letter {c : Char} (digit : c.isDigit = true) : isLetter c = true := by
  simp [isLetter, Char.isAlphanum, digit]

theorem scanFrom_writtenFrom (fragments : List Fragment) (spaced : Spaced fragments) (count : Nat) :
    scanFrom .outside (writtenFrom count fragments) = some (piecesFrom count fragments) := by
  induction fragments generalizing count with
  | nil => rfl
  | cons fragment rest ih =>
    cases fragment with
    | text text =>
      obtain ⟨plain, _, spacedRest⟩ := spaced
      rw [writtenFrom, piecesFrom]
      have split_text := scanFrom_marks (textMarks text) (writtenFrom count rest)
        (quoteMark_not_mem_of_isPlain plain)
      rw [ih spacedRest count] at split_text
      exact split_text
    | name identifier =>
      obtain ⟨opens, spacedRest⟩ := spaced
      -- A quote behind the name would be read as a doubled one.
      have ends : (writtenFrom count rest).head? ≠ some quoteMark := by
        intro quoted
        have soft := (head_of_opens opens count).1 quoteMark quoted
        rw [quoteMark_not_soft] at soft
        cases soft
      rw [writtenFrom, piecesFrom, scanFrom_quotedMarks identifier _ ends, ih spacedRest count]
      rfl
    | value value =>
      obtain ⟨_, spacedRest⟩ := spaced
      have plain : quoteMark ∉ (placeholder (count + 1)).marks := by
        simp only [placeholder, Text.ofChars, List.mem_map, quoteMark]
        rintro ⟨c, member, same⟩
        cases same
        rcases List.mem_cons.mp member with contrary | member
        · exact absurd contrary (by decide)
        · exact absurd (Decimal.isDigit_of_mem_digitChars member) (by decide)
      rw [writtenFrom, piecesFrom, scanFrom_marks _ _ plain, ih spacedRest (count + 1)]
      rfl

theorem Select.scan_written (s : Select) :
    scan s.written.text = some (piecesFrom 0 s.fragments) :=
  scanFrom_writtenFrom s.fragments s.spaced 0

end SpatialQuery.Sql
