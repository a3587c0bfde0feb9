import SpatialQuery.Proofs.Sql.Scan
import SpatialQuery.Proofs.Sql.Select
import Mathlib.Data.List.Forall2

/-!
# Reading conditions

How the database takes a condition apart: what stands in parentheses first, then what is joined by AND,
then what is joined by OR.  The reader does not know what the joined conditions are; it is given a
reader of one of them.  What it reads of conditions with one word between them, and of such conditions
in parentheses, is said for every reader of atoms.
-/

set_option autoImplicit false

namespace SpatialQuery

/-- What a group says of its conditions; an empty group says nothing. -/
def Logic.holds (logic : Logic) (conditions : List Bool) : Bool :=
  conditions.isEmpty ||
    match logic with
    | .and => conditions.all id
    | .or => conditions.any id

namespace Sql

/-! ## Conditions -/

inductive Condition (α : Type) where
  | atom (a : α)
  | and (left right : Condition α)
  | or (left right : Condition α)

namespace Condition

variable {α : Type}

def atoms : Condition α → List α
  | .atom a => [a]
  | .and left right => left.atoms ++ right.atoms
  | .or left right => left.atoms ++ right.atoms

/-- Whether the condition holds, given which atoms do; the first atom has the number `start`. -/
def holdsFrom (truth : Nat → Bool) : Nat → Condition α → Bool
  | start, .atom _ => truth start
  | start, .and left right =>
    left.holdsFrom truth start && right.holdsFrom truth (start + left.atoms.length)
  | start, .or left right =>
    left.holdsFrom truth start || right.holdsFrom truth (start + left.atoms.length)

def join : Logic → Condition α → Condition α → Condition α
  | .and => .and
  | .or => .or

def joined (logic : Logic) : List (Condition α) → Option (Condition α)
  | [] => none
  | first :: rest =>
    match joined logic rest with
    | none => some first
    | some others => some (join logic first others)

theorem atoms_join (logic : Logic) (left right : Condition α) :
    (join logic left right).atoms = left.atoms ++ right.atoms := by
  cases logic <;> rfl

theorem joined_eq_none {logic : Logic} {conditions : List (Condition α)} :
    joined logic conditions = none ↔ conditions = [] := by
  cases conditions with
  | nil => simp [joined]
  | cons first rest =>
    simp only [joined, reduceCtorEq, iff_false]
    split <;> simp

theorem exists_joined (logic : Logic) {conditions : List (Condition α)}
    (nonempty : conditions ≠ []) : ∃ c, joined logic conditions = some c :=
  Option.ne_none_iff_exists'.mp fun none => nonempty (joined_eq_none.mp none)

theorem atoms_joined (logic : Logic) (conditions : List (Condition α)) :
    (joined logic conditions).elim [] atoms = conditions.flatMap atoms := by
  induction conditions with
  | nil => rfl
  | cons first rest ih =>
    rw [joined, List.flatMap_cons, ← ih]
    cases joined logic rest with
    | none => simp
    | some others => simp [atoms_join]

end Condition

/-! ## The reader -/

abbrev Reader (α : Type) := List Token → Option (α × List Token)

def after? (word : Text) : List Token → Option (List Token)
  | .word first :: rest => if first = word then some rest else none
  | _ => none

section Reading

variable {α : Type}

/-- Reads conditions with a word between them, up to a number of times that the word is met. -/
def chain (word : Text) (combine : Condition α → Condition α → Condition α)
    (item : Reader (Condition α)) : Nat → Reader (Condition α)
  | 0, tokens => item tokens
  | fuel + 1, tokens => do
    let (first, rest) ← item tokens
    match after? word rest with
    | none => some (first, rest)
    | some more => do
      let (others, rest) ← chain word combine item fuel more
      some (combine first others, rest)

def unit (atom : Reader α) (inner : Reader (Condition α)) : Reader (Condition α) := fun tokens =>
  match after? "(" tokens with
  | some more => do
    let (condition, rest) ← inner more
    (after? ")" rest).map fun rest => (condition, rest)
  | none => (atom tokens).map fun (a, rest) => (.atom a, rest)

/-- Reads a condition with parentheses nested up to a depth. -/
def conditionFrom (atom : Reader α) : Nat → Reader (Condition α)
  | 0 => fun _ => none
  | fuel + 1 =>
    chain "OR" .or (chain "AND" .and (unit atom (conditionFrom atom fuel)) fuel) fuel

/-- No condition has more words or parentheses than tokens. -/
def condition (atom : Reader α) : Reader (Condition α) := fun tokens =>
  conditionFrom atom (tokens.length + 1) tokens

end Reading

/-! ## What is read -/

section Reads

variable {α : Type}

/-- Before every rest of a kind, what is written is read and the rest is left. -/
def ReadsBefore (Rest : List Token → Prop) (read : Reader α) (written : List Token) (a : α) : Prop :=
  ∀ rest, Rest rest → read (written ++ rest) = some (a, rest)

/-- An atom is read before every rest, and no parenthesis stands before it. -/
def ReadsAtom (atom : Reader α) (written : List Token) (a : α) : Prop :=
  ∀ rest, after? "(" (written ++ rest) = none ∧ atom (written ++ rest) = some (a, rest)

def Ends (rest : List Token) : Prop := ∀ logic, after? (logicWord logic) rest = none

def separated (word : Text) : List (List Token) → List Token
  | [] => []
  | [last] => last
  | part :: next :: rest => part ++ .word word :: separated word (next :: rest)

def groupTokens (logic : Logic) : List (List Token) → List Token
  | [] => []
  | [only] => only
  | parts => .word "(" :: separated (logicWord logic) parts ++ [.word ")"]

/-- What is read as one condition between the words, given fuel for its own tokens. -/
def IsUnit (atom : Reader α) (written : List Token) (c : Condition α) : Prop :=
  ∀ fuel, written.length ≤ fuel →
    ReadsBefore (fun _ => True) (unit atom (conditionFrom atom fuel)) written c

@[simp]
theorem after?_word (word : Text) (rest : List Token) :
    after? word (.word word :: rest) = some rest := by
  simp [after?]

theorem length_le_of_mem_separated (word : Text) :
    ∀ (parts : List (List Token)) {part : List Token}, part ∈ parts →
      part.length ≤ (separated word parts).length
  | [only], part, member => by
    have same : part = only := List.mem_singleton.mp member
    subst same
    exact Nat.le_refl _
  | first :: next :: rest, part, member => by
    simp only [separated, List.length_append, List.length_cons]
    rcases List.mem_cons.mp member with rfl | member
    · omega
    · have inner := length_le_of_mem_separated word (next :: rest) member
      omega

theorem length_le_separated (word : Text) :
    ∀ parts : List (List Token), parts.length ≤ (separated word parts).length + 1
  | [] => by simp
  | [_] => by simp
  | first :: next :: rest => by
    have inner := length_le_separated word (next :: rest)
    simp only [separated, List.length_append, List.length_cons] at inner ⊢
    omega

variable {item : Reader (Condition α)} {atom : Reader α}

theorem chain_last {word : Text} {combine : Condition α → Condition α → Condition α}
    {tokens rest : List Token} {c : Condition α} (read : item tokens = some (c, rest))
    (last : after? word rest = none) (fuel : Nat) :
    chain word combine item fuel tokens = some (c, rest) := by
  cases fuel with
  | zero => exact read
  | succ fuel => simp [chain, read, last]

theorem chain_reads (logic : Logic) {Rest : List Token → Prop}
    (opens : ∀ more, Rest (.word (logicWord logic) :: more)) {parts : List (List Token)}
    {conditions : List (Condition α)}
    (items : List.Forall₂ (ReadsBefore Rest item) parts conditions) {c : Condition α}
    (whole : Condition.joined logic conditions = some c) {fuel : Nat}
    (enough : parts.length ≤ fuel + 1) :
    ReadsBefore (fun rest => Rest rest ∧ after? (logicWord logic) rest = none)
      (chain (logicWord logic) (Condition.join logic) item fuel)
      (separated (logicWord logic) parts) c := by
  -- The word that joins the others is what the first condition leaves, so `Rest` has to allow it.
  induction items generalizing c fuel with
  | nil => cases whole
  | @cons part first others conditions reads tail ih =>
    rintro rest ⟨allowed, last⟩
    cases tail with
    | nil =>
      cases whole
      exact chain_last (reads rest allowed) last fuel
    | @cons next second more conditions readsNext tail =>
      obtain ⟨fuel, rfl⟩ : ∃ smaller, fuel = smaller + 1 :=
        Nat.exists_eq_add_one_of_ne_zero (by simp only [List.length_cons] at enough; omega)
      obtain ⟨d, joins⟩ := Condition.exists_joined logic (List.cons_ne_nil second conditions)
      rw [Condition.joined, joins] at whole
      cases whole
      have enoughOthers : (next :: more).length ≤ fuel + 1 := by simpa using enough
      have readOthers := ih joins enoughOthers rest ⟨allowed, last⟩
      have readFirst := reads (.word (logicWord logic) :: (separated (logicWord logic)
        (next :: more) ++ rest)) (opens _)
      simp only [separated, List.append_assoc, List.cons_append, chain, readFirst, after?_word,
        readOthers, Option.bind_eq_bind, Option.bind_some]

theorem conditionFrom_separated (logic : Logic) {fuel : Nat} {parts : List (List Token)}
    {conditions : List (Condition α)}
    (units : List.Forall₂ (ReadsBefore (fun _ => True) (unit atom (conditionFrom atom fuel)))
      parts conditions)
    {c : Condition α} (whole : Condition.joined logic conditions = some c)
    (enough : parts.length ≤ fuel + 1) :
    ReadsBefore Ends (conditionFrom atom (fuel + 1)) (separated (logicWord logic) parts) c := by
  intro rest ends
  cases logic with
  | and =>
    have conjunction := chain_reads .and (fun _ => trivial) units whole enough rest
      ⟨trivial, ends .and⟩
    exact chain_last conjunction (ends .or) fuel
  | or =>
    -- Each unit is a conjunction of its own, since no AND follows it.
    have conjunctions : List.Forall₂ (ReadsBefore (fun rest => after? "AND" rest = none)
        (chain "AND" .and (unit atom (conditionFrom atom fuel)) fuel)) parts conditions :=
      units.imp fun part c reads rest last => chain_last (reads rest trivial) last fuel
    exact chain_reads .or (fun _ => rfl) conjunctions whole enough rest
      ⟨ends .and, ends .or⟩

theorem IsUnit.of_atom {written : List Token} {a : α} (reads : ReadsAtom atom written a) :
    IsUnit atom written (.atom a) := by
  intro fuel _ rest _
  obtain ⟨unopened, read⟩ := reads rest
  simp [unit, unopened, read]

theorem units_read {parts : List (List Token)} {conditions : List (Condition α)}
    (units : List.Forall₂ (IsUnit atom) parts conditions) {fuel : Nat}
    (enough : ∀ part ∈ parts, part.length ≤ fuel) :
    List.Forall₂ (ReadsBefore (fun _ => True) (unit atom (conditionFrom atom fuel)))
      parts conditions := by
  induction units with
  | nil => exact .nil
  | cons isUnit _ ih =>
    obtain ⟨first, others⟩ := List.forall_mem_cons.mp enough
    exact .cons (isUnit fuel first) (ih others)

/-- A group of atoms is one unit, with or without parentheses. -/
theorem IsUnit.of_group (logic : Logic) {parts : List (List Token)} {read : List α}
    (atoms : List.Forall₂ (ReadsAtom atom) parts read) {c : Condition α}
    (whole : Condition.joined logic (read.map .atom) = some c) :
    IsUnit atom (groupTokens logic parts) c := by
  have units : List.Forall₂ (IsUnit atom) parts (read.map .atom) :=
    List.forall₂_map_right_iff.mpr (atoms.imp fun _ _ => IsUnit.of_atom)
  rcases parts with _ | ⟨first, _ | ⟨second, more⟩⟩
  · cases atoms
    cases whole
  · obtain ⟨a, others, reads, none, rfl⟩ := List.forall₂_cons_left_iff.mp atoms
    cases none
    cases whole
    exact .of_atom reads
  · intro fuel enough rest _
    have written : groupTokens logic (first :: second :: more) =
        .word "(" :: separated (logicWord logic) (first :: second :: more) ++ [.word ")"] := rfl
    rw [written] at enough ⊢
    obtain ⟨smaller, rfl⟩ : ∃ smaller, fuel = smaller + 1 :=
      Nat.exists_eq_add_one_of_ne_zero (by simp at enough; omega)
    have bounded := length_le_separated (logicWord logic) (first :: second :: more)
    simp only [List.length_append, List.length_cons, List.length_nil] at enough bounded
    have enoughParts : ∀ part ∈ first :: second :: more, part.length ≤ smaller := by
      intro part member
      have within := length_le_of_mem_separated (logicWord logic) _ member
      omega
    have inner := units_read units enoughParts
    have read := conditionFrom_separated logic inner whole (by simpa using by omega)
      (.word ")" :: rest) (by intro logic; cases logic <;> rfl)
    simp [unit, read]

theorem condition_reads {parts : List (List Token)} {conditions : List (Condition α)}
    (units : List.Forall₂ (IsUnit atom) parts conditions) {c : Condition α}
    (whole : Condition.joined .and conditions = some c) :
    ReadsBefore Ends (condition atom) (separated "AND" parts) c := by
  intro rest ends
  have enough : ∀ part ∈ parts, part.length ≤ (separated "AND" parts ++ rest).length := by
    intro part member
    have within := length_le_of_mem_separated "AND" parts member
    simp only [List.length_append]
    omega
  have bounded := length_le_separated "AND" parts
  exact conditionFrom_separated .and (units_read units enough) whole
    (by simp only [List.length_append]; omega) rest ends

end Reads

/-! ## What the condition says -/

namespace Condition

variable {α : Type} (truth : Nat → Bool)

theorem holdsFrom_join (logic : Logic) (left right : Condition α) (start : Nat) :
    (join logic left right).holdsFrom truth start =
      match logic with
      | .and => left.holdsFrom truth start && right.holdsFrom truth (start + left.atoms.length)
      | .or => left.holdsFrom truth start || right.holdsFrom truth (start + left.atoms.length) := by
  cases logic <;> rfl

theorem holdsFrom_atoms (logic : Logic) (read : List α) (start : Nat) :
    (joined logic (read.map .atom)).elim true (holdsFrom truth start) =
      logic.holds ((List.range' start read.length).map truth) := by
  induction read generalizing start with
  | nil => rfl
  | cons a rest ih =>
    have inner := ih (start + 1)
    cases rest with
    | nil => cases logic <;> simp [joined, holdsFrom, Logic.holds]
    | cons next more =>
      obtain ⟨d, joins⟩ : ∃ d, joined logic ((next :: more).map .atom) = some d :=
        exists_joined logic (List.cons_ne_nil _ _)
      rw [joins, Option.elim_some] at inner
      rw [List.map_cons, joined, joins, Option.elim_some, holdsFrom_join]
      simp only [atoms, List.length_singleton, inner]
      cases logic <;> simp [holdsFrom, Logic.holds, List.range'_succ]

theorem holdsFrom_groups (first second : Option (Condition α)) (start : Nat) :
    (joined .and ([first, second].filterMap id)).elim true (holdsFrom truth start) =
      (first.elim true (holdsFrom truth start) &&
        second.elim true (holdsFrom truth (start + (first.elim [] atoms).length))) := by
  cases first <;> cases second <;> simp [joined, join, holdsFrom]

end Condition

end Sql

end SpatialQuery
