import SpatialQuery.Proofs.Sql.Statement

/-!
# The names and values of a statement

What is left of the fragments of a statement without the fixed text: its names and values in the order
in which they are written.
-/

set_option autoImplicit false

namespace SpatialQuery

namespace Sql

def Fragment.isContent : Fragment → Bool
  | .text _ => false
  | _ => true

def contents (fragments : List Fragment) : List Fragment := fragments.filter Fragment.isContent

@[simp]
theorem contents_nil : contents [] = [] := rfl

@[simp]
theorem contents_text (text : String) (rest : List Fragment) :
    contents (.text text :: rest) = contents rest := rfl

@[simp]
theorem contents_name (identifier : Text) (rest : List Fragment) :
    contents (.name identifier :: rest) = .name identifier :: contents rest := rfl

@[simp]
theorem contents_value (value : FilterValue) (rest : List Fragment) :
    contents (.value value :: rest) = .value value :: contents rest := rfl

@[simp]
theorem contents_append (first rest : List Fragment) :
    contents (first ++ rest) = contents first ++ contents rest := List.filter_append ..

theorem contents_joined (separator : String) :
    ∀ parts : List (List Fragment), contents (joined separator parts) = parts.flatMap contents
  | [] => rfl
  | [last] => by simp [joined]
  | part :: next :: rest => by
    have others := contents_joined separator (next :: rest)
    simp only [joined, contents_append, contents_text, others, List.flatMap_cons]

theorem contents_joined_map {α : Type} (separator : String) (write : α → List Fragment)
    (items : List α) :
    contents (joined separator (items.map write)) = items.flatMap fun a => contents (write a) := by
  rw [contents_joined, List.flatMap_map]

def Test.contents : Test → List Fragment
  | .compare column _ value => [.name column, .value value]
  | .member column values => .name column :: values.map fun value => .value (.one value)

def Union.contents (u : Union) : List Fragment := .name u.table :: u.tests.flatMap Test.contents

def Place.contents : Place → List Fragment
  | .near target distance => target.contents ++ [.value (.one (.num distance))]
  | .related _ target => target.contents

def Output.contents : Output → List Fragment
  | .column name => [.name name]
  | .attributes | .geometry _ => []
  | .distance target => target.contents
  | .metric _ argument name => Sql.contents [argument.fragment] ++ [.name name]

def Order.contents : Order → List Fragment
  | .column name _ => [.name name]
  | .distance => []

def Select.contents (s : Select) : List Fragment :=
  s.outputs.flatMap Output.contents ++ .name s.table ::
    (s.tests.conditions.flatMap Test.contents ++ s.places.conditions.flatMap Place.contents) ++
    (s.groupBy.getD []).map .name ++ s.order.elim [] Order.contents

@[simp]
theorem Test.contents_fragments (t : Test) : Sql.contents t.fragments = t.contents := by
  cases t with
  | compare column comparison value => rfl
  | member column values =>
    have listed := contents_joined_map ", " (fun value => [Fragment.value (.one value)]) values
    simp only [contents_value, contents_nil, ← List.map_eq_flatMap] at listed
    simp [Test.fragments, Test.contents, listed]

@[simp]
theorem contents_conjunction (tests : List Test) :
    contents (conjunction tests) = tests.flatMap Test.contents := by
  simp [conjunction, contents_joined_map]

@[simp]
theorem Union.contents_fragments (u : Union) : Sql.contents u.fragments = u.contents := by
  unfold Union.fragments Union.contents
  by_cases untested : u.tests.isEmpty = true
  · have none : u.tests = [] := List.isEmpty_iff.mp untested
    simp [none]
  · simp [untested]

@[simp]
theorem Place.contents_fragments (p : Place) : Sql.contents p.fragments = p.contents := by
  cases p <;> simp [Place.fragments, Place.contents]

@[simp]
theorem Output.contents_fragments (o : Output) : Sql.contents o.fragments = o.contents := by
  cases o with
  | metric op argument name => cases argument <;> rfl
  | _ => simp [Output.fragments, Output.contents]

@[simp]
theorem Group.contents_fragments {α : Type} (write : α → List Fragment) (g : Group α) :
    Sql.contents (g.fragments write) = g.conditions.flatMap fun a => Sql.contents (write a) := by
  obtain ⟨logic, conditions⟩ := g
  rcases conditions with _ | ⟨first, _ | ⟨second, rest⟩⟩
  · rfl
  · simp [Group.fragments]
  · simp [Group.fragments, contents_joined, List.flatMap_map]

theorem contents_whereFragments (tests : Group Test) (places : Group Place) :
    contents (whereFragments tests places) =
      tests.conditions.flatMap Test.contents ++ places.conditions.flatMap Place.contents := by
  have kept : ∀ parts : List (List Fragment),
      (parts.filter fun part => !part.isEmpty).flatMap contents = parts.flatMap contents := by
    intro parts
    induction parts with
    | nil => rfl
    | cons part rest ih =>
      cases part with
      | nil => simpa using ih
      | cons fragment more => simp [ih]
  rw [whereFragments, contents_joined, kept]
  simp

theorem contents_clause (word : String) (body : List Fragment) :
    contents (clause word body) = contents body := by
  cases body with
  | nil => rfl
  | cons fragment rest => simp [clause]

theorem Select.contents_fragments (s : Select) : Sql.contents s.fragments = s.contents := by
  have grouped : Sql.contents (s.groupBy.elim [] groupFragments) =
      (s.groupBy.getD []).map .name := by
    cases s.groupBy with
    | none => rfl
    | some columns =>
      have listed := contents_joined_map ", " (fun name => [Fragment.name name]) columns
      simp only [contents_name, contents_nil, ← List.map_eq_flatMap] at listed
      simp [groupFragments, listed]
  have ordered : Sql.contents (s.order.elim [] Order.fragments) =
      s.order.elim [] Order.contents := by
    rcases s.order with _ | ⟨name, direction⟩ | _ <;> rfl
  have limited : Sql.contents (s.limit.elim [] fun limit =>
      [.text (String.ofList (Number.intChars limit))]) = [] := by
    cases s.limit <;> rfl
  simp only [Select.fragments, Select.contents, contents_append, contents_text, contents_name,
    contents_joined_map, contents_clause, contents_whereFragments, grouped, ordered, limited,
    Output.contents_fragments, List.append_nil]

/-! ## Names and values apart -/

def Fragment.name? : Fragment → Option Text
  | .name identifier => some identifier
  | _ => none

def Fragment.value? : Fragment → Option FilterValue
  | .value v => some v
  | _ => none

theorem values_eq_filterMap (fragments : List Fragment) :
    values fragments = (contents fragments).filterMap Fragment.value? := by
  induction fragments with
  | nil => rfl
  | cons fragment rest ih =>
    cases fragment with
    | text text => exact ih
    | name identifier => exact ih
    | value v => rw [values, ih]; rfl

@[simp]
theorem filterMap_name?_names (names : List Text) :
    (names.map Fragment.name).filterMap Fragment.name? = names := by
  rw [List.filterMap_map]
  exact List.filterMap_some

@[simp]
theorem filterMap_value?_names (names : List Text) :
    (names.map Fragment.name).filterMap Fragment.value? = [] := by
  rw [List.filterMap_map, List.filterMap_eq_nil_iff]
  exact fun _ _ => rfl

end Sql

open Sql

/-! ## The names and values of a query -/

theorem SpatialFilter.union_contents (s : SpatialFilter) :
    s.union.contents = .name s.targetLayer :: s.targets.flatMap fun f => f.test.contents := by
  simp [SpatialFilter.union, Union.contents, List.flatMap_map]

theorem SpatialFilter.place_contents (s : SpatialFilter) :
    s.place.contents = s.union.contents ++
      match s.op, s.distance with
      | .withinDistance, some distance => [.value (.one (.num distance))]
      | _, _ => [] := by
  obtain ⟨op, targetLayer, targetFilter, distance, limit⟩ := s
  cases op <;> cases distance <;> simp [SpatialFilter.place, Place.contents]

namespace Query

def fieldContents (q : Query) : List Fragment := (q.selectFields.getD []).map .name

def sourceContents (q : Query) : List Fragment :=
  .name q.selectLayer :: (q.attributes.flatMap fun f => f.test.contents) ++
    q.places.flatMap fun s => s.place.contents

def orderContents (q : Query) : List Fragment := q.orderBy.elim [] fun o => [.name o.field]

theorem columns_contents (names : List Text) :
    (names.map Output.column).flatMap Output.contents = names.map .name := by
  rw [List.flatMap_map, List.map_eq_flatMap]
  rfl

theorem outputs_contents (q : Query) : q.outputs.flatMap Output.contents = q.fieldContents := by
  unfold outputs fieldContents
  cases q.selectFields.getD [] with
  | nil => rfl
  | cons name rest => exact columns_contents (name :: rest)

theorem order_contents (q : Query) : q.order.elim [] Order.contents = q.orderContents := by
  unfold order orderContents
  cases q.orderBy <;> rfl

theorem statement_contents (q : Query) (tolerance : Number) :
    (q.statement tolerance).contents =
      match q.nearest, q.aggregate with
      | nearest :: _, _ => q.fieldContents ++ nearest.union.contents ++ q.sourceContents
      | [], some aggregate =>
        aggregate.groupBy.map .name ++ (aggregate.metrics.flatMap fun m => m.output.contents) ++
          q.sourceContents ++ aggregate.groupBy.map .name ++ q.orderContents
      | [], none => q.fieldContents ++ q.sourceContents ++ q.orderContents := by
  have tests : q.attributeGroup.conditions.flatMap Test.contents =
      q.attributes.flatMap fun f => f.test.contents := List.flatMap_map ..
  have places : q.spatialGroup.conditions.flatMap Place.contents =
      q.places.flatMap fun s => s.place.contents := List.flatMap_map ..
  unfold statement
  rcases q.nearest with _ | ⟨nearest, others⟩
  · cases q.aggregate with
    | none =>
      simp [Select.contents, Output.contents, sourceContents, outputs_contents, order_contents,
        tests, places]
    | some aggregate =>
      have metrics : (aggregate.metrics.map Metric.output).flatMap Output.contents =
          aggregate.metrics.flatMap fun m => m.output.contents := List.flatMap_map ..
      simp [Select.contents, sourceContents, columns_contents, metrics, order_contents, tests, places]
  · simp [Select.contents, Output.contents, Order.contents, sourceContents, outputs_contents,
      tests, places]

end Query

end SpatialQuery
