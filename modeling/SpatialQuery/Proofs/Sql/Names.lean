import SpatialQuery.Proofs.Sql.Contents
import SpatialQuery.Proofs.Sql.Spacing

/-!
# Names stay names

The identifiers of a compiled query are the names that the query mentions, in the order in which its
shape puts them, and all but the names of metrics are known to the registry.  The text between the
identifiers depends on the form of the query only, which names, values and distances have no part in.
So no part of a name is ever read as anything but a name.
-/

set_option autoImplicit false

namespace SpatialQuery

open Sql

/-! ## What a query mentions -/

inductive Mention where
  | layer (name : Text)
  | column (layer field : Text)
  | alias (name : Text)

namespace Mention

def text : Mention → Text
  | .layer name => name
  | .column _ field => field
  | .alias name => name

/-- A layer must be in the registry, and a column on its layer. -/
def Known (registry : Registry) : Mention → Prop
  | .layer name => ∃ layer, registry.get? name = some layer
  | .column name field => ∃ layer, registry.get? name = some layer ∧ layer.hasColumn field = true
  | .alias _ => True

end Mention

def AttributeFilter.mention (layer : Text) (f : AttributeFilter) : Mention := .column layer f.field

def SpatialFilter.mentions (s : SpatialFilter) : List Mention :=
  .layer s.targetLayer :: s.targets.map (AttributeFilter.mention s.targetLayer)

def Metric.mentions (layer : Text) (m : Metric) : List Mention :=
  (if m.field = "*" then [] else [.column layer m.field]) ++ [.alias (metricName m)]

namespace Query

def selectedMentions (q : Query) : List Mention :=
  (q.selectFields.getD []).map (.column q.selectLayer)

def sourceMentions (q : Query) : List Mention :=
  .layer q.selectLayer :: q.attributes.map (AttributeFilter.mention q.selectLayer) ++
    q.places.flatMap SpatialFilter.mentions

def orderMentions (q : Query) : List Mention :=
  q.orderBy.elim [] fun o => [.column q.selectLayer o.field]

/-- Every name of a query, in the order of its statement. -/
def mentions (q : Query) : List Mention :=
  match q.nearest, q.aggregate with
  | nearest :: _, _ => q.selectedMentions ++ nearest.mentions ++ q.sourceMentions
  | [], some aggregate =>
    let groups := aggregate.groupBy.map (.column q.selectLayer)
    groups ++ aggregate.metrics.flatMap (Metric.mentions q.selectLayer) ++ q.sourceMentions ++
      groups ++ q.orderMentions
  | [], none => q.selectedMentions ++ q.sourceMentions ++ q.orderMentions

end Query

namespace Sql

/-! ## Names in the text -/

theorem identifiers_marksOf_append (marks : List Mark) (rest : List Piece) :
    identifiers (marksOf marks ++ rest) = identifiers rest := by
  induction marks with
  | nil => rfl
  | cons m more ih => exact ih

theorem identifiers_piecesFrom (fragments : List Fragment) (count : Nat) :
    identifiers (piecesFrom count fragments) = (contents fragments).filterMap Fragment.name? := by
  induction fragments generalizing count with
  | nil => rfl
  | cons fragment rest ih =>
    cases fragment with
    | text text =>
      rw [piecesFrom, identifiers_marksOf_append, ih]
      rfl
    | name identifier =>
      have first : identifiers (.name identifier :: piecesFrom count rest) =
          identifier :: identifiers (piecesFrom count rest) := rfl
      rw [piecesFrom, first, ih]
      rfl
    | value value =>
      rw [piecesFrom, identifiers_marksOf_append, ih]
      rfl

theorem names_test (f : AttributeFilter) : f.test.contents.filterMap Fragment.name? = [f.field] := by
  obtain ⟨field, op, value⟩ := f
  cases op with
  | oneOf =>
    cases value with
    | one value => rfl
    | many values => simp [AttributeFilter.test, Test.contents, Fragment.name?, Function.comp_def]
  | _ => rfl

theorem names_tests (layer : Text) (filters : List AttributeFilter) :
    (filters.flatMap fun f => f.test.contents).filterMap Fragment.name? =
      (filters.map (AttributeFilter.mention layer)).map Mention.text := by
  rw [List.filterMap_flatMap, List.map_map, List.map_eq_flatMap]
  simp only [names_test]
  rfl

theorem names_union (s : SpatialFilter) :
    s.union.contents.filterMap Fragment.name? = s.mentions.map Mention.text := by
  have named : Fragment.name? (.name s.targetLayer) = some s.targetLayer := rfl
  rw [s.union_contents, List.filterMap_cons_some named, names_tests s.targetLayer]
  rfl

theorem names_place (s : SpatialFilter) :
    s.place.contents.filterMap Fragment.name? = s.mentions.map Mention.text := by
  rw [s.place_contents, List.filterMap_append, names_union]
  split <;> exact List.append_nil _

theorem names_metric (layer : Text) (m : Metric) :
    m.output.contents.filterMap Fragment.name? = (m.mentions layer).map Mention.text := by
  unfold Metric.output Metric.argument Metric.mentions
  by_cases whole : m.field = "*"
  · simp only [whole, if_true]
    split <;> rfl
  · simp only [whole, if_false]
    rfl

theorem names_source (q : Query) :
    q.sourceContents.filterMap Fragment.name? = q.sourceMentions.map Mention.text := by
  have named : Fragment.name? (.name q.selectLayer) = some q.selectLayer := rfl
  unfold Query.sourceContents Query.sourceMentions
  rw [List.filterMap_append, List.map_append, List.filterMap_cons_some named,
    names_tests q.selectLayer, List.filterMap_flatMap, List.map_flatMap]
  simp only [names_place]
  rfl

theorem names_columns (layer : Text) (names : List Text) :
    (names.map Fragment.name).filterMap Fragment.name? =
      (names.map (Mention.column layer)).map Mention.text := by
  rw [filterMap_name?_names, List.map_map]
  exact (List.map_id' names).symm

theorem names_order (q : Query) :
    q.orderContents.filterMap Fragment.name? = q.orderMentions.map Mention.text := by
  unfold Query.orderContents Query.orderMentions
  cases q.orderBy <;> rfl

theorem names_statement (q : Query) (tolerance : Number) :
    (q.statement tolerance).contents.filterMap Fragment.name? = q.mentions.map Mention.text := by
  have fields : q.fieldContents.filterMap Fragment.name? = q.selectedMentions.map Mention.text :=
    names_columns q.selectLayer (q.selectFields.getD [])
  rw [q.statement_contents]
  unfold Query.mentions
  rcases q.nearest with _ | ⟨nearest, others⟩
  · cases q.aggregate with
    | none => simp only [List.filterMap_append, List.map_append, fields, names_source, names_order]
    | some aggregate =>
      have metrics : (aggregate.metrics.flatMap fun m => m.output.contents).filterMap Fragment.name? =
          (aggregate.metrics.flatMap (Metric.mentions q.selectLayer)).map Mention.text := by
        rw [List.filterMap_flatMap, List.map_flatMap]
        simp only [names_metric q.selectLayer]
      simp only [List.filterMap_append, List.map_append, names_columns q.selectLayer, metrics,
        names_source, names_order]
  · simp only [List.filterMap_append, List.map_append, fields, names_union, names_source]

/-! ## Mentions are known -/

theorem mentions_known_of_reachable {registry : Registry} {s : SpatialFilter}
    (reachable : s.Reachable registry) : ∀ m ∈ s.mentions, m.Known registry := by
  obtain ⟨target, found, testable⟩ := reachable
  intro m member
  rcases List.mem_cons.mp member with rfl | member
  · exact ⟨target, found⟩
  · obtain ⟨f, inTargets, rfl⟩ := List.mem_map.mp member
    exact ⟨target, found, (testable f inTargets).known⟩

theorem columns_known {registry : Registry} {name : Text} {layer : Layer}
    (found : registry.get? name = some layer) {fields : List Text}
    (known : ∀ field ∈ fields, layer.hasColumn field = true) :
    ∀ m ∈ fields.map (Mention.column name), m.Known registry := by
  intro m member
  obtain ⟨field, inFields, rfl⟩ := List.mem_map.mp member
  exact ⟨layer, found, known field inFields⟩

theorem mentions_known {registry : Registry} {layer : Layer} {q : Query}
    (found : registry.get? q.selectLayer = some layer) (compilable : q.Compilable registry layer) :
    ∀ m ∈ q.mentions, m.Known registry := by
  have source : ∀ m ∈ q.sourceMentions, m.Known registry := by
    intro m member
    simp only [Query.sourceMentions, List.cons_append, List.mem_cons, List.mem_append,
      List.mem_map, List.mem_flatMap] at member
    rcases member with rfl | ⟨f, inAttributes, rfl⟩ | ⟨s, inPlaces, member⟩
    · exact ⟨layer, found⟩
    · exact ⟨layer, found, (compilable.tests f inAttributes).known⟩
    · exact mentions_known_of_reachable (compilable.places s inPlaces).reachable m member
  have ordered (known : ∀ o ∈ q.orderBy, layer.hasColumn o.field = true) :
      ∀ m ∈ q.orderMentions, m.Known registry := by
    unfold Query.orderMentions
    cases order : q.orderBy with
    | none => simp
    | some o => simpa using ⟨layer, found, known o order⟩
  have outputs := compilable.outputs
  unfold Query.OutputsKnown at outputs
  unfold Query.mentions
  rcases nearest : q.nearest with _ | ⟨first, _ | ⟨second, others⟩⟩
  · cases aggregated : q.aggregate with
    | none =>
      simp only [nearest, aggregated] at outputs
      simp only [List.forall_mem_append]
      exact ⟨⟨columns_known found outputs.1, source⟩, ordered outputs.2⟩
    | some aggregate =>
      simp only [nearest, aggregated] at outputs
      obtain ⟨groups, metrics, order⟩ := outputs
      have measured : ∀ m ∈ aggregate.metrics.flatMap (Metric.mentions q.selectLayer),
          m.Known registry := by
        intro m member
        obtain ⟨metric, inMetrics, member⟩ := List.mem_flatMap.mp member
        unfold Metric.mentions at member
        by_cases whole : metric.field = "*"
        · simp only [whole, if_true, List.nil_append, List.mem_singleton] at member
          subst member
          trivial
        · simp only [whole, if_false, List.mem_append, List.mem_singleton] at member
          rcases member with rfl | rfl
          · exact ⟨layer, found, metrics metric inMetrics whole⟩
          · trivial
      simp only [List.forall_mem_append]
      exact ⟨⟨⟨⟨columns_known found groups, measured⟩, source⟩, columns_known found groups⟩,
        ordered order⟩
  · simp only [nearest] at outputs
    obtain ⟨_, _, reachable, selected⟩ := outputs
    simp only [List.forall_mem_append]
    exact ⟨⟨columns_known found selected, mentions_known_of_reachable reachable⟩, source⟩
  · simp [nearest] at outputs

end Sql

end SpatialQuery
