import SpatialQuery.Proofs.Sql.Compiled
import SpatialQuery.Proofs.Sql.Contents
import SpatialQuery.Proofs.Sql.Tokens

/-!
# Placeholders and parameters

A placeholder gets its number when its value is handed over, which is not in the order of the text.  Still
the placeholders of a compiled query are counted from one on as the text has them, and the parameters beside
the text are the literals of the query in that order: first those of the target whose nearest features are
asked for, then those of the attribute filters, then those of each spatial condition, its distance last.
-/

set_option autoImplicit false

namespace SpatialQuery

open Sql

/-- A list of values goes with `in` only, and each of its values is a literal. -/
def AttributeFilter.literals (f : AttributeFilter) : List FilterValue :=
  match f.op, f.value with
  | .oneOf, .many values => values.map .one
  | _, value => [value]

def SpatialFilter.targetLiterals (s : SpatialFilter) : List FilterValue :=
  s.targets.flatMap AttributeFilter.literals

def SpatialFilter.literals (s : SpatialFilter) : List FilterValue :=
  s.targetLiterals ++
    match s.op, s.distance with
    | .withinDistance, some distance => [.one (.num distance)]
    | _, _ => []

def Query.literals (q : Query) : List FilterValue :=
  q.nearest.flatMap SpatialFilter.targetLiterals ++ q.attributes.flatMap AttributeFilter.literals ++
    q.places.flatMap SpatialFilter.literals

namespace Sql

theorem literals_test (f : AttributeFilter) :
    f.test.contents.filterMap Fragment.value? = f.literals := by
  obtain ⟨field, op, value⟩ := f
  cases op with
  | oneOf =>
    cases value with
    | one value => rfl
    | many values =>
      have each : (values.map fun value => Fragment.value (.one value)).filterMap Fragment.value? =
          values.map .one := by
        rw [List.filterMap_map, ← List.filterMap_eq_map]
        rfl
      exact each
  | _ => rfl

theorem literals_tests (filters : List AttributeFilter) :
    (filters.flatMap fun f => f.test.contents).filterMap Fragment.value? =
      filters.flatMap AttributeFilter.literals := by
  rw [List.filterMap_flatMap]
  simp only [literals_test]

theorem literals_union (s : SpatialFilter) :
    s.union.contents.filterMap Fragment.value? = s.targetLiterals := by
  have unvalued : Fragment.value? (.name s.targetLayer) = none := rfl
  rw [s.union_contents, List.filterMap_cons_none unvalued, literals_tests]
  rfl

theorem literals_place (s : SpatialFilter) :
    s.place.contents.filterMap Fragment.value? = s.literals := by
  rw [s.place_contents, List.filterMap_append, literals_union, SpatialFilter.literals]
  cases s.op <;> cases s.distance <;> rfl

theorem literals_metric (m : Metric) : m.output.contents.filterMap Fragment.value? = [] := by
  unfold Metric.output Metric.argument
  split
  · split <;> rfl
  · rfl

theorem literals_source (q : Query) :
    q.sourceContents.filterMap Fragment.value? =
      q.attributes.flatMap AttributeFilter.literals ++ q.places.flatMap SpatialFilter.literals := by
  have unvalued : Fragment.value? (.name q.selectLayer) = none := rfl
  unfold Query.sourceContents
  rw [List.filterMap_append, List.filterMap_cons_none unvalued, literals_tests,
    List.filterMap_flatMap]
  simp only [literals_place]

theorem literals_order (q : Query) : q.orderContents.filterMap Fragment.value? = [] := by
  unfold Query.orderContents
  cases q.orderBy <;> rfl

theorem values_statement (q : Query) (tolerance : Number) (single : q.nearest.length ≤ 1) :
    values (q.statement tolerance).fragments = q.literals := by
  have fields : q.fieldContents.filterMap Fragment.value? = [] := filterMap_value?_names _
  rw [values_eq_filterMap, Select.contents_fragments, q.statement_contents]
  unfold Query.literals
  rcases nearest : q.nearest with _ | ⟨first, _ | ⟨second, others⟩⟩
  · cases q.aggregate with
    | none =>
      simp only [List.filterMap_append, fields, literals_source, literals_order, List.nil_append,
        List.append_nil, List.flatMap_nil]
    | some aggregate =>
      have metrics : (aggregate.metrics.flatMap fun m => m.output.contents).filterMap
          Fragment.value? = [] := by
        rw [List.filterMap_flatMap]
        simp only [literals_metric, List.flatMap_eq_nil_iff, implies_true]
      simp only [List.filterMap_append, filterMap_value?_names, metrics, literals_source,
        literals_order, List.nil_append, List.append_nil, List.flatMap_nil]
  · simp only [List.filterMap_append, fields, literals_union, literals_source, List.nil_append,
      List.append_assoc, List.flatMap_cons, List.flatMap_nil, List.append_nil]
  · simp [nearest] at single

theorem nearest_length_le_one {registry : Registry} {layer : Layer} {q : Query}
    (known : q.OutputsKnown registry layer) : q.nearest.length ≤ 1 := by
  unfold Query.OutputsKnown at known
  rcases nearest : q.nearest with _ | ⟨first, _ | ⟨second, others⟩⟩
  · simp
  · simp
  · simp [nearest] at known

/-- The placeholders outside of identifiers are `$1`, `$2` and so on up to the number of the
parameters, in the order of the text, and the parameters are the literals of the query. -/
theorem placeholders_match_literals {registry : Registry} {q : Query} {tolerance : Number}
    {w : Written} (compiled : compile registry q tolerance = .ok w) :
    ∃ pieces, scan w.text = some pieces ∧
      placeholders pieces = (List.range' 1 w.values.length).map (fun number =>
        Text.ofString ("$" ++ toString number)) ∧
      w.values = q.literals := by
  obtain ⟨layer, _, compilable, rfl⟩ := (compile_ok_iff registry q tolerance w).mp compiled
  have spaced := (q.statement tolerance).spaced
  refine ⟨_, (q.statement tolerance).scan_written, ?_,
    values_statement q tolerance (nearest_length_le_one compilable.outputs)⟩
  rw [placeholders, tokens_piecesFrom _ spaced, placeholders_tokensFrom _ spaced]
  rfl

theorem placeholders_match_literals_sample :
    ∃ w pieces, compile sampleRegistry sampleQuery (.int 0) = .ok w ∧ scan w.text = some pieces ∧
      placeholders pieces = ["$1", "$2", "$3", "$4", "$5", "$6"].map Text.ofString ∧
      w.values = [.one (.bool true), .one (.num (.int 1)), .one (.str "a"), .one (.str "b"),
        .one (.str "$9"), .one (.num (.int 500))] := by
  obtain ⟨pieces, scanned, counted, literal⟩ := placeholders_match_literals compile_sampleQuery
  exact ⟨_, pieces, compile_sampleQuery, scanned, counted, literal⟩

end Sql

end SpatialQuery
