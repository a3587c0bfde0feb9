import SpatialQuery.Proofs.Json.Rearranged
import SpatialQuery.Proofs.Query.Admissible
import SpatialQuery.Query.Wire

/-!
# Queries and their wire form

An admissible query is accepted in its wire form, and what is read is the query itself: kinds of values
stay apart, empty lists are not absent ones, and a time stays a year or a date.  The members of the wire
form may be in any order.
-/

set_option autoImplicit false

namespace SpatialQuery.Shape

open Checked Json

section

variable {α β : Type}

theorem allFrom_map {rule : Rule α} {write : α → Json} {items : List α}
    (read : ∀ a ∈ items, rule (write a) = .ok a) (index : Nat) :
    Checked.allFrom rule index (items.map write) = .ok items := by
  induction items generalizing index with
  | nil => rfl
  | cons a rest ih =>
    obtain ⟨first, others⟩ := List.forall_mem_cons.mp read
    simp only [List.map_cons, Checked.allFrom, first, ih others, Checked.under, Checked.map,
      Checked.ap]

theorem required_member {members : List (Text × Json)} {key spelling : Text} {rule : Rule α}
    {j : Json} {a : α} (found : Json.member? members key = some j) (read : rule j = .ok a) :
    required members key spelling rule = .ok a := by
  simp only [required, member?, found, read, Checked.under]

theorem optional_member {members : List (Text × Json)} {key spelling : Text} {rule : Rule α}
    {value : Option α} {write : α → Json} (found : Json.member? members key = value.map write)
    (absent : Json.member? members spelling = none ∨ spelling = key)
    (strict : ∀ a, rule .null ≠ .ok a) (read : ∀ a ∈ value, rule (write a) = .ok a) :
    optional members key spelling rule = .ok value := by
  cases value with
  | none =>
    have other : Json.member? members spelling = none := by
      rcases absent with absent | rfl
      · exact absent
      · exact found
    have nowhere : member? members key spelling = none := by
      simp [member?, found, other]
    simp only [optional, nowhere]
  | some a =>
    have read := read a rfl
    have notNull : write a ≠ .null := fun isNull => strict a (isNull ▸ read)
    have here : member? members key spelling = some (key, write a) := by
      simp [member?, found]
    simp only [optional, here]
    cases written : write a with
    | null => exact absurd written notNull
    | _ =>
      rw [written] at read
      simp only [read, Checked.under, Checked.map]

end

theorem name_strict (t : Text) : name .null ≠ .ok t := nofun

theorem positive_strict (n : Int) : positive .null ≠ .ok n := nofun

theorem distance_strict (d : Number) : distance .null ≠ .ok d := nofun

theorem list_strict {α : Type} {item : Rule α} (items : List α) : list item .null ≠ .ok items :=
  nofun

theorem choice_strict {α : Type} {all : List α} {nameOf : α → Text} (a : α) :
    choice all nameOf .null ≠ .ok a := nofun

theorem record_strict {α : Type} {kind : Text} {part : List (Text × Json) → Checked α} (a : α) :
    record kind part .null ≠ .ok a := nofun

theorem choice_name {α : Type} {all : List α} {nameOf : α → Text}
    (distinct : (all.map nameOf).Nodup) {a : α} (member : a ∈ all) :
    choice all nameOf (.str (nameOf a)) = .ok a := by
  have chosen : (all.find? fun b => nameOf a == nameOf b) = some a := by
    induction all with
    | nil => cases member
    | cons b rest ih =>
      obtain ⟨fresh, distinct⟩ := List.nodup_cons.mp distinct
      rcases List.mem_cons.mp member with rfl | member
      · simp
      · have other : nameOf a ≠ nameOf b := fun same =>
          fresh (same ▸ List.mem_map_of_mem member)
        simp [other, ih distinct member]
  simp only [choice, chosen]

section

variable {f : Json → Json} (moves : Rearranges f)

include moves

theorem name_written {t : Text} (isName : t.IsName) : name (f (.str t)) = .ok t := by
  obtain ⟨s, ordinary⟩ := Option.isSome_iff_exists.mp isName.ordinary
  simp [moves.str, name, string, Checked.ensure, isName.nonEmpty, surrogateFault?, ordinary]

theorem names_written {ts : List Text} (named : ∀ t ∈ ts, t.IsName) :
    list name (f (.texts ts)) = .ok ts := by
  rw [texts, moves.arr, List.map_map]
  exact allFrom_map (fun t member => name_written moves (named t member)) 0

theorem list_written {α : Type} {rule : Rule α} {write : α → Json} {items : List α}
    (read : ∀ a ∈ items, rule (f (write a)) = .ok a) :
    list rule (f (.arr (items.map write))) = .ok items := by
  rw [moves.arr, List.map_map]
  exact allFrom_map read 0

theorem positive_written {n : Int} (isPositive : 0 < n) : positive (f (.int n)) = .ok n := by
  simp [Json.int, moves.num, positive, integer, Checked.ensure, isPositive]

theorem nonEmptyList_written {α : Type} {rule : Rule α} {write : α → Json} {items : List α}
    (nonEmpty : items ≠ []) (read : ∀ a ∈ items, rule (f (write a)) = .ok a) :
    nonEmptyList rule (f (.arr (items.map write))) = .ok items := by
  obtain ⟨first, rest, rfl⟩ := List.exists_cons_of_ne_nil nonEmpty
  have listed := list_written moves read
  rw [moves.arr] at listed ⊢
  exact listed

/-! ## Filters -/

theorem scalar_written (s : Scalar) : scalar? (f s.wire) = some s := by
  cases s <;> simp [Scalar.wire, moves.bool, moves.num, moves.str, scalar?]

theorem filterValue_written (v : FilterValue) : filterValue (f v.wire) = .ok v := by
  cases v with
  | one s => simp only [FilterValue.wire, filterValue, scalar_written moves]
  | many values =>
    have listed : scalarList (f (.arr (values.map Scalar.wire))) = .ok values :=
      list_written moves fun s _ => by simp only [scalar, scalar_written moves]
    have noScalar : scalar? (f (.arr (values.map Scalar.wire))) = none := by
      rw [moves.arr]
      rfl
    simp only [FilterValue.wire, filterValue, noScalar, listed, Checked.under]

theorem attributeFilter_written {a : AttributeFilter} (admissible : a.Admissible) :
    attributeFilter (f a.wire) = .ok a := by
  obtain ⟨members, written, found⟩ := moves.obj
    [("field", .str a.field), ("op", .str a.op.name), ("value", a.value.wire)]
    (by change (["field", "op", "value"] : List Text).Nodup; decide)
  have field : required members "field" "field" name = .ok a.field :=
    required_member (found "field") (name_written moves admissible.field)
  have op : required members "op" "op" (choice AttributeOp.all AttributeOp.name) = .ok a.op := by
    refine required_member (found "op") ?_
    rw [moves.str]
    exact choice_name (by decide) admissible.op
  have value : required members "value" "value" filterValue = .ok a.value :=
    required_member (found "value") (filterValue_written moves a.value)
  rw [AttributeFilter.wire, written]
  simp only [attributeFilter, record, field, op, value, Checked.map, Checked.ap, Checked.ensure,
    admissible.value]

theorem filters_written {filters : List AttributeFilter}
    (admissible : ∀ a ∈ filters, a.Admissible) :
    list attributeFilter (f (.arr (filters.map AttributeFilter.wire))) = .ok filters :=
  list_written moves fun a member => attributeFilter_written moves (admissible a member)

theorem distance_written {d : Number} (isPositive : d.le (.int 0) = false) :
    distance (f (.num d)) = .ok d := by
  simp [moves.num, distance, isPositive]

theorem spatialFilter_written {s : SpatialFilter} (admissible : s.Admissible) :
    spatialFilter (f s.wire) = .ok s := by
  obtain ⟨members, written, found⟩ := moves.present [
      ("op", some (.str s.op.name)),
      ("targetLayer", some (.str s.targetLayer)),
      ("targetFilter", s.targetFilter.map fun filters => .arr (filters.map AttributeFilter.wire)),
      ("distance", s.distance.map .num),
      ("limit", s.limit.map .int)]
    (by
      change (["op", "targetLayer", "targetFilter", "distance", "limit"] : List Text).Nodup
      decide)
  have op : required members "op" "op" (choice SpatialOp.all SpatialOp.name) = .ok s.op := by
    refine required_member (found "op") ?_
    rw [moves.str]
    exact choice_name (by decide) admissible.op
  have targetLayer : required members "targetLayer" "target_layer" name = .ok s.targetLayer :=
    required_member (found "targetLayer") (name_written moves admissible.targetLayer)
  have targetFilter : optional members "targetFilter" "target_filter" (list attributeFilter) =
      .ok s.targetFilter := by
    refine optional_member ((found "targetFilter").trans (Option.map_map ..)) (.inl (found _))
      list_strict fun filters given => filters_written moves fun a member => ?_
    exact admissible.filters a (by simpa [SpatialFilter.targets, Option.mem_def.mp given] using member)
  have distance : optional members "distance" "distance" distance = .ok s.distance :=
    optional_member ((found "distance").trans (Option.map_map ..)) (.inr rfl) distance_strict
      fun d given => distance_written moves (admissible.distance d given)
  have limit : optional members "limit" "limit" positive = .ok s.limit :=
    optional_member ((found "limit").trans (Option.map_map ..)) (.inr rfl) positive_strict
      fun k given => positive_written moves (admissible.limit k given)
  rw [SpatialFilter.wire, written]
  simp only [spatialFilter, record, op, targetLayer, targetFilter, distance, limit, Checked.map,
    Checked.ap, Checked.ensure, admissible.parameters]

/-! ## Aggregates, times, order -/

theorem metric_written {m : Metric} (admissible : m.Admissible) : metric (f m.wire) = .ok m := by
  obtain ⟨members, written, found⟩ := moves.present [
      ("field", some (.str m.field)), ("op", some (.str m.op.name)), ("alias", m.name.map .str)]
    (by change (["field", "op", "alias"] : List Text).Nodup; decide)
  have field : required members "field" "field" name = .ok m.field :=
    required_member (found "field") (name_written moves admissible.field)
  have op : required members "op" "op" (choice MetricOp.all MetricOp.name) = .ok m.op := by
    refine required_member (found "op") ?_
    rw [moves.str]
    exact choice_name (by decide) (by cases m.op <;> decide)
  have alias_ : optional members "alias" "alias" name = .ok m.name :=
    optional_member ((found "alias").trans (Option.map_map ..)) (.inr rfl) name_strict
      fun t given => name_written moves (admissible.name t given)
  rw [Metric.wire, written]
  simp only [metric, record, field, op, alias_, Checked.map, Checked.ap]

theorem aggregate_written {a : Aggregate} (admissible : a.Admissible) :
    aggregate (f a.wire) = .ok a := by
  obtain ⟨members, written, found⟩ := moves.obj
    [("groupBy", .texts a.groupBy), ("metrics", .arr (a.metrics.map Metric.wire))]
    (by change (["groupBy", "metrics"] : List Text).Nodup; decide)
  have groups : required members "groupBy" "group_by" (nonEmptyList name) = .ok a.groupBy :=
    required_member (found "groupBy") (nonEmptyList_written moves admissible.grouped
      fun t member => name_written moves (admissible.groups t member))
  have metrics : required members "metrics" "metrics" (nonEmptyList metric) = .ok a.metrics :=
    required_member (found "metrics") (nonEmptyList_written moves admissible.measured
      fun m member => metric_written moves (admissible.metrics m member))
  rw [Aggregate.wire, written]
  simp only [aggregate, record, groups, metrics, Checked.map, Checked.ap]

theorem timeRef_written {ref : TimeRef} (admissible : ref.Admissible) :
    timeRef (f ref.wire) = .ok ref := by
  cases ref with
  | year n =>
    obtain ⟨members, written, found⟩ := moves.obj [("year", .int n)]
      (by change (["year"] : List Text).Nodup; decide)
    have stated : required members "year" "year" year = .ok n := by
      refine required_member (found "year") ?_
      obtain ⟨least, most⟩ := admissible
      simp [Json.int, moves.num, year, integer, Checked.ensure, Int.not_lt.mpr least,
        Int.not_lt.mpr most]
    have asYear : yearRef (.obj members) = .ok (.year n) := by
      simp only [yearRef, record, stated, Checked.map]
    rw [TimeRef.wire, written]
    simp only [timeRef, asYear, Checked.under]
  | date text =>
    obtain ⟨members, written, found⟩ := moves.obj [("date", .str text)]
      (by change (["date"] : List Text).Nodup; decide)
    have stated : required members "date" "date" dateText = .ok text := by
      refine required_member (found "date") ?_
      have isDate : isDateText text = true := admissible
      simp [moves.str, dateText, string, Checked.ensure, isDate]
    have noYear : member? members "year" "year" = none := by
      have absent : Json.member? members "year" = none := found "year"
      simp [member?, absent]
    have asDate : dateRef (.obj members) = .ok (.date text) := by
      simp only [dateRef, record, stated, Checked.map]
    rw [TimeRef.wire, written]
    simp only [timeRef, asDate, yearRef, record, required, noYear, Checked.under, Checked.map,
      Checked.refuse]

theorem temporal_written {t : Temporal} (admissible : t.Admissible) :
    temporal (f t.wire) = .ok t := by
  obtain ⟨members, written, found⟩ := moves.obj
    [("baseline", t.baseline.wire), ("comparison", t.comparison.wire), ("metric", .str t.metric)]
    (by change (["baseline", "comparison", "metric"] : List Text).Nodup; decide)
  have baseline : required members "baseline" "baseline" timeRef = .ok t.baseline :=
    required_member (found "baseline") (timeRef_written moves admissible.baseline)
  have comparison : required members "comparison" "comparison" timeRef = .ok t.comparison :=
    required_member (found "comparison") (timeRef_written moves admissible.comparison)
  have metric : required members "metric" "metric" name = .ok t.metric :=
    required_member (found "metric") (name_written moves admissible.metric)
  rw [Temporal.wire, written]
  simp only [temporal, record, baseline, comparison, metric, Checked.map, Checked.ap]

theorem orderBy_written {o : OrderBy} (named : o.field.IsName) : orderBy (f o.wire) = .ok o := by
  obtain ⟨members, written, found⟩ := moves.obj
    [("field", .str o.field), ("direction", .str o.direction.name)]
    (by change (["field", "direction"] : List Text).Nodup; decide)
  have field : required members "field" "field" name = .ok o.field :=
    required_member (found "field") (name_written moves named)
  have direction : required members "direction" "direction"
      (choice Direction.all Direction.name) = .ok o.direction := by
    refine required_member (found "direction") ?_
    rw [moves.str]
    exact choice_name (by decide) (by cases o.direction <;> decide)
  rw [OrderBy.wire, written]
  simp only [orderBy, record, field, direction, Checked.map, Checked.ap]

/-! ## Queries -/

theorem logic_written (logic : Logic) :
    choice Logic.all Logic.name (f (.str logic.name)) = .ok logic := by
  rw [moves.str]
  exact choice_name (by decide) (by cases logic <;> decide)

theorem query_written {q : Query} (admissible : q.Admissible) : query (f q.wire) = .ok q := by
  obtain ⟨members, written, found⟩ := moves.present [
      ("selectLayer", some (.str q.selectLayer)),
      ("selectFields", q.selectFields.map .texts),
      ("attributeFilters", q.attributeFilters.map fun filters =>
        .arr (filters.map AttributeFilter.wire)),
      ("attributeLogic", q.attributeLogic.map fun logic => .str logic.name),
      ("spatialFilters", q.spatialFilters.map fun filters => .arr (filters.map SpatialFilter.wire)),
      ("spatialLogic", q.spatialLogic.map fun logic => .str logic.name),
      ("aggregate", q.aggregate.map Aggregate.wire),
      ("temporal", q.temporal.map Temporal.wire),
      ("limit", q.limit.map .int),
      ("orderBy", q.orderBy.map OrderBy.wire)]
    (by
      change (["selectLayer", "selectFields", "attributeFilters", "attributeLogic",
        "spatialFilters", "spatialLogic", "aggregate", "temporal", "limit", "orderBy"] :
          List Text).Nodup
      decide)
  have selectLayer : required members "selectLayer" "select_layer" name = .ok q.selectLayer :=
    required_member (found "selectLayer") (name_written moves admissible.selectLayer)
  have selectFields : optional members "selectFields" "select_fields" (list name) =
      .ok q.selectFields := by
    refine optional_member ((found "selectFields").trans (Option.map_map ..)) (.inl (found _))
      list_strict fun fields given => names_written moves fun t member => ?_
    exact admissible.selectFields t (by simpa [Option.mem_def.mp given] using member)
  have attributes : optional members "attributeFilters" "attribute_filters"
      (list attributeFilter) = .ok q.attributeFilters := by
    refine optional_member ((found "attributeFilters").trans (Option.map_map ..)) (.inl (found _))
      list_strict fun filters given => filters_written moves fun a member => ?_
    exact admissible.attributes a (by simpa [Query.attributes, Option.mem_def.mp given] using member)
  have attributeLogic : optional members "attributeLogic" "attribute_logic"
      (choice Logic.all Logic.name) = .ok q.attributeLogic :=
    optional_member ((found "attributeLogic").trans (Option.map_map ..)) (.inl (found _))
      choice_strict fun logic _ => logic_written moves logic
  have spatials : optional members "spatialFilters" "spatial_filters" (list spatialFilter) =
      .ok q.spatialFilters := by
    refine optional_member ((found "spatialFilters").trans (Option.map_map ..)) (.inl (found _))
      list_strict fun filters given => list_written moves fun s member => ?_
    exact spatialFilter_written moves (admissible.spatials s
      (by simpa [Query.spatials, Option.mem_def.mp given] using member))
  have spatialLogic : optional members "spatialLogic" "spatial_logic"
      (choice Logic.all Logic.name) = .ok q.spatialLogic :=
    optional_member ((found "spatialLogic").trans (Option.map_map ..)) (.inl (found _))
      choice_strict fun logic _ => logic_written moves logic
  have aggregate : optional members "aggregate" "aggregate" aggregate = .ok q.aggregate :=
    optional_member ((found "aggregate").trans (Option.map_map ..)) (.inr rfl)
      record_strict fun a given => aggregate_written moves (admissible.aggregate a given)
  have temporal : optional members "temporal" "temporal" temporal = .ok q.temporal :=
    optional_member ((found "temporal").trans (Option.map_map ..)) (.inr rfl)
      record_strict fun t given => temporal_written moves (admissible.temporal t given)
  have limit : optional members "limit" "limit" positive = .ok q.limit :=
    optional_member ((found "limit").trans (Option.map_map ..)) (.inr rfl) positive_strict
      fun k given => positive_written moves (admissible.limit k given)
  have order : optional members "orderBy" "order_by" orderBy = .ok q.orderBy :=
    optional_member ((found "orderBy").trans (Option.map_map ..)) (.inl (found _))
      record_strict fun o given => orderBy_written moves (admissible.orderBy o given)
  rw [Query.wire, written]
  simp only [query, record, selectLayer, selectFields, attributes, attributeLogic, spatials,
    spatialLogic, aggregate, temporal, limit, order, Checked.map, Checked.ap]

end

end SpatialQuery.Shape

namespace SpatialQuery.Query

theorem ofJson_rearranged {f : Json → Json} (moves : Json.Rearranges f) {q : Query}
    (admissible : q.Admissible) : ofJson (f q.wire) = .ok q :=
  ofJson_ok_iff.mpr (Shape.query_written moves admissible)

theorem ofJson_wire {q : Query} (admissible : q.Admissible) : ofJson q.wire = .ok q :=
  ofJson_rearranged Json.rearranges_id admissible

end SpatialQuery.Query
