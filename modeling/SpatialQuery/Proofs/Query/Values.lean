import SpatialQuery.Proofs.Json.Every
import SpatialQuery.Proofs.Query.Admissible
import SpatialQuery.Proofs.Query.Grounded
import SpatialQuery.Query.Wire

/-!
# The values of a query

The numbers and texts that a query compares with come from the value that the query was read from, and
stand in its wire form.  Replacing concept fields brings no others but the codes of the rules, and
bounding brings none.
-/

set_option autoImplicit false

namespace SpatialQuery

section

variable (number : Number → Prop) (text : Text → Prop)

def Scalar.Every : Scalar → Prop
  | .bool _ => True
  | .num n => number n
  | .str t => text t

def FilterValue.Every : FilterValue → Prop
  | .one value => value.Every number text
  | .many values => ∀ value ∈ values, value.Every number text

structure SpatialFilter.Every (s : SpatialFilter) : Prop where
  targets : ∀ f ∈ s.targets, f.value.Every number text
  distance : ∀ d ∈ s.distance, number d

/-- Every number and every text that the query compares with has its property. -/
structure Query.Every (q : Query) : Prop where
  attributes : ∀ f ∈ q.attributes, f.value.Every number text
  spatials : ∀ s ∈ q.spatials, s.Every number text

structure Query.Counted (q : Query) : Prop where
  limit : ∀ k ∈ q.limit, number (.int k)
  spatials : ∀ s ∈ q.spatials, ∀ k ∈ s.limit, number (.int k)

end

variable {number : Number → Prop} {text : Text → Prop}

/-! ## Reading -/

namespace Shape

open Checked Json

section

variable {α : Type} {rule : Rule α} {P : α → Prop}
  (keeps : ∀ {j a}, j.Every number text → rule j = .ok a → P a)

include keeps

theorem member_every {members : List (Text × Json)} {key spelling found : Text} {j : Json}
    (each : (obj members).Every number text)
    (here : member? members key spelling = some (found, j)) {a : α} (accepted : rule j = .ok a) :
    P a := by
  have value : ∀ {k : Text}, Json.member? members k = some j → j.Every number text := by
    intro k got
    exact (everyMember_iff.mp each _ (Assoc.mem_of_get?_eq_some got)).2
  refine keeps ?_ accepted
  unfold member? at here
  split at here
  · rename_i first
    cases here
    exact value first
  · obtain ⟨_, second, same⟩ := Option.map_eq_some_iff.mp here
    cases same
    exact value second

theorem required_every {members : List (Text × Json)} {key spelling : Text} {a : α}
    (each : (obj members).Every number text)
    (accepted : required members key spelling rule = .ok a) : P a := by
  unfold required at accepted
  split at accepted
  · rename_i here
    exact member_every keeps each here (under_ok_iff.mp accepted)
  · cases accepted

theorem optional_every {members : List (Text × Json)} {key spelling : Text} {value : Option α}
    (each : (obj members).Every number text)
    (accepted : optional members key spelling rule = .ok value) : ∀ a ∈ value, P a := by
  unfold optional at accepted
  split at accepted
  · cases accepted
    nofun
  · cases accepted
    nofun
  · rename_i here
    obtain ⟨b, ruled, rfl⟩ := map_ok_iff.mp accepted
    rintro a ⟨⟩
    exact member_every keeps each here (under_ok_iff.mp ruled)

theorem allFrom_every {index : Nat} {items : List Json} {results : List α}
    (each : EveryItem number text items)
    (accepted : Checked.allFrom rule index items = .ok results) : ∀ a ∈ results, P a := by
  induction items generalizing index results with
  | nil =>
    cases accepted
    nofun
  | cons j rest ih =>
    obtain ⟨_, others, first, checkedRest, rfl⟩ := ap_ok_iff.mp accepted
    obtain ⟨a, checkedFirst, rfl⟩ := map_ok_iff.mp first
    exact List.forall_mem_cons.mpr
      ⟨keeps each.1 (under_ok_iff.mp checkedFirst), ih each.2 checkedRest⟩

theorem list_every {j : Json} {results : List α} (each : j.Every number text)
    (accepted : list rule j = .ok results) : ∀ a ∈ results, P a := by
  cases j with
  | arr items => exact allFrom_every keeps each accepted
  | _ => cases accepted

theorem optional_list_every {members : List (Text × Json)} {key spelling : Text}
    {value : Option (List α)} (each : (obj members).Every number text)
    (accepted : optional members key spelling (list rule) = .ok value) :
    ∀ a ∈ value.getD [], P a := by
  have listed := optional_every (P := fun items => ∀ a ∈ items, P a)
    (fun each ruled => list_every keeps each ruled) each accepted
  cases value with
  | none => nofun
  | some items => exact listed items rfl

end

theorem record_every {α : Type} {kind : Text} {part : List (Text × Json) → Checked α} {j : Json}
    {a : α} (each : j.Every number text) (accepted : record kind part j = .ok a) :
    ∃ members, (obj members).Every number text ∧ part members = .ok a := by
  cases j with
  | obj members => exact ⟨members, each, accepted⟩
  | _ => cases accepted

theorem scalar_every {j : Json} {s : Scalar} (each : j.Every number text)
    (accepted : scalar? j = some s) : s.Every number text := by
  cases j <;> cases accepted <;> exact each

theorem filterValue_every {j : Json} {v : FilterValue} (each : j.Every number text)
    (accepted : filterValue j = .ok v) : v.Every number text := by
  unfold filterValue at accepted
  split at accepted
  · rename_i s read
    cases accepted
    exact scalar_every each read
  · split at accepted
    · rename_i values listed
      cases accepted
      refine list_every ?_ each (under_ok_iff.mp listed)
      intro j s each ruled
      unfold scalar at ruled
      split at ruled
      · rename_i read
        cases ruled
        exact scalar_every each read
      · cases ruled
    · cases accepted

theorem attributeFilter_every {j : Json} {f : AttributeFilter} (each : j.Every number text)
    (accepted : attributeFilter j = .ok f) : f.value.Every number text := by
  obtain ⟨members, each, parts⟩ := record_every each accepted
  obtain ⟨built, _⟩ := ensure_ok_iff.mp parts
  obtain ⟨_, value, beforeValue, valued, rfl⟩ := ap_ok_iff.mp built
  obtain ⟨_, op, beforeOp, _, rfl⟩ := ap_ok_iff.mp beforeValue
  obtain ⟨field, _, rfl⟩ := map_ok_iff.mp beforeOp
  exact required_every filterValue_every each valued

theorem distance_every {j : Json} {d : Number} (each : j.Every number text)
    (accepted : distance j = .ok d) : number d := by
  cases j with
  | num n =>
    simp only [distance] at accepted
    split at accepted
    · cases accepted
    · cases accepted
      exact each
  | _ => cases accepted

theorem positive_every {j : Json} {k : Int} (each : j.Every number text)
    (accepted : positive j = .ok k) : number (.int k) := by
  obtain ⟨read, _⟩ := ensure_ok_iff.mp accepted
  cases j with
  | num n =>
    cases n with
    | int n =>
      cases read
      exact each
    | real x => cases read
  | _ => cases read

theorem spatialFilter_every {j : Json} {s : SpatialFilter} (each : j.Every number text)
    (accepted : spatialFilter j = .ok s) : s.Every number text := by
  obtain ⟨members, each, parts⟩ := record_every each accepted
  obtain ⟨built, _⟩ := ensure_ok_iff.mp parts
  obtain ⟨_, limit, beforeLimit, _, rfl⟩ := ap_ok_iff.mp built
  obtain ⟨_, distance, beforeDistance, measured, rfl⟩ := ap_ok_iff.mp beforeLimit
  obtain ⟨_, filters, beforeFilters, filtered, rfl⟩ := ap_ok_iff.mp beforeDistance
  obtain ⟨_, target, beforeTarget, _, rfl⟩ := ap_ok_iff.mp beforeFilters
  obtain ⟨op, _, rfl⟩ := map_ok_iff.mp beforeTarget
  exact ⟨optional_list_every attributeFilter_every each filtered,
    optional_every distance_every each measured⟩

theorem spatialFilter_counted {j : Json} {s : SpatialFilter} (each : j.Every number text)
    (accepted : spatialFilter j = .ok s) : ∀ k ∈ s.limit, number (.int k) := by
  obtain ⟨members, each, parts⟩ := record_every each accepted
  obtain ⟨built, _⟩ := ensure_ok_iff.mp parts
  obtain ⟨_, limit, beforeLimit, limited, rfl⟩ := ap_ok_iff.mp built
  obtain ⟨_, distance, beforeDistance, _, rfl⟩ := ap_ok_iff.mp beforeLimit
  obtain ⟨_, filters, beforeFilters, _, rfl⟩ := ap_ok_iff.mp beforeDistance
  obtain ⟨_, target, beforeTarget, _, rfl⟩ := ap_ok_iff.mp beforeFilters
  obtain ⟨op, _, rfl⟩ := map_ok_iff.mp beforeTarget
  exact optional_every positive_every each limited

theorem query_every {raw : Json} {q : Query} (each : raw.Every number text)
    (accepted : query raw = .ok q) : q.Every number text := by
  obtain ⟨members, each, built⟩ := record_every each accepted
  obtain ⟨_, order, beforeOrder, _, rfl⟩ := ap_ok_iff.mp built
  obtain ⟨_, limit, beforeLimit, _, rfl⟩ := ap_ok_iff.mp beforeOrder
  obtain ⟨_, times, beforeTimes, _, rfl⟩ := ap_ok_iff.mp beforeLimit
  obtain ⟨_, aggregate, beforeAggregate, _, rfl⟩ := ap_ok_iff.mp beforeTimes
  obtain ⟨_, spatialLogic, beforeSpatialLogic, _, rfl⟩ := ap_ok_iff.mp beforeAggregate
  obtain ⟨_, spatials, beforeSpatials, placed, rfl⟩ := ap_ok_iff.mp beforeSpatialLogic
  obtain ⟨_, attributeLogic, beforeLogic, _, rfl⟩ := ap_ok_iff.mp beforeSpatials
  obtain ⟨_, attributes, beforeAttributes, filtered, rfl⟩ := ap_ok_iff.mp beforeLogic
  obtain ⟨_, fields, beforeFields, _, rfl⟩ := ap_ok_iff.mp beforeAttributes
  obtain ⟨selected, _, rfl⟩ := map_ok_iff.mp beforeFields
  exact ⟨optional_list_every attributeFilter_every each filtered,
    optional_list_every spatialFilter_every each placed⟩

theorem query_counted {raw : Json} {q : Query} (each : raw.Every number text)
    (accepted : query raw = .ok q) : q.Counted number := by
  obtain ⟨members, each, built⟩ := record_every each accepted
  obtain ⟨_, order, beforeOrder, _, rfl⟩ := ap_ok_iff.mp built
  obtain ⟨_, limit, beforeLimit, limited, rfl⟩ := ap_ok_iff.mp beforeOrder
  obtain ⟨_, times, beforeTimes, _, rfl⟩ := ap_ok_iff.mp beforeLimit
  obtain ⟨_, aggregate, beforeAggregate, _, rfl⟩ := ap_ok_iff.mp beforeTimes
  obtain ⟨_, spatialLogic, beforeSpatialLogic, _, rfl⟩ := ap_ok_iff.mp beforeAggregate
  obtain ⟨_, spatials, beforeSpatials, placed, rfl⟩ := ap_ok_iff.mp beforeSpatialLogic
  obtain ⟨_, attributeLogic, beforeLogic, _, rfl⟩ := ap_ok_iff.mp beforeSpatials
  obtain ⟨_, attributes, beforeAttributes, _, rfl⟩ := ap_ok_iff.mp beforeLogic
  obtain ⟨_, fields, beforeFields, _, rfl⟩ := ap_ok_iff.mp beforeAttributes
  obtain ⟨selected, _, rfl⟩ := map_ok_iff.mp beforeFields
  exact ⟨optional_every positive_every each limited,
    optional_list_every spatialFilter_counted each placed⟩

end Shape

namespace Query

theorem every_of_ofJson {raw : Json} {q : Query} (each : raw.Every number text)
    (accepted : ofJson raw = .ok q) : q.Every number text :=
  Shape.query_every each (ofJson_ok_iff.mp accepted)

theorem counted_of_ofJson {raw : Json} {q : Query} (each : raw.Every number text)
    (accepted : ofJson raw = .ok q) : q.Counted number :=
  Shape.query_counted each (ofJson_ok_iff.mp accepted)

end Query

/-! ## Replacing and bounding -/

namespace FilterRules

def KeepsEvery (number : Number → Prop) (text : Text → Prop) (rules : FilterRules) : Prop :=
  ∀ entry ∈ rules, ∀ f g note, entry.2 f = .ok (g, note) →
    f.value.Every number text → g.value.Every number text

theorem builtIn_keepsEvery (literal : ∀ s : String, text s) : builtIn.KeepsEvery number text := by
  intro entry member f g note replaced each
  simp only [builtIn, List.mem_cons, List.not_mem_nil, or_false] at member
  rcases member with rfl | rfl | rfl
  · dsimp only [codeStart] at replaced
    split at replaced <;> cases replaced
    exact literal "R%"
  · dsimp only [codeStart] at replaced
    split at replaced <;> cases replaced
    exact literal "C%"
  · cases replaced
    exact each

theorem replacement_every {rules : FilterRules} (keeps : rules.KeepsEvery number text) (layer : Text)
    {f : AttributeFilter} (each : f.value.Every number text) :
    (rules.replacement layer f).value.Every number text := by
  rcases rules.replacement_cases layer f with same | ⟨entry, member, note, replaced⟩
  · rw [same]
    exact each
  · exact keeps entry member f _ note replaced each

end FilterRules

namespace Query

theorem Every.normalized {rules : FilterRules} (keeps : rules.KeepsEvery number text) {q : Query}
    (each : q.Every number text) : (q.normalized rules).Every number text where
  attributes := by
    rw [attributes_normalized]
    intro f member
    obtain ⟨g, inAttributes, rfl⟩ := List.mem_map.mp member
    exact FilterRules.replacement_every keeps _ (each.attributes g inAttributes)
  spatials := by
    rw [spatials_normalized]
    intro s member
    obtain ⟨t, inSpatials, rfl⟩ := List.mem_map.mp member
    have inner := each.spatials t inSpatials
    refine ⟨?_, inner.distance⟩
    rw [targets_normalized]
    intro f inTargets
    obtain ⟨g, given, rfl⟩ := List.mem_map.mp inTargets
    exact FilterRules.replacement_every keeps _ (inner.targets g given)

theorem Every.limited {registry : Registry} {q : Query} (each : q.Every number text) :
    (q.limited registry).query.Every number text where
  attributes := each.attributes
  spatials := by
    rw [spatials_limited]
    intro s member
    obtain ⟨t, inSpatials, rfl⟩ := List.mem_map.mp member
    have inner := each.spatials t inSpatials
    have sameTargets := (targets_clamp (Limit.cap (q.geometryType registry)) t).2
    have sameDistance := distance_clamp (Limit.cap (q.geometryType registry)) t
    exact ⟨sameTargets ▸ inner.targets, sameDistance ▸ inner.distance⟩

end Query

/-! ## Writing -/

/-- The properties hold of whatever else a wire form holds: limits and years, keys and other words of
the language, names and dates. -/
structure Query.Surroundings (number : Number → Prop) (text : Text → Prop) : Prop where
  int : ∀ n, number (.int n)
  word : ∀ s : String, text s
  name : ∀ t : Text, t.IsName → text t
  date : ∀ t, Shape.isDateText t = true → text t

/-- The same but for limits, which may be any integers. -/
structure Query.Around (number : Number → Prop) (text : Text → Prop) : Prop where
  year : ∀ n, 1900 ≤ n ∧ n ≤ 2100 → number (.int n)
  word : ∀ s : String, text s
  name : ∀ t : Text, t.IsName → text t
  date : ∀ t, Shape.isDateText t = true → text t

theorem Query.Surroundings.around (surroundings : Query.Surroundings number text) :
    Query.Around number text :=
  ⟨fun n _ => surroundings.int n, surroundings.word, surroundings.name, surroundings.date⟩

theorem Query.Surroundings.counted (surroundings : Query.Surroundings number text) (q : Query) :
    q.Counted number :=
  ⟨fun k _ => surroundings.int k, fun _ _ k _ => surroundings.int k⟩

open Json

theorem Scalar.every_wire {s : Scalar} (each : s.Every number text) : s.wire.Every number text := by
  cases s <;> exact each

theorem FilterValue.every_wire {v : FilterValue} (each : v.Every number text) :
    v.wire.Every number text := by
  cases v with
  | one value => exact Scalar.every_wire each
  | many values => exact every_arr_map fun value member => Scalar.every_wire (each value member)

theorem every_some_str {t : Text} (holds : text t) : ∀ j ∈ some (Json.str t), j.Every number text := by
  rintro j ⟨⟩
  exact holds

section

variable (around : Query.Around number text)

include around

theorem every_texts {ts : List Text} (named : ∀ t ∈ ts, t.IsName) :
    (Json.texts ts).Every number text :=
  every_arr_map fun t member => around.name t (named t member)

theorem AttributeFilter.every_wire {f : AttributeFilter} (admissible : f.Admissible)
    (each : f.value.Every number text) : f.wire.Every number text := by
  have op : text f.op.name := by
    have known := admissible.op
    cases same : f.op with
    | other name => simp [AttributeOp.all, same] at known
    | _ => exact around.word _
  exact ⟨around.word _, around.name _ admissible.field, around.word _, op, around.word _,
    FilterValue.every_wire each, trivial⟩

theorem every_filters {filters : List AttributeFilter} (admissible : ∀ f ∈ filters, f.Admissible)
    (each : ∀ f ∈ filters, f.value.Every number text) :
    (Json.arr (filters.map AttributeFilter.wire)).Every number text :=
  every_arr_map fun f member =>
    AttributeFilter.every_wire around (admissible f member) (each f member)

theorem SpatialFilter.every_wire {s : SpatialFilter} (admissible : s.Admissible)
    (each : s.Every number text) (counted : ∀ k ∈ s.limit, number (.int k)) :
    s.wire.Every number text := by
  have op : text s.op.name := by
    have known := admissible.op
    cases same : s.op with
    | other name => simp [SpatialOp.all, same] at known
    | _ => exact around.word _
  refine every_present ?_
  simp only [List.forall_mem_cons]
  refine ⟨⟨around.word _, every_some_str op⟩,
    ⟨around.word _, every_some_str (around.name _ admissible.targetLayer)⟩,
    ⟨around.word _, every_map fun filters given => every_filters around ?_ ?_⟩,
    ⟨around.word _, every_map each.distance⟩, ⟨around.word _, every_map counted⟩,
    List.forall_mem_nil _⟩
  · simpa [SpatialFilter.targets, Option.mem_def.mp given] using admissible.filters
  · simpa [SpatialFilter.targets, Option.mem_def.mp given] using each.targets

theorem Metric.every_wire {m : Metric} (admissible : m.Admissible) : m.wire.Every number text := by
  have op : text m.op.name := by cases m.op <;> exact around.word _
  refine every_present ?_
  simp only [List.forall_mem_cons]
  exact ⟨⟨around.word _, every_some_str (around.name _ admissible.field)⟩,
    ⟨around.word _, every_some_str op⟩,
    ⟨around.word _, every_map fun t given => around.name t (admissible.name t given)⟩,
    List.forall_mem_nil _⟩

theorem Aggregate.every_wire {a : Aggregate} (admissible : a.Admissible) :
    a.wire.Every number text :=
  ⟨around.word _, every_texts around admissible.groups, around.word _,
    every_arr_map fun m member => Metric.every_wire around (admissible.metrics m member), trivial⟩

theorem TimeRef.every_wire {ref : TimeRef} (admissible : ref.Admissible) :
    ref.wire.Every number text := by
  cases ref with
  | year n => exact ⟨around.word _, around.year n admissible, trivial⟩
  | date t => exact ⟨around.word _, around.date t admissible, trivial⟩

theorem Temporal.every_wire {t : Temporal} (admissible : t.Admissible) :
    t.wire.Every number text :=
  ⟨around.word _, TimeRef.every_wire around admissible.baseline, around.word _,
    TimeRef.every_wire around admissible.comparison, around.word _,
    around.name _ admissible.metric, trivial⟩

theorem OrderBy.every_wire {o : OrderBy} (named : o.field.IsName) : o.wire.Every number text := by
  have direction : text o.direction.name := by cases o.direction <;> exact around.word _
  exact ⟨around.word _, around.name _ named, around.word _, direction, trivial⟩

theorem Query.every_wire_of_counted {q : Query} (admissible : q.Admissible)
    (each : q.Every number text) (counted : q.Counted number) : q.wire.Every number text := by
  have logic : ∀ l : Logic, text l.name := by
    intro l
    cases l <;> exact around.word _
  refine every_present ?_
  simp only [List.forall_mem_cons]
  refine ⟨⟨around.word _, every_some_str (around.name _ admissible.selectLayer)⟩,
    ⟨around.word _, every_map fun ts given => every_texts around ?_⟩,
    ⟨around.word _, every_map fun filters given => every_filters around ?_ ?_⟩,
    ⟨around.word _, every_map fun l _ => logic l⟩,
    ⟨around.word _, every_map fun filters given => every_arr_map fun s member =>
      SpatialFilter.every_wire around (admissible.spatials s ?_) (each.spatials s ?_)
        (counted.spatials s ?_)⟩,
    ⟨around.word _, every_map fun l _ => logic l⟩,
    ⟨around.word _, every_map fun a given =>
      Aggregate.every_wire around (admissible.aggregate a given)⟩,
    ⟨around.word _, every_map fun t given =>
      Temporal.every_wire around (admissible.temporal t given)⟩,
    ⟨around.word _, every_map counted.limit⟩,
    ⟨around.word _, every_map fun o given => OrderBy.every_wire around (admissible.orderBy o given)⟩,
    List.forall_mem_nil _⟩
  · simpa [Option.mem_def.mp given] using admissible.selectFields
  · simpa [Query.attributes, Option.mem_def.mp given] using admissible.attributes
  · simpa [Query.attributes, Option.mem_def.mp given] using each.attributes
  · simpa [Query.spatials, Option.mem_def.mp given] using member
  · simpa [Query.spatials, Option.mem_def.mp given] using member
  · simpa [Query.spatials, Option.mem_def.mp given] using member

end

theorem Query.every_wire (surroundings : Query.Surroundings number text) {q : Query}
    (admissible : q.Admissible) (each : q.Every number text) : q.wire.Every number text :=
  Query.every_wire_of_counted surroundings.around admissible each (surroundings.counted q)

theorem Query.finite_surroundings :
    Surroundings (fun n => n.isFinite = true) fun _ => True where
  int _ := rfl
  word _ := trivial
  name _ _ := trivial
  date _ _ := trivial

end SpatialQuery
