import Mathlib.Logic.Relation
import SpatialQuery.Proofs.Assoc
import SpatialQuery.Proofs.Query.Admissible
import SpatialQuery.Query.Key

/-!
# The spelling of requests

A request can be written in many ways: with its keys in any order, with keys that nothing reads, with null for
what is left out, and with either spelling of a key, at any place where a part of the query is known.  None of
this changes whether it is accepted or which query it is.  A rule only reads what stands under the two
spellings of each of its fields, so one change is followed from the place where it is made up to the whole.
-/

set_option autoImplicit false

namespace SpatialQuery

/-! ## Agreement -/

namespace Checked

variable {α β : Type}

/-- Both are accepted with the same result, or neither is accepted. -/
def Agree (a b : Checked α) : Prop := a.toOption = b.toOption

theorem Agree.ok_iff {a b : Checked α} (agree : Agree a b) (x : α) : a = .ok x ↔ b = .ok x := by
  unfold Agree at agree
  cases a <;> cases b <;> simp_all [Except.toOption]

theorem Agree.map {f : α → β} {a b : Checked α} (agree : Agree a b) : Agree (a.map f) (b.map f) := by
  unfold Agree at *
  cases a <;> cases b <;> simp_all [Checked.map, Except.toOption]

theorem Agree.ap {f g : Checked (α → β)} {a b : Checked α} (functions : Agree f g) (agree : Agree a b) :
    Agree (f.ap a) (g.ap b) := by
  unfold Agree at *
  cases f <;> cases g <;> cases a <;> cases b <;> simp_all [Checked.ap, Except.toOption]

theorem Agree.ensure {a b : Checked α} {fault? : α → Option Text} (agree : Agree a b) :
    Agree (a.ensure fault?) (b.ensure fault?) := by
  unfold Agree at *
  cases a <;> cases b <;> simp_all [Checked.ensure, Except.toOption]

theorem Agree.under {a b : Checked α} {step other : Text} (agree : Agree a b) :
    Agree (a.under step) (b.under other) := by
  unfold Agree at *
  cases a <;> cases b <;> simp_all [Checked.under, Except.toOption]

theorem Agree.allFrom {γ : Type} {item : γ → Checked α} {items others : List γ}
    (agree : List.Forall₂ (fun c d => Agree (item c) (item d)) items others) (index : Nat) :
    Agree (Checked.allFrom item index items) (Checked.allFrom item index others) := by
  induction agree generalizing index with
  | nil => rfl
  | cons first _ ih => exact first.under.map.ap (ih (index + 1))

end Checked

namespace Shape

/-! ## The fields of the parts -/

inductive Kind where
  | query
  | attributeFilter
  | spatialFilter
  | aggregate
  | metric
  | temporal
  | timeRef
  | orderBy
deriving DecidableEq

/-- What a field holds: no part, one part, or a list of parts. -/
inductive Content where
  | leaf
  | one (kind : Kind)
  | many (kind : Kind)
deriving DecidableEq

structure Field where
  key : Text
  spelling : Text
  isOptional : Bool
  content : Content
deriving DecidableEq

def Field.Spells (field : Field) (name : Text) : Prop := name = field.key ∨ name = field.spelling

instance (field : Field) (name : Text) : Decidable (field.Spells name) :=
  inferInstanceAs (Decidable (_ ∨ _))

def Kind.fields : Kind → List Field
  | .query => [
    ⟨"selectLayer", "select_layer", false, .leaf⟩,
    ⟨"selectFields", "select_fields", true, .leaf⟩,
    ⟨"attributeFilters", "attribute_filters", true, .many .attributeFilter⟩,
    ⟨"attributeLogic", "attribute_logic", true, .leaf⟩,
    ⟨"spatialFilters", "spatial_filters", true, .many .spatialFilter⟩,
    ⟨"spatialLogic", "spatial_logic", true, .leaf⟩,
    ⟨"aggregate", "aggregate", true, .one .aggregate⟩,
    ⟨"temporal", "temporal", true, .one .temporal⟩,
    ⟨"limit", "limit", true, .leaf⟩,
    ⟨"orderBy", "order_by", true, .one .orderBy⟩]
  | .attributeFilter => [
    ⟨"field", "field", false, .leaf⟩, ⟨"op", "op", false, .leaf⟩, ⟨"value", "value", false, .leaf⟩]
  | .spatialFilter => [
    ⟨"op", "op", false, .leaf⟩,
    ⟨"targetLayer", "target_layer", false, .leaf⟩,
    ⟨"targetFilter", "target_filter", true, .many .attributeFilter⟩,
    ⟨"distance", "distance", true, .leaf⟩,
    ⟨"limit", "limit", true, .leaf⟩]
  | .aggregate => [
    ⟨"groupBy", "group_by", false, .leaf⟩, ⟨"metrics", "metrics", false, .many .metric⟩]
  | .metric => [
    ⟨"field", "field", false, .leaf⟩, ⟨"op", "op", false, .leaf⟩, ⟨"alias", "alias", true, .leaf⟩]
  | .temporal => [
    ⟨"baseline", "baseline", false, .one .timeRef⟩,
    ⟨"comparison", "comparison", false, .one .timeRef⟩,
    ⟨"metric", "metric", false, .leaf⟩]
  | .timeRef => [⟨"year", "year", false, .leaf⟩, ⟨"date", "date", false, .leaf⟩]
  | .orderBy => [⟨"field", "field", false, .leaf⟩, ⟨"direction", "direction", false, .leaf⟩]

def Kind.Part : Kind → Type
  | .query => Query
  | .attributeFilter => AttributeFilter
  | .spatialFilter => SpatialFilter
  | .aggregate => Aggregate
  | .metric => Metric
  | .temporal => Temporal
  | .timeRef => TimeRef
  | .orderBy => OrderBy

def Kind.rule : (kind : Kind) → Rule kind.Part
  | .query => Shape.query
  | .attributeFilter => Shape.attributeFilter
  | .spatialFilter => Shape.spatialFilter
  | .aggregate => Shape.aggregate
  | .metric => Shape.metric
  | .temporal => Shape.temporal
  | .timeRef => Shape.timeRef
  | .orderBy => Shape.orderBy

/-- No name spells two fields of a part. -/
theorem Kind.eq_of_spells {kind : Kind} {f g : Field} (inFields : f ∈ kind.fields)
    (alsoInFields : g ∈ kind.fields) {name : Text} (spells : f.Spells name)
    (alsoSpells : g.Spells name) : f = g := by
  have apart : ∀ kind : Kind, ∀ f ∈ kind.fields, ∀ g ∈ kind.fields,
      g.Spells f.key ∨ g.Spells f.spelling → f = g := by
    intro kind
    cases kind <;> decide +kernel
  refine apart kind f inFields g alsoInFields ?_
  rcases spells with rfl | rfl
  · exact .inl alsoSpells
  · exact .inr alsoSpells

/-! ## Changes -/

/-- One change to a part: its keys are moved, a key that it does not know or null for an optional field is
added, a key is written in its second spelling, or a part inside of it is changed. -/
inductive Respelled : Kind → Json → Json → Prop
  | moved {kind : Kind} {members others : List (Text × Json)} (distinct : (members.map (·.1)).Nodup)
    (perm : members.Perm others) : Respelled kind (.obj members) (.obj others)
  | unknown {kind : Kind} {members : List (Text × Json)} {key : Text} (j : Json)
    (isUnknown : ∀ field ∈ kind.fields, ¬ field.Spells key) :
    Respelled kind (.obj members) (.obj ((key, j) :: members))
  | absent {kind : Kind} {members : List (Text × Json)} (field : Field) {key : Text}
    (inFields : field ∈ kind.fields) (isOptional : field.isOptional = true) (spells : field.Spells key)
    (alone : ∀ m ∈ members, ¬ field.Spells m.1) :
    Respelled kind (.obj members) (.obj ((key, .null) :: members))
  | renamed {kind : Kind} (before : List (Text × Json)) (field : Field) (j : Json)
    (after : List (Text × Json)) (inFields : field ∈ kind.fields)
    (alone : ∀ m ∈ before ++ after, ¬ field.Spells m.1) :
    Respelled kind (.obj (before ++ (field.key, j) :: after))
      (.obj (before ++ (field.spelling, j) :: after))
  | part {kind inner : Kind} (before : List (Text × Json)) (field : Field) {key : Text} {j k : Json}
    (after : List (Text × Json)) (inFields : field ∈ kind.fields) (holds : field.content = .one inner)
    (spells : field.Spells key) (respelled : Respelled inner j k) :
    Respelled kind (.obj (before ++ (key, j) :: after)) (.obj (before ++ (key, k) :: after))
  | item {kind inner : Kind} (before : List (Text × Json)) (field : Field) {key : Text}
    (first : List Json) {j k : Json} (rest : List Json) (after : List (Text × Json))
    (inFields : field ∈ kind.fields) (holds : field.content = .many inner) (spells : field.Spells key)
    (respelled : Respelled inner j k) :
    Respelled kind (.obj (before ++ (key, .arr (first ++ j :: rest)) :: after))
      (.obj (before ++ (key, .arr (first ++ k :: rest)) :: after))

/-! ## What fields hold -/

open Checked (Agree)

/-- No rule for such content tells the two values apart. -/
def Content.Same : Content → Json → Json → Prop
  | .leaf, j, k => j = k
  | .one kind, j, k => (j = .null ↔ k = .null) ∧ Agree (kind.rule j) (kind.rule k)
  | .many kind, j, k => (j = .null ↔ k = .null) ∧
    Agree (list kind.rule j) (list kind.rule k) ∧
    Agree (nonEmptyList kind.rule j) (nonEmptyList kind.rule k)

theorem Content.Same.refl (content : Content) (j : Json) : content.Same j j := by
  cases content with
  | leaf => exact rfl
  | one => exact ⟨Iff.rfl, rfl⟩
  | many => exact ⟨Iff.rfl, rfl, rfl⟩

theorem Content.Same.null_iff {content : Content} {j k : Json} (same : content.Same j k) :
    j = .null ↔ k = .null := by
  cases content with
  | leaf =>
    cases same
    exact Iff.rfl
  | one | many => exact same.1

namespace Field

def value? (field : Field) (members : List (Text × Json)) : Option Json :=
  (member? members field.key field.spelling).map (·.2)

inductive Same (field : Field) : Option Json → Option Json → Prop
  | absent : Same field none none
  | present {j k : Json} (same : field.content.Same j k) : Same field (some j) (some k)
  | added (isOptional : field.isOptional = true) : Same field none (some .null)

variable {field : Field} {members others : List (Text × Json)}

theorem Same.refl (field : Field) (found : Option Json) : field.Same found found := by
  cases found with
  | none => exact .absent
  | some j => exact .present (.refl field.content j)

theorem value?_eq : field.value? members =
    (Json.member? members field.key).or (Json.member? members field.spelling) := by
  unfold value? member?
  cases Json.member? members field.key with
  | none => cases Json.member? members field.spelling <;> rfl
  | some j => rfl

variable {α : Type} {rule : Rule α}

theorem toOption_required : (required members field.key field.spelling rule).toOption =
    (field.value? members).bind fun j => (rule j).toOption := by
  unfold required value?
  rcases member? members field.key field.spelling with _ | ⟨found, j⟩
  · rfl
  · dsimp only
    rw [Option.map_some, Option.bind_some]
    cases rule j <;> rfl

theorem optional_of_void (void : ∀ j ∈ field.value? members, j = .null) :
    Shape.optional members field.key field.spelling rule = .ok none := by
  unfold value? at void
  unfold Shape.optional
  cases held : member? members field.key field.spelling with
  | none => rfl
  | some found =>
    obtain ⟨name, j⟩ := found
    rw [held] at void
    cases void j rfl
    rfl

theorem toOption_optional {j : Json} (found : field.value? members = some j) (notNull : j ≠ .null) :
    (Shape.optional members field.key field.spelling rule).toOption = (rule j).toOption.map some := by
  unfold value? at found
  unfold Shape.optional
  obtain ⟨⟨name, j⟩, held, rfl⟩ := Option.map_eq_some_iff.mp found
  rw [held]
  dsimp only at notNull ⊢
  split
  · contradiction
  · rename_i same
    cases same
    contradiction
  · rename_i same
    cases same
    cases rule j <;> rfl

theorem Same.required (same : field.Same (field.value? members) (field.value? others))
    (isRequired : field.isOptional = false)
    (agree : ∀ j k, field.content.Same j k → Agree (rule j) (rule k)) :
    Agree (Shape.required members field.key field.spelling rule)
      (Shape.required others field.key field.spelling rule) := by
  rw [Agree, toOption_required, toOption_required]
  generalize field.value? members = found at same
  generalize field.value? others = told at same
  cases same with
  | absent => rfl
  | present inner => exact agree _ _ inner
  | added isOptional => cases isRequired.symm.trans isOptional

theorem Same.optional (same : field.Same (field.value? members) (field.value? others))
    (agree : ∀ j k, field.content.Same j k → Agree (rule j) (rule k)) :
    Agree (Shape.optional members field.key field.spelling rule)
      (Shape.optional others field.key field.spelling rule) := by
  generalize isFound : field.value? members = found at same
  generalize isTold : field.value? others = told at same
  cases same with
  | absent => rw [optional_of_void (by simp [isFound]), optional_of_void (by simp [isTold])]; rfl
  | added => rw [optional_of_void (by simp [isFound]), optional_of_void (by simp [isTold])]; rfl
  | @present j k inner =>
    by_cases isNull : j = .null
    · cases inner.null_iff.mp isNull
      rw [optional_of_void (by simp [isFound, isNull]), optional_of_void (by simp [isTold])]
      rfl
    · have notNull : k ≠ .null := fun contrary => isNull (inner.null_iff.mpr contrary)
      rw [Agree, toOption_optional isFound isNull, toOption_optional isTold notNull]
      exact congrArg (Option.map some) (agree j k inner)

end Field

/-! ## Rules -/

section

variable {members others : List (Text × Json)}

/-- A reference is a year if it can be one, and a date otherwise. -/
theorem toOption_timeRef (j : Json) :
    (timeRef j).toOption = (yearRef j).toOption.or (dateRef j).toOption := by
  unfold timeRef
  cases yearRef j <;> cases dateRef j <;> rfl

theorem timeRef_agrees {j k : Json} (years : Agree (yearRef j) (yearRef k))
    (dates : Agree (dateRef j) (dateRef k)) : Agree (timeRef j) (timeRef k) := by
  rw [Agree, toOption_timeRef, toOption_timeRef, years, dates]

/-- Rules tell no members apart in which the fields hold the same. -/
theorem Kind.rule_agrees (kind : Kind)
    (same : ∀ field ∈ kind.fields, field.Same (field.value? members) (field.value? others)) :
    Agree (kind.rule (.obj members)) (kind.rule (.obj others)) := by
  have leaf {α : Type} (rule : Rule α) (j k : Json) (same : Content.leaf.Same j k) :
      Agree (rule j) (rule k) := congrArg (fun j => (rule j).toOption) same
  have one (kind : Kind) (j k : Json) (same : (Content.one kind).Same j k) :
      Agree (kind.rule j) (kind.rule k) := same.2
  have many (kind : Kind) (j k : Json) (same : (Content.many kind).Same j k) :
      Agree (list kind.rule j) (list kind.rule k) := same.2.1
  cases kind
  all_goals simp only [Kind.fields, List.forall_mem_cons] at same
  case query =>
    obtain ⟨layer, fields, attributes, attributeLogic, spatials, spatialLogic, aggregates, times, limit,
      order, -⟩ := same
    exact (((((((((layer.required rfl (leaf _)).map.ap (fields.optional (leaf _))).ap
      (attributes.optional (many .attributeFilter))).ap (attributeLogic.optional (leaf _))).ap
      (spatials.optional (many .spatialFilter))).ap (spatialLogic.optional (leaf _))).ap
      (aggregates.optional (one .aggregate))).ap (times.optional (one .temporal))).ap
      (limit.optional (leaf _))).ap (order.optional (one .orderBy))
  case attributeFilter =>
    obtain ⟨name, op, value, -⟩ := same
    exact (((name.required rfl (leaf _)).map.ap (op.required rfl (leaf _))).ap
      (value.required rfl (leaf _))).ensure
  case spatialFilter =>
    obtain ⟨op, layer, filters, distance, limit, -⟩ := same
    exact (((((op.required rfl (leaf _)).map.ap (layer.required rfl (leaf _))).ap
      (filters.optional (many .attributeFilter))).ap (distance.optional (leaf _))).ap
      (limit.optional (leaf _))).ensure
  case aggregate =>
    obtain ⟨groups, metrics, -⟩ := same
    exact (groups.required rfl (leaf _)).map.ap
      (metrics.required rfl fun _ _ (same : (Content.many .metric).Same _ _) => same.2.2)
  case metric =>
    obtain ⟨name, op, label, -⟩ := same
    exact ((name.required rfl (leaf _)).map.ap (op.required rfl (leaf _))).ap (label.optional (leaf _))
  case temporal =>
    obtain ⟨baseline, comparison, metric, -⟩ := same
    exact ((baseline.required rfl (one .timeRef)).map.ap (comparison.required rfl (one .timeRef))).ap
      (metric.required rfl (leaf _))
  case timeRef =>
    obtain ⟨year, date, -⟩ := same
    exact timeRef_agrees (year.required rfl (leaf _)).map (date.required rfl (leaf _)).map
  case orderBy =>
    obtain ⟨name, direction, -⟩ := same
    exact (name.required rfl (leaf _)).map.ap (direction.required rfl (leaf _))

end

/-! ## Changes keep what fields hold -/

namespace Field

variable {field : Field} {before after members others : List (Text × Json)} {name : Text} {j k : Json}

theorem value?_congr (same : ∀ name, field.Spells name →
    Json.member? members name = Json.member? others name) :
    field.value? members = field.value? others := by
  rw [value?_eq, value?_eq, same field.key (.inl rfl), same field.spelling (.inr rfl)]

theorem member?_append : Json.member? (before ++ after) name =
    (Json.member? before name).or (Json.member? after name) := Assoc.get?_append name before after

theorem member?_cons (other : Text) : Json.member? ((name, j) :: after) other =
    if name = other then some j else Json.member? after other := rfl

theorem value?_elsewhere (differs : ¬ field.Spells name) :
    field.value? (before ++ (name, j) :: after) = field.value? (before ++ after) := by
  refine value?_congr fun other spells => ?_
  have apart : name ≠ other := by
    rintro rfl
    exact differs spells
  rw [member?_append, member?_append, member?_cons, if_neg apart]

theorem member?_of_alone (alone : ∀ m ∈ members, ¬ field.Spells m.1) (spells : field.Spells name) :
    Json.member? members name = none := by
  refine Assoc.get?_eq_none_iff.mpr fun member => ?_
  obtain ⟨m, inMembers, rfl⟩ := List.mem_map.mp member
  exact alone m inMembers spells

theorem value?_of_alone (alone : ∀ m ∈ members, ¬ field.Spells m.1) : field.value? members = none := by
  rw [value?_eq, member?_of_alone alone (.inl rfl), member?_of_alone alone (.inr rfl)]
  rfl

theorem value?_alone (spells : field.Spells name)
    (alone : ∀ m ∈ before ++ after, ¬ field.Spells m.1) :
    field.value? (before ++ (name, j) :: after) = some j := by
  obtain ⟨first, last⟩ := List.forall_mem_append.mp alone
  rw [value?_eq, member?_append, member?_append, member?_of_alone first (.inl rfl),
    member?_of_alone first (.inr rfl), member?_cons, member?_cons, member?_of_alone last (.inl rfl),
    member?_of_alone last (.inr rfl)]
  rcases spells with rfl | rfl
  · simp
  · split <;> simp

theorem value?_replaced (field : Field) (before after : List (Text × Json)) (name : Text) (j k : Json) :
    field.value? (before ++ (name, j) :: after) = field.value? (before ++ (name, k) :: after) ∨
      field.value? (before ++ (name, j) :: after) = some j ∧
        field.value? (before ++ (name, k) :: after) = some k := by
  -- A key in front hides the value, and so does the first spelling where the value is under the second.
  simp only [value?_eq, member?_append, member?_cons]
  cases Json.member? before field.key with
  | some held => exact .inl rfl
  | none =>
    by_cases isKey : name = field.key
    · simp [isKey]
    · cases Json.member? after field.key with
      | some held => simp [isKey]
      | none =>
        cases Json.member? before field.spelling with
        | some held => simp [isKey]
        | none =>
          by_cases isSpelling : name = field.spelling
          · subst isSpelling
            simp [isKey]
          · simp [isKey, isSpelling]

end Field

/-- Both are objects whose members the rules of the kind do not tell apart. -/
def Kind.Same (kind : Kind) (j k : Json) : Prop :=
  ∃ members others, j = .obj members ∧ k = .obj others ∧
    ∀ field ∈ kind.fields, field.Same (field.value? members) (field.value? others)

theorem Kind.Same.agree {kind : Kind} {j k : Json} (same : kind.Same j k) :
    Agree (kind.rule j) (kind.rule k) := by
  obtain ⟨members, others, rfl, rfl, same⟩ := same
  exact kind.rule_agrees same

theorem Kind.Same.one {kind : Kind} {j k : Json} (same : kind.Same j k) :
    (Content.one kind).Same j k := by
  refine ⟨?_, same.agree⟩
  obtain ⟨members, others, rfl, rfl, _⟩ := same
  exact iff_of_false nofun nofun

theorem forall₂_replaced {α : Type} (r : α → α → Prop) (refl : ∀ a, r a a) {a b : α}
    (one : r a b) (first rest : List α) :
    List.Forall₂ r (first ++ a :: rest) (first ++ b :: rest) := by
  induction first with
  | nil => exact .cons one (List.forall₂_same.mpr fun c _ => refl c)
  | cons c first ih => exact .cons (refl c) ih

theorem Kind.Same.many {kind : Kind} {j k : Json} (same : kind.Same j k) (first rest : List Json) :
    (Content.many kind).Same (.arr (first ++ j :: rest)) (.arr (first ++ k :: rest)) := by
  have lists : Agree (list kind.rule (.arr (first ++ j :: rest)))
      (list kind.rule (.arr (first ++ k :: rest))) :=
    .allFrom (forall₂_replaced (fun c d => Agree (kind.rule c) (kind.rule d)) (fun _ => rfl)
      same.agree first rest) 0
  refine ⟨iff_of_false nofun nofun, lists, ?_⟩
  cases first <;> exact lists

theorem same_of_replaced {kind : Kind} {before after : List (Text × Json)} {field : Field} {key : Text}
    {j k : Json} (inFields : field ∈ kind.fields) (spells : field.Spells key)
    (same : field.content.Same j k) :
    kind.Same (.obj (before ++ (key, j) :: after)) (.obj (before ++ (key, k) :: after)) := by
  refine ⟨_, _, rfl, rfl, fun other inFields' => ?_⟩
  by_cases itself : other.Spells key
  · rw [Kind.eq_of_spells inFields' inFields itself spells]
    rcases field.value?_replaced before after key j k with unchanged | ⟨was, is⟩
    · rw [unchanged]
      exact .refl field _
    · rw [was, is]
      exact .present same
  · rw [Field.value?_elsewhere itself, Field.value?_elsewhere itself]
    exact .refl other _

theorem Respelled.same {kind : Kind} {j k : Json} (respelled : Respelled kind j k) : kind.Same j k := by
  -- The induction goes from the place of the change outwards: what a part comes to is all that its
  -- surroundings see of it.
  induction respelled with
  | moved distinct perm =>
    refine ⟨_, _, rfl, rfl, fun field _ => ?_⟩
    rw [Field.value?_congr fun name _ => (Assoc.get?_perm perm distinct name).symm]
    exact .refl field _
  | @unknown kind members key j isUnknown =>
    refine ⟨_, _, rfl, rfl, fun field inFields => ?_⟩
    rw [← List.nil_append ((key, j) :: members), Field.value?_elsewhere (isUnknown field inFields)]
    exact .refl field _
  | @absent kind members field key inFields isOptional spells alone =>
    refine ⟨_, _, rfl, rfl, fun other inFields' => ?_⟩
    rw [← List.nil_append ((key, Json.null) :: members)]
    by_cases itself : other.Spells key
    · rw [Kind.eq_of_spells inFields' inFields itself spells, Field.value?_alone spells alone,
        Field.value?_of_alone alone]
      exact .added isOptional
    · rw [Field.value?_elsewhere itself]
      exact .refl other _
  | renamed before field j after inFields alone =>
    refine ⟨_, _, rfl, rfl, fun other inFields' => ?_⟩
    by_cases itself : other = field
    · subst itself
      rw [Field.value?_alone (.inl rfl) alone, Field.value?_alone (.inr rfl) alone]
      exact .refl other _
    · have apart {name : Text} (spells : field.Spells name) : ¬ other.Spells name :=
        fun itself' => itself (Kind.eq_of_spells inFields' inFields itself' spells)
      rw [Field.value?_elsewhere (apart (.inl rfl)), Field.value?_elsewhere (apart (.inr rfl))]
      exact .refl other _
  | part before field after inFields holds spells _ ih =>
    refine same_of_replaced inFields spells ?_
    rw [holds]
    exact ih.one
  | item before field first rest after inFields holds spells _ ih =>
    refine same_of_replaced inFields spells ?_
    rw [holds]
    exact ih.many first rest

end Shape

namespace Query

open Shape (Respelled)

variable {raw told : Json}

theorem agree_of_respelled (respelled : Relation.EqvGen (Respelled .query) raw told) :
    Checked.Agree (Shape.query raw) (Shape.query told) := by
  induction respelled with
  | rel _ _ change => exact change.same.agree
  | refl => rfl
  | symm _ _ _ ih => exact ih.symm
  | trans _ _ _ _ _ first second => exact first.trans second

theorem ofJson_of_respelled (respelled : Relation.EqvGen (Respelled .query) raw told) (q : Query) :
    ofJson raw = .ok q ↔ ofJson told = .ok q := by
  rw [ofJson_ok_iff, ofJson_ok_iff]
  exact (agree_of_respelled respelled).ok_iff q

/-- Through any number of changes of its spelling a request stays accepted or refused, and it stays the same
query with the same keys. -/
theorem same_query_of_respelled (respelled : Relation.EqvGen (Respelled .query) raw told) :
    ((∃ q, ofJson raw = .ok q) ↔ ∃ q, ofJson told = .ok q) ∧
    ∀ q other, ofJson raw = .ok q → ofJson told = .ok other →
      q = other ∧ q.canonical = other.canonical ∧ q.hash = other.hash ∧
        ∀ tolerance, q.resultKey tolerance = other.resultKey tolerance := by
  refine ⟨exists_congr (ofJson_of_respelled respelled), fun q other accepted alsoAccepted => ?_⟩
  cases ((ofJson_of_respelled respelled q).mp accepted).symm.trans alsoAccepted
  exact ⟨rfl, rfl, rfl, fun _ => rfl⟩

/-- Parcels near water, by the key of the layer and the members of the filter. -/
def nearWater (layerKey : Text) (filter : List (Text × Json)) : List (Text × Json) :=
  [(layerKey, .str "parcels"), ("spatialFilters", .arr [.obj filter])]

def waterFilter (layerKey : Text) : List (Text × Json) :=
  [("op", .str "within_distance"), (layerKey, .str "hydrology"), ("distance", .int 100)]

def movedFilter : List (Text × Json) :=
  [("distance", .int 100), ("op", .str "within_distance"), ("target_layer", .str "hydrology")]

def usualRequest : Json := .obj (nearWater "selectLayer" (waterFilter "targetLayer"))

/-- With a second spelling and another order inside of the filter, and outside of it with a second spelling,
null for the limit and a note. -/
def oddRequest : Json :=
  .obj (("note", .bool true) :: ("limit", .null) :: nearWater "select_layer" movedFilter)

theorem usual_respelled_odd : Relation.EqvGen (Respelled .query) usualRequest oddRequest := by
  have inside {filter other : List (Text × Json)}
      (change : Respelled .spatialFilter (.obj filter) (.obj other)) :
      Respelled .query (.obj (nearWater "selectLayer" filter)) (.obj (nearWater "selectLayer" other)) :=
    .item [("selectLayer", .str "parcels")]
      ⟨"spatialFilters", "spatial_filters", true, .many .spatialFilter⟩ [] [] [] (by decide) rfl
      (.inl rfl) change
  have renamedInside := inside (.renamed [("op", .str "within_distance")]
    ⟨"targetLayer", "target_layer", false, .leaf⟩ (.str "hydrology") [("distance", .int 100)]
    (by decide) (by decide))
  have movedInside : Respelled .query (.obj (nearWater "selectLayer" (waterFilter "target_layer")))
      (.obj (nearWater "selectLayer" movedFilter)) :=
    inside (.moved (by decide) (.trans (.cons _ (.swap _ _ _)) (.swap _ _ _)))
  have renamed : Respelled .query (.obj (nearWater "selectLayer" movedFilter))
      (.obj (nearWater "select_layer" movedFilter)) :=
    .renamed [] ⟨"selectLayer", "select_layer", false, .leaf⟩ _ _ (by decide) (by decide)
  have absent : Respelled .query (.obj (nearWater "select_layer" movedFilter))
      (.obj (("limit", .null) :: nearWater "select_layer" movedFilter)) :=
    .absent ⟨"limit", "limit", true, .leaf⟩ (by decide) rfl (.inl rfl) (by decide)
  have unknown : Respelled .query (.obj (("limit", .null) :: nearWater "select_layer" movedFilter))
      oddRequest := .unknown _ (by decide)
  exact .trans _ _ _ (.rel _ _ renamedInside) (.trans _ _ _ (.rel _ _ movedInside)
    (.trans _ _ _ (.rel _ _ renamed) (.trans _ _ _ (.rel _ _ absent) (.rel _ _ unknown))))

theorem odd_request_same_query : Relation.EqvGen (Respelled .query) usualRequest oddRequest ∧
    (∃ q, ofJson usualRequest = .ok q) ∧
    ((∃ q, ofJson usualRequest = .ok q) ↔ ∃ q, ofJson oddRequest = .ok q) ∧
    ∀ q other, ofJson usualRequest = .ok q → ofJson oddRequest = .ok other →
      q = other ∧ q.canonical = other.canonical ∧ q.hash = other.hash ∧
        ∀ tolerance, q.resultKey tolerance = other.resultKey tolerance :=
  ⟨usual_respelled_odd, ⟨_, rfl⟩, same_query_of_respelled usual_respelled_odd⟩

end Query

end SpatialQuery
