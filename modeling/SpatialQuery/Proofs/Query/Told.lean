import SpatialQuery.Proofs.Feature.Facts
import SpatialQuery.Proofs.Json.ReadBack
import SpatialQuery.Proofs.Query.Key

/-!
# The wire form of a query as text

A query that was read from a text is told by the text of its wire form: whoever reads that text and checks
what was read has the query again.  Only values that split a character into its two halves are not told,
since in the text the halves look like the character.
-/

set_option autoImplicit false

namespace SpatialQuery

namespace Json

mutual

def HasDistinctKeys : Json → Prop
  | .arr items => HaveDistinctKeys items
  | .obj members => (members.map (·.1)).Nodup ∧ MembersHaveDistinctKeys members
  | _ => True

def HaveDistinctKeys : List Json → Prop
  | [] => True
  | j :: rest => HasDistinctKeys j ∧ HaveDistinctKeys rest

def MembersHaveDistinctKeys : List (Text × Json) → Prop
  | [] => True
  | (_, j) :: rest => HasDistinctKeys j ∧ MembersHaveDistinctKeys rest

end

mutual

theorem everyWritable_of_short : ∀ {j : Json}, j.EveryFinite → j.EveryShort → j.EveryWritable
  | .null, _, _ | .bool _, _, _ | .str _, _, _ => trivial
  | .num _, finite, short => ⟨finite, short⟩
  | .arr _, finite, short => everyItem_writable finite short
  | .obj _, finite, short => everyMember_writable finite short

theorem everyItem_writable : ∀ {items : List Json},
    EveryItem (fun n => n.isFinite = true) (fun _ => True) items →
    EveryItem Number.IsShort (fun _ => True) items →
    EveryItem (fun n => n.isFinite = true ∧ n.IsShort) (fun _ => True) items
  | [], _, _ => trivial
  | _ :: _, finite, short =>
    ⟨everyWritable_of_short finite.1 short.1, everyItem_writable finite.2 short.2⟩

theorem everyMember_writable : ∀ {members : List (Text × Json)},
    EveryMember (fun n => n.isFinite = true) (fun _ => True) members →
    EveryMember Number.IsShort (fun _ => True) members →
    EveryMember (fun n => n.isFinite = true ∧ n.IsShort) (fun _ => True) members
  | [], _, _ => trivial
  | (_, _) :: _, finite, short =>
    ⟨trivial, everyWritable_of_short finite.2.1 short.2.1, everyMember_writable finite.2.2 short.2.2⟩

end

mutual

theorem isSettled_of_distinct : ∀ {j : Json}, j.HasDistinctKeys → j.IsWhole → j.IsSettled
  | .null, _, _ | .bool _, _, _ | .num _, _, _ => trivial
  | .str _, _, whole => whole
  | .arr _, distinct, whole => areSettled_of_distinct distinct whole
  | .obj _, distinct, whole => ⟨distinct.1, membersAreSettled_of_distinct distinct.2 whole⟩

theorem areSettled_of_distinct : ∀ {items : List Json}, HaveDistinctKeys items → AreWhole items →
    AreSettled items
  | [], _, _ => trivial
  | _ :: _, distinct, whole =>
    ⟨isSettled_of_distinct distinct.1 whole.1, areSettled_of_distinct distinct.2 whole.2⟩

theorem membersAreSettled_of_distinct : ∀ {members : List (Text × Json)},
    MembersHaveDistinctKeys members → MembersAreWhole members → MembersAreSettled members
  | [], _, _ => trivial
  | (_, _) :: _, distinct, whole =>
    ⟨whole.1, isSettled_of_distinct distinct.1 whole.2.1,
      membersAreSettled_of_distinct distinct.2 whole.2.2⟩

end

theorem membersHaveDistinctKeys_iff {members : List (Text × Json)} :
    MembersHaveDistinctKeys members ↔ ∀ m ∈ members, m.2.HasDistinctKeys := by
  induction members with
  | nil => simp [MembersHaveDistinctKeys]
  | cons m rest ih => simp [MembersHaveDistinctKeys, ih]

theorem hasDistinctKeys_arr_map {α : Type} {items : List α} {write : α → Json}
    (each : ∀ a, (write a).HasDistinctKeys) : (arr (items.map write)).HasDistinctKeys := by
  induction items with
  | nil => exact trivial
  | cons a items ih => exact ⟨each a, ih⟩

theorem hasDistinctKeys_present {members : List (Text × Option Json)}
    (distinct : (members.map (·.1)).Nodup) (each : ∀ m ∈ members, ∀ j ∈ m.2, j.HasDistinctKeys) :
    (present members).HasDistinctKeys := by
  refine ⟨distinct.sublist ?_, membersHaveDistinctKeys_iff.mpr (forall_present each)⟩
  induction members with
  | nil => exact List.Sublist.slnil
  | cons m rest ih =>
    obtain ⟨key, _ | value⟩ := m
    · exact (ih distinct.of_cons fun m member => each m (List.mem_cons_of_mem _ member)).cons key
    · exact (ih distinct.of_cons fun m member => each m (List.mem_cons_of_mem _ member)).cons_cons key

end Json

open Json (HasDistinctKeys hasDistinctKeys_arr_map hasDistinctKeys_present forall_some forall_map)

theorem Scalar.wire_hasDistinctKeys (value : Scalar) : value.wire.HasDistinctKeys := by
  cases value <;> exact trivial

theorem FilterValue.wire_hasDistinctKeys (value : FilterValue) : value.wire.HasDistinctKeys := by
  cases value with
  | one value => exact value.wire_hasDistinctKeys
  | many values => exact hasDistinctKeys_arr_map Scalar.wire_hasDistinctKeys

theorem AttributeFilter.wire_hasDistinctKeys (f : AttributeFilter) : f.wire.HasDistinctKeys := by
  refine ⟨?_, trivial, trivial, f.value.wire_hasDistinctKeys, trivial⟩
  change (["field", "op", "value"] : List Text).Nodup
  decide

theorem SpatialFilter.wire_hasDistinctKeys (s : SpatialFilter) : s.wire.HasDistinctKeys := by
  refine hasDistinctKeys_present ?_ ?_
  · change (["op", "targetLayer", "targetFilter", "distance", "limit"] : List Text).Nodup
    decide
  · simp only [List.forall_mem_cons]
    exact ⟨forall_some trivial, forall_some trivial,
      forall_map _ fun _ => hasDistinctKeys_arr_map AttributeFilter.wire_hasDistinctKeys,
      forall_map _ fun _ => trivial, forall_map _ fun _ => trivial, nofun⟩

theorem Metric.wire_hasDistinctKeys (m : Metric) : m.wire.HasDistinctKeys := by
  refine hasDistinctKeys_present ?_ ?_
  · change (["field", "op", "alias"] : List Text).Nodup
    decide
  · simp only [List.forall_mem_cons]
    exact ⟨forall_some trivial, forall_some trivial, forall_map _ fun _ => trivial, nofun⟩

theorem Aggregate.wire_hasDistinctKeys (a : Aggregate) : a.wire.HasDistinctKeys := by
  refine ⟨?_, hasDistinctKeys_arr_map fun _ => trivial,
    hasDistinctKeys_arr_map Metric.wire_hasDistinctKeys, trivial⟩
  change (["groupBy", "metrics"] : List Text).Nodup
  decide

theorem TimeRef.wire_hasDistinctKeys (ref : TimeRef) : ref.wire.HasDistinctKeys := by
  cases ref <;> exact ⟨List.nodup_cons.mpr ⟨List.not_mem_nil, List.nodup_nil⟩, trivial, trivial⟩

theorem Temporal.wire_hasDistinctKeys (t : Temporal) : t.wire.HasDistinctKeys := by
  refine ⟨?_, t.baseline.wire_hasDistinctKeys, t.comparison.wire_hasDistinctKeys, trivial, trivial⟩
  change (["baseline", "comparison", "metric"] : List Text).Nodup
  decide

theorem OrderBy.wire_hasDistinctKeys (o : OrderBy) : o.wire.HasDistinctKeys := by
  refine ⟨?_, trivial, trivial, trivial⟩
  change (["field", "direction"] : List Text).Nodup
  decide

namespace Query

variable {q : Query}

theorem wire_hasDistinctKeys (q : Query) : q.wire.HasDistinctKeys := by
  refine hasDistinctKeys_present ?_ ?_
  · change (["selectLayer", "selectFields", "attributeFilters", "attributeLogic",
      "spatialFilters", "spatialLogic", "aggregate", "temporal", "limit", "orderBy"] :
        List Text).Nodup
    decide
  · simp only [List.forall_mem_cons]
    exact ⟨forall_some trivial, forall_map _ fun _ => hasDistinctKeys_arr_map fun _ => trivial,
      forall_map _ fun _ => hasDistinctKeys_arr_map AttributeFilter.wire_hasDistinctKeys,
      forall_map _ fun _ => trivial,
      forall_map _ fun _ => hasDistinctKeys_arr_map SpatialFilter.wire_hasDistinctKeys,
      forall_map _ fun _ => trivial, forall_map _ Aggregate.wire_hasDistinctKeys,
      forall_map _ Temporal.wire_hasDistinctKeys, forall_map _ fun _ => trivial,
      forall_map _ OrderBy.wire_hasDistinctKeys, nofun⟩

theorem wire_isSettled (admissible : q.Admissible) (whole : q.IsWhole) : q.wire.IsSettled :=
  Json.isSettled_of_distinct q.wire_hasDistinctKeys (every_wire whole_surroundings admissible whole)

theorem writable_around : Around (fun n => n.isFinite = true ∧ n.IsShort) fun _ => True where
  year := by
    rintro n ⟨above, below⟩
    have fits : (Decimal.digitChars n.natAbs).length ≤ 4 :=
      (Nat.length_toDigits_le_iff (by decide) (by decide)).mpr (by omega)
    exact ⟨rfl, Nat.le_trans fits (by decide)⟩
  word _ := trivial
  name _ _ := trivial
  date _ _ := trivial

theorem wire_everyWritable {raw : Json} (accepted : ofJson raw = .ok q)
    (writable : raw.EveryWritable) : q.wire.EveryWritable :=
  every_wire_of_counted writable_around (admissible_of_ofJson accepted)
    (every_of_ofJson writable accepted) (counted_of_ofJson writable accepted)

theorem read_wire [Stack] {raw : Json} (accepted : ofJson raw = .ok q) (writable : raw.EveryWritable)
    (whole : q.IsWhole) {style : Json.Style} (isOpen : style.IsOpen) (place : Stack.Place) :
    Json.read (Stack.reading place) (style.render q.wire) = .ok q.wire :=
  Json.read_render isOpen (wire_isSettled (admissible_of_ofJson accepted) whole)
    (wire_everyWritable accepted writable)
    (Nat.le_trans q.depth_wire_le (Stack.le_reading (by decide) place))

/-- Checking the wire form of a query gives the query again, and so does reading the text of the wire form
and checking what was read, if the query came from a text and splits no character. -/
theorem wire_form_tells_query [Stack] {raw : Json} (accepted : ofJson raw = .ok q) :
    (∃ again, ofJson q.wire = .ok again ∧ again = q ∧ again.wire = q.wire) ∧
      ∀ place source, Json.read (Stack.reading place) source = .ok raw → raw.isFinite = true → q.IsWhole →
        ∀ style : Json.Style, style.IsOpen → ∀ place, ∃ told,
          Json.read (Stack.reading place) (style.render q.wire) = .ok told ∧
            told = q.wire ∧ ofJson told = .ok q := by
  have again : ofJson q.wire = .ok q := ofJson_wire (admissible_of_ofJson accepted)
  refine ⟨⟨q, again, rfl, rfl⟩, ?_⟩
  intro _ source decoded finite whole style isOpen place
  have writable := Json.everyWritable_of_short (Json.isFinite_iff.mp finite)
    (Json.everyShort_of_read decoded)
  exact ⟨q.wire, read_wire accepted writable whole isOpen place, rfl, again⟩

section

open Stack.Usual

/-- The request for all parcels, with its key in the other spelling. -/
theorem wire_form_tells_query_sample :
    ∃ source raw, Json.read (Stack.reading .body) source = .ok raw ∧ raw.isFinite = true ∧
      ofJson raw = .ok (ofLayer "parcels") ∧ (ofLayer "parcels").IsWhole ∧
      ∃ told, Json.read (Stack.reading .body) (Json.spaced.render (ofLayer "parcels").wire) = .ok told ∧
        told = .obj [("selectLayer", .str "parcels")] ∧ ofJson told = .ok (ofLayer "parcels") := by
  let raw : Json := .obj [("select_layer", .str "parcels")]
  have settled : raw.IsSettled :=
    ⟨List.nodup_cons.mpr ⟨List.not_mem_nil, List.nodup_nil⟩, Text.isWhole_ofString _,
      Text.isWhole_ofString _, trivial⟩
  have writable : raw.EveryWritable := ⟨trivial, trivial, trivial⟩
  have decoded : Json.read (Stack.reading .body) (Json.spaced.render raw) = .ok raw :=
    Json.read_render Json.isOpen_spaced settled writable (by decide)
  have accepted : ofJson raw = .ok (ofLayer "parcels") := rfl
  have whole : (ofLayer "parcels").IsWhole := ⟨nofun, nofun⟩
  obtain ⟨_, textual⟩ := wire_form_tells_query accepted
  obtain ⟨told, read, same, again⟩ :=
    textual .body _ decoded rfl whole Json.spaced Json.isOpen_spaced .body
  exact ⟨_, raw, decoded, rfl, accepted, whole, told, read, same, again⟩

/-- A text in which one half of a character is a mark of its own and the other one is escaped. -/
def halvesSource : Text :=
  ("\x7b\"selectLayer\": \"parcels\", \"attributeFilters\": [\x7b\"field\": \"zoning\", " : Text) ++
    "\"op\": \"eq\", \"value\": \"" ++ ⟨[Text.markOfCode 0xD83D]⟩ ++ "\\ude00\"\x7d]\x7d"

/-- A filter by the two halves of a character, which is accepted, is told as a filter by the character. -/
theorem halves_are_told_as_character :
    ∃ raw, Json.read (Stack.reading .body) halvesSource = .ok raw ∧ raw.isFinite = true ∧
      ofJson raw = .ok (zoningQuery (.str faceHalves)) ∧
      (Json.read (Stack.reading .body)
          (Json.spaced.render (zoningQuery (.str faceHalves)).wire)).toOption.map ofJson =
        some (.ok (zoningQuery (.str face))) ∧
      zoningQuery (.str faceHalves) ≠ zoningQuery (.str face) := by
  have decoded : (Json.read (Stack.reading .body) halvesSource).toOption.map
      (fun raw => (raw.isFinite, ofJson raw)) =
        some (true, .ok (zoningQuery (.str faceHalves))) := by decide +kernel
  have accepted : ofJson (zoningRequest (.str face)) = .ok (zoningQuery (.str face)) := rfl
  have quotations : Json.quoted faceHalves = Json.quoted face := by decide
  have texts : Json.spaced.render (zoningQuery (.str faceHalves)).wire =
      Json.spaced.render (zoningQuery (.str face)).wire := by
    have wire : ∀ t, (zoningQuery (.str t)).wire = .obj [("selectLayer", .str "parcels"),
        ("attributeFilters", .arr [
          .obj [("field", .str "zoning"), ("op", .str "eq"), ("value", .str t)]])] := fun _ => rfl
    simp only [wire, Json.Style.render, Json.Style.chars, Json.Style.memberChars,
      Json.Style.itemChars, quotations]
  have whole : (zoningQuery (.str face)).IsWhole := by
    refine ⟨?_, fun _ member => absurd member List.not_mem_nil⟩
    intro f member
    rw [List.mem_singleton.mp member]
    change face.IsWhole
    decide
  have writable : (zoningRequest (.str face)).EveryWritable :=
    ⟨trivial, ⟨⟨trivial, trivial, trivial, trivial, trivial, trivial, trivial⟩, trivial⟩, trivial,
      trivial, trivial⟩
  cases source : Json.read (Stack.reading .body) halvesSource with
  | error e =>
    rw [source] at decoded
    cases decoded
  | ok raw =>
    rw [source] at decoded
    obtain ⟨finite, read⟩ := Prod.mk.inj (Option.some.inj decoded)
    refine ⟨raw, rfl, finite, read, ?_, by decide⟩
    rw [texts, read_wire accepted writable whole Json.isOpen_spaced .body]
    exact congrArg some (ofJson_wire (admissible_of_ofJson accepted))

end

end Query

end SpatialQuery
