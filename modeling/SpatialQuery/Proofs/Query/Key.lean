import SpatialQuery.Proofs.Json.Writing
import SpatialQuery.Proofs.Query.RoundTrip
import SpatialQuery.Proofs.Query.Values
import SpatialQuery.Query.Key
import SpatialQuery.Sql.Compile

/-!
# What the text of a key tells

The text under which a result is kept tells the query and the tolerance, as long as no value splits a
character into the two halves of its pair.  Names cannot be split so, but the values of filters can: the
text is written in ASCII, where the halves look like the character.
-/

set_option autoImplicit false

namespace SpatialQuery

namespace Query

/-- No text that the query compares with has the halves of a pair for neighbours. -/
abbrev IsWhole : Query → Prop := Query.Every (fun _ => True) Text.IsWhole

theorem date_isWhole {t : Text} (isDate : Shape.isDateText t = true) : t.IsWhole := by
  refine Text.isWhole_of_shown fun c member => ?_
  rintro rfl
  unfold Shape.isDateText at isDate
  split at isDate
  · rename_i y y1 y2 y3 m m1 d d1 rest written
    rw [Bool.and_eq_true, List.all_eq_true, Bool.or_eq_true, beq_iff_eq, beq_iff_eq] at isDate
    obtain ⟨digits, ending⟩ := isDate
    have noDigit : Text.isDigit '\uFFFD' ≠ true := by decide
    rw [written] at member
    have other : '\uFFFD' ∉ [y, y1, y2, y3, m, m1, d, d1] := fun digit => noDigit (digits _ digit)
    simp only [List.mem_cons, List.not_mem_nil, or_false, not_or] at other member
    rcases ending with rfl | rfl
    · simp_all
    · simp_all
  · cases isDate

theorem whole_surroundings : Surroundings (fun _ => True) Text.IsWhole where
  int _ := trivial
  word := Text.isWhole_ofString
  name _ named := Text.isWhole_of_ordinary named.ordinary
  date _ := date_isWhole

theorem sorted_wire_isWhole {q : Query} (admissible : q.Admissible) (whole : q.IsWhole) :
    (Json.sorted q.wire).IsWhole :=
  Json.every_sorted (every_wire whole_surroundings admissible whole)

theorem resultText_toList (q : Query) (tolerance : Number) : (q.resultText tolerance).toList =
    Json.compact.chars (Json.sorted q.wire) ++ '|' :: tolerance.chars Decimal.plainLayout := by
  simp [resultText, canonical, Json.canonical, Json.Style.render, Number.text]

theorem eq_of_sorted_wire {q r : Query} (admissibleQ : q.Admissible) (admissibleR : r.Admissible)
    (same : Json.sorted q.wire = Json.sorted r.wire) : q = r := by
  have readQ := ofJson_rearranged Json.rearranges_sorted admissibleQ
  have readR := ofJson_rearranged Json.rearranges_sorted admissibleR
  rw [same, readR] at readQ
  cases readQ
  rfl

theorem eq_of_resultText {q r : Query} (admissibleQ : q.Admissible) (admissibleR : r.Admissible)
    (wholeQ : q.IsWhole) (wholeR : r.IsWhole) {s t : Number}
    (same : q.resultText s = r.resultText t) : q = r ∧ s = t := by
  have texts := congrArg String.toList same
  rw [resultText_toList, resultText_toList] at texts
  obtain ⟨members, tolerances⟩ := Json.chars_cancel Json.compact _ _
    (sorted_wire_isWhole admissibleQ wholeQ) (sorted_wire_isWhole admissibleR wholeR)
    (Json.endsNumber_cons (by decide) _) (Json.endsNumber_cons (by decide) _) texts
  exact ⟨eq_of_sorted_wire admissibleQ admissibleR members,
    Number.chars_injective Decimal.plainLayout_isTelling (List.cons.inj tolerances).2⟩

/-- The text of a key tells the query in every field, the tolerance, and so the statement. -/
theorem key_text_tells_query {raw other : Json} {q r : Query} (acceptedQ : ofJson raw = .ok q)
    (acceptedR : ofJson other = .ok r) (wholeQ : q.IsWhole) (wholeR : r.IsWhole) {s t : Number}
    (same : q.resultText s = r.resultText t) :
    q = r ∧ s = t ∧ ∀ registry, Sql.compile registry q s = Sql.compile registry r t := by
  obtain ⟨rfl, rfl⟩ := eq_of_resultText (admissible_of_ofJson acceptedQ)
    (admissible_of_ofJson acceptedR) wholeQ wholeR same
  exact ⟨rfl, rfl, fun _ => rfl⟩

def zoningRequest (value : Json) : Json := .obj [
  ("attributeFilters", .arr [
    .obj [("value", value), ("op", .str "eq"), ("field", .str "zoning")]]),
  ("select_layer", .str "parcels")]

def zoningQuery (value : Scalar) : Query :=
  { Query.ofLayer "parcels" with attributeFilters := some [⟨"zoning", .eq, .one value⟩] }

/-- The order of members and the spelling of their keys do not matter. -/
theorem key_text_tells_query_sample :
    ofJson (zoningRequest (.str "R-1")) = .ok (zoningQuery (.str "R-1")) ∧
      ofJson (zoningQuery (.str "R-1")).wire = .ok (zoningQuery (.str "R-1")) ∧
      ∀ registry, Sql.compile registry (zoningQuery (.str "R-1")) (.int 0) =
        Sql.compile registry (zoningQuery (.str "R-1")) (.int 0) := by
  have accepted : ofJson (zoningRequest (.str "R-1")) = .ok (zoningQuery (.str "R-1")) := rfl
  have again : ofJson (zoningQuery (.str "R-1")).wire = .ok (zoningQuery (.str "R-1")) := rfl
  have whole : (zoningQuery (.str "R-1")).IsWhole := by
    refine ⟨?_, nofun⟩
    intro f member
    rw [List.mem_singleton.mp member]
    exact Text.isWhole_ofString "R-1"
  obtain ⟨_, _, statements⟩ := key_text_tells_query accepted again whole whole rfl
  exact ⟨accepted, again, statements⟩

/-- A character beyond the basic plane. -/
def face : Text := ⟨[.char (Char.ofNat 0x1F600)]⟩

/-- Its two halves, each a mark of its own. -/
def faceHalves : Text := ⟨[Text.markOfCode 0xD83D, Text.markOfCode 0xDE00]⟩

def parcelsRegistry : Registry := .ofLayers
  [⟨"parcels", "Polygon", [("zoning", "string")], ["zoning"], ["zoning"], [], true, none, none, none⟩]
  .null

def zoningMembers (t : Text) (limit : Option Int) : List (Text × Json) :=
  let filters : Json := .arr [.obj [("field", .str "zoning"), ("op", .str "eq"), ("value", .str t)]]
  match limit with
  | none => [("attributeFilters", filters), ("selectLayer", .str "parcels")]
  | some n => [("attributeFilters", filters), ("limit", .int n), ("selectLayer", .str "parcels")]

theorem sorted_zoningQuery (t : Text) (limit : Option Int) :
    Json.sorted { zoningQuery (.str t) with limit }.wire = .obj (zoningMembers t limit) := by
  have layerFilters : Text.precedes "selectLayer" "attributeFilters" = false := by decide
  have layerLimit : Text.precedes "selectLayer" "limit" = false := by decide
  have filtersLimit : Text.precedes "attributeFilters" "limit" = true := by decide
  have fieldOp : Text.precedes "field" "op" = true := by decide
  have opValue : Text.precedes "op" "value" = true := by decide
  have fieldValue : Text.precedes "field" "value" = true := by decide
  cases limit with
  | none =>
    have wire : { zoningQuery (.str t) with limit := none }.wire = .obj [
        ("selectLayer", .str "parcels"),
        ("attributeFilters", .arr [
          .obj [("field", .str "zoning"), ("op", .str "eq"), ("value", .str t)]])] := rfl
    rw [wire]
    simp [zoningMembers, Json.sorted, Json.membersSorted, Json.allSorted, List.mergeSort,
      List.MergeSort.Internal.splitInTwo, layerFilters, fieldOp, opValue, fieldValue]
  | some n =>
    have wire : { zoningQuery (.str t) with limit := some n }.wire = .obj [
        ("selectLayer", .str "parcels"),
        ("attributeFilters", .arr [
          .obj [("field", .str "zoning"), ("op", .str "eq"), ("value", .str t)]]),
        ("limit", .int n)] := rfl
    rw [wire]
    simp [zoningMembers, Json.sorted, Json.membersSorted, Json.allSorted, List.mergeSort,
      List.MergeSort.Internal.splitInTwo, layerFilters, layerLimit, filtersLimit, fieldOp, opValue,
      fieldValue, Json.int]

theorem canonical_halves (limit : Option Int) :
    { zoningQuery (.str face) with limit }.canonical =
      { zoningQuery (.str faceHalves) with limit }.canonical := by
  have quotations : Json.quoted face = Json.quoted faceHalves := by decide
  rw [canonical, canonical, Json.canonical, Json.canonical, sorted_zoningQuery, sorted_zoningQuery]
  cases limit <;> simp only [zoningMembers, Json.Style.render, Json.Style.chars,
    Json.Style.memberChars, Json.Style.itemChars, quotations]

/-- Without the condition on halves the texts do not tell the queries: both are accepted, their keys have
one text, and their statements compare with different values. -/
theorem halves_share_key_text :
    ofJson (zoningRequest (.str face)) = .ok (zoningQuery (.str face)) ∧
      ofJson (zoningRequest (.str faceHalves)) = .ok (zoningQuery (.str faceHalves)) ∧
      (∀ tolerance, (zoningQuery (.str face)).resultText tolerance =
        (zoningQuery (.str faceHalves)).resultText tolerance) ∧
      zoningQuery (.str face) ≠ zoningQuery (.str faceHalves) ∧
      (Sql.compile parcelsRegistry (zoningQuery (.str face)) (.int 0)).toOption.map
          (·.values) = some [.one (.str face)] ∧
      (Sql.compile parcelsRegistry (zoningQuery (.str faceHalves)) (.int 0)).toOption.map
          (·.values) = some [.one (.str faceHalves)] := by
  refine ⟨rfl, rfl, fun tolerance => ?_, by decide, rfl, rfl⟩
  rw [resultText, resultText]
  exact congrArg (· ++ "|" ++ tolerance.text Decimal.plainLayout) (canonical_halves none)

end Query

end SpatialQuery
