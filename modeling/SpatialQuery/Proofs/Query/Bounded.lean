import SpatialQuery.Proofs.Query.Key
import SpatialQuery.Proofs.Query.Planned

/-!
# Every statement is bounded

A statement that is compiled from a bounded query ends with its limit, and the limit is the number that
was asked for, as far as the cap of the layer allows: the smaller of the limit of the query and of the
number of nearest features, where they are given.  A limit that was put in where none was asked for is
never below the number of nearest features.
-/

set_option autoImplicit false

namespace SpatialQuery

namespace Limit

/-- How many rows a query is allowed, by its limit and its number of nearest features. -/
def rows (geometryType : Text) : Option Int → Option Int → Int
  | some limit, none => min limit (cap geometryType)
  | none, none => default geometryType
  | none, some k => min k (cap geometryType)
  | some limit, some k => min (min k limit) (cap geometryType)

theorem rows_pos {limit k : Option Int} (limited : ∀ n ∈ limit, 0 < n) (wanted : ∀ n ∈ k, 0 < n)
    (geometryType : Text) : 0 < rows geometryType limit k := by
  have defaulted := default_pos geometryType
  have capped := default_le_cap geometryType
  cases limit with
  | none =>
    cases k with
    | none => exact defaulted
    | some k =>
      have asked := wanted k rfl
      simp only [rows]
      omega
  | some limit =>
    have bound := limited limit rfl
    cases k with
    | none =>
      simp only [rows]
      omega
    | some k =>
      have asked := wanted k rfl
      simp only [rows]
      omega

theorem rows_le_limit (geometryType : Text) (limit : Int) (k : Option Int) :
    rows geometryType (some limit) k ≤ limit := by
  cases k with
  | none => exact Int.min_le_left _ _
  | some k =>
    simp only [rows]
    omega

theorem rows_le_wanted (geometryType : Text) (limit : Option Int) (k : Int) :
    rows geometryType limit (some k) ≤ k := by
  cases limit with
  | none => exact Int.min_le_left _ _
  | some limit =>
    simp only [rows]
    omega

end Limit

/-! ## The end of a statement -/

namespace Sql

def Written.EndsWith (statement : Written) (ending : String) : Prop :=
  ∃ start, statement.text.marks = start ++ (Text.ofString ending).marks

theorem Select.written_endsWith_limit {s : Select} {limit : Int} (limited : s.limit = some limit) :
    s.written.EndsWith ("\nLIMIT " ++ String.ofList (Number.intChars limit)) := by
  have clauses : ∃ start : List Fragment, s.fragments =
      start ++ [.text "\nLIMIT ", .text (String.ofList (Number.intChars limit))] := by
    refine ⟨.text "SELECT " :: joined ", " (s.outputs.map Output.fragments) ++
      .text "\nFROM " :: .name s.table :: clause "WHERE" (whereFragments s.tests s.places) ++
      s.groupBy.elim [] groupFragments ++
      clause "ORDER BY" (s.order.elim [] Order.fragments), ?_⟩
    rw [fragments, limited]
    rfl
  obtain ⟨start, same⟩ := clauses
  refine ⟨writtenFrom 0 start, ?_⟩
  simp only [written, Sql.written, same, writtenFrom_append, writtenFrom, List.append_nil]
  simp [Text.ofString, Text.ofChars]

end Sql

namespace Query

variable {q : Query} {registry : Registry}

def wanted? (q : Query) : Option Int := q.nearest.head?.bind (·.limit)

theorem wanted_of_mem {k : Int} {filters : List SpatialFilter} :
    k ∈ filters.filterMap Limit.wanted? ↔
      ∃ s ∈ filters, s.op = .nearest ∧ s.limit = some k := by
  rw [List.mem_filterMap]
  refine exists_congr fun s => and_congr_right fun _ => ?_
  by_cases nearest : s.op = .nearest
  · simp [Limit.wanted?, SpatialFilter.isNearest, nearest]
  · simp [Limit.wanted?, SpatialFilter.isNearest, nearest]

theorem filterMap_wanted? (filters : List SpatialFilter) :
    filters.filterMap Limit.wanted? =
      (filters.filter SpatialFilter.isNearest).filterMap (·.limit) := by
  rw [List.filterMap_filter]
  rfl

theorem limit_clamp_of_nearest (bound : Int) {s : SpatialFilter} (nearest : s.isNearest = true) :
    (Limit.clamp bound s).limit = s.limit.map (min bound) := by
  have wanted := Limit.wanted?_clamp bound s
  have still := (isNearest_clamp bound s).trans nearest
  rwa [Limit.wanted?, if_pos still, Limit.wanted?, if_pos nearest] at wanted

theorem maxFeatures_eq (registry : Registry) (single : q.nearest.length ≤ 1) :
    (q.limited registry).maxFeatures =
      match q.limit with
      | some limit => min limit (Limit.cap (q.geometryType registry))
      | none => q.wanted?.elim (Limit.default (q.geometryType registry)) fun k =>
          max (Limit.default (q.geometryType registry))
            (min (Limit.cap (q.geometryType registry)) k) := by
  have numbers : ((q.limited registry).query.spatials).filterMap Limit.wanted? =
      (q.nearest.map (Limit.clamp (Limit.cap (q.geometryType registry)))).filterMap (·.limit) := by
    rw [filterMap_wanted?, ← nearest_limited]
    rfl
  have applied : (q.limited registry).maxFeatures =
      match q.limit with
      | some limit => min limit (Limit.cap (q.geometryType registry))
      | none => ((q.limited registry).query.spatials.filterMap Limit.wanted?).foldl max
          (Limit.default (q.geometryType registry)) := rfl
  rw [applied, numbers]
  unfold wanted?
  rcases filters : q.nearest with _ | ⟨nearest, _ | ⟨second, others⟩⟩
  · rfl
  · have asked : nearest.isNearest = true :=
      (List.mem_filter.mp (filters ▸ List.mem_cons_self : nearest ∈ q.nearest)).2
    cases wanted : nearest.limit with
    | none => simp [limit_clamp_of_nearest _ asked, wanted]
    | some k => simp [limit_clamp_of_nearest _ asked, wanted]
  · rw [filters] at single
    simp at single

theorem limit_statement_limited (registry : Registry) (single : q.nearest.length ≤ 1)
    (counted : ∀ s ∈ q.nearest, s.limit.isSome = true) (tolerance : Number) :
    ((q.limited registry).query.statement tolerance).limit =
      some (Limit.rows (q.geometryType registry) q.limit q.wanted?) := by
  have features := maxFeatures_eq registry single
  have bounded : (q.limited registry).query.limit = some (q.limited registry).maxFeatures := rfl
  unfold statement
  rw [nearest_limited, bounded, features]
  unfold wanted?
  rcases filters : q.nearest with _ | ⟨nearest, _ | ⟨second, others⟩⟩
  · cases given : q.limit with
    | none => cases aggregated : (q.limited registry).query.aggregate <;> rfl
    | some limit => cases aggregated : (q.limited registry).query.aggregate <;> rfl
  · have member : nearest ∈ q.nearest := filters ▸ List.mem_cons_self
    obtain ⟨k, wanted⟩ := Option.isSome_iff_exists.mp (counted nearest member)
    have clamped := limit_clamp_of_nearest (Limit.cap (q.geometryType registry))
      (List.mem_filter.mp member).2
    rw [wanted] at clamped
    cases given : q.limit with
    | none =>
      simp only [List.map_cons, List.head?_cons, Option.bind_some, wanted, clamped, Limit.rows,
        Option.map_some, Option.getD_some, Option.elim_some, Option.some.injEq]
      omega
    | some limit =>
      simp only [List.map_cons, List.head?_cons, Option.bind_some, wanted, clamped, Limit.rows,
        Option.map_some, Option.getD_some, Option.elim_some, Option.some.injEq]
      omega
  · rw [filters] at single
    simp at single

theorem rows_le_maxFeatures (single : q.nearest.length ≤ 1) :
    Limit.rows (q.geometryType registry) q.limit q.wanted? ≤ (q.limited registry).maxFeatures := by
  rw [maxFeatures_eq registry single]
  cases q.limit with
  | none =>
    cases q.wanted? with
    | none => exact Int.le_refl _
    | some k =>
      simp only [Limit.rows, Option.elim_some]
      omega
  | some limit =>
    cases q.wanted? with
    | none => exact Int.le_refl _
    | some k =>
      simp only [Limit.rows]
      omega

theorem truncated_iff : (q.limited registry).truncated = true ↔
    (∃ limit, q.limit = some limit ∧ Limit.cap (q.geometryType registry) < limit) ∨
      ∃ s ∈ q.spatials, ∃ k, s.op = .nearest ∧ s.limit = some k ∧
        Limit.cap (q.geometryType registry) < k := by
  have flag : (q.limited registry).truncated =
      (q.limit.any (Limit.cap (q.geometryType registry) < ·) ||
        (q.spatials.filterMap Limit.wanted?).any (Limit.cap (q.geometryType registry) < ·)) := rfl
  rw [flag, Bool.or_eq_true]
  refine or_congr ?_ ?_
  · simp [Option.any_eq_true]
  · rw [List.any_eq_true]
    constructor
    · rintro ⟨k, member, above⟩
      obtain ⟨s, inSpatials, nearest, wanted⟩ := wanted_of_mem.mp member
      exact ⟨s, inSpatials, k, nearest, wanted, of_decide_eq_true above⟩
    · rintro ⟨s, inSpatials, k, nearest, wanted, above⟩
      exact ⟨k, wanted_of_mem.mpr ⟨s, inSpatials, nearest, wanted⟩, decide_eq_true above⟩

theorem wanted?_pos (positive : ∀ s ∈ q.spatials, ∀ k ∈ s.limit, 0 < k) : ∀ k ∈ q.wanted?, 0 < k := by
  intro k wanted
  unfold wanted? at wanted
  rcases filters : q.nearest with _ | ⟨nearest, others⟩
  · rw [filters] at wanted
    cases wanted
  · rw [filters] at wanted
    have member : nearest ∈ q.nearest := filters ▸ List.mem_cons_self
    exact positive nearest (List.mem_of_mem_filter member) k wanted

theorem geometryType_of_get? {layer : Layer} (found : registry.get? q.selectLayer = some layer) :
    q.geometryType registry = layer.geometryType := by
  rw [geometryType, found]
  rfl

/-- Whatever is compiled from an accepted and grounded query once it is bounded ends with the number of
rows that it is allowed, which is at least one and above neither the cap nor what was asked for.  What
is reported about the limits is what happened to them. -/
theorem compiled_query_is_bounded {raw : Json} (accepted : ofJson raw = .ok q)
    (grounded : q.groundingIssues registry = []) :
    ∃ layer rows, registry.get? q.selectLayer = some layer ∧
      rows = Limit.rows layer.geometryType q.limit q.wanted? ∧
      (∀ w, Sql.compile registry (q.limited registry).query
          (.real (q.limited registry).tolerance) = .ok w →
        (∃ select : Sql.Select, w = select.written ∧ select.limit = some rows) ∧
          w.EndsWith ("\nLIMIT " ++ String.ofList (Number.intChars rows))) ∧
      (registry.IsBacked → ∃ w, Sql.compile registry (q.limited registry).query
        (.real (q.limited registry).tolerance) = .ok w) ∧
      1 ≤ rows ∧ rows ≤ (q.limited registry).maxFeatures ∧
      (q.limited registry).maxFeatures ≤ (q.limited registry).cap ∧
      (q.limited registry).cap = Limit.cap layer.geometryType ∧
      (∀ limit ∈ q.limit, rows ≤ limit) ∧
      (∀ s ∈ q.nearest, ∃ k, s.limit = some k ∧ q.wanted? = some k ∧ rows ≤ k) ∧
      ((q.limited registry).truncated = true ↔
        (∃ limit, q.limit = some limit ∧ Limit.cap layer.geometryType < limit) ∨
          ∃ s ∈ q.spatials, ∃ k, s.op = .nearest ∧ s.limit = some k ∧
            Limit.cap layer.geometryType < k) ∧
      ((q.limited registry).defaultApplied = true ↔ q.limit = none) := by
  obtain ⟨layer, found, isGrounded⟩ := grounded_of_groundingIssues grounded
  have single := isGrounded.single
  have admissible := admissible_of_ofJson accepted
  have geometry := geometryType_of_get? found
  have wanted := wanted?_pos fun s member => (admissible.spatials s member).limit
  have counted : ∀ s ∈ q.nearest, s.limit.isSome = true := by
    intro s member
    obtain ⟨inSpatials, asked⟩ := List.mem_filter.mp member
    have nearest : s.op = .nearest := by simpa [SpatialFilter.isNearest] using asked
    exact (admissible.wellFormed.spatials s inSpatials).limited nearest
  refine ⟨layer, Limit.rows layer.geometryType q.limit q.wanted?, found, rfl, ?_, ?_,
    Limit.rows_pos admissible.limit wanted _, geometry ▸ rows_le_maxFeatures single,
    maxFeatures_le_cap, congrArg Limit.cap geometry, ?_, ?_, geometry ▸ truncated_iff, ?_⟩
  · intro w compiled
    obtain ⟨_, _, _, rfl⟩ := (Sql.compile_ok_iff _ _ _ _).mp compiled
    have limited := limit_statement_limited registry single counted
      (.real (q.limited registry).tolerance)
    rw [geometry] at limited
    exact ⟨⟨_, rfl, limited⟩, Sql.Select.written_endsWith_limit limited⟩
  · intro backed
    have compilable := compilable_of_grounded backed found admissible.wellFormed isGrounded
    exact ⟨_, (Sql.compile_ok_iff _ _ _ _).mpr ⟨layer, found, compilable.limited, rfl⟩⟩
  · intro limit given
    rw [Option.mem_def.mp given]
    exact Limit.rows_le_limit _ limit _
  · intro s member
    obtain ⟨k, given⟩ := Option.isSome_iff_exists.mp (counted s member)
    have only : q.nearest = [s] := by
      rcases filters : q.nearest with _ | ⟨nearest, _ | ⟨second, others⟩⟩
      · rw [filters] at member
        cases member
      · rw [filters] at member
        rw [List.mem_singleton.mp member]
      · rw [filters] at single
        simp at single
    have asked : q.wanted? = some k := by simp [wanted?, only, given]
    refine ⟨k, given, asked, ?_⟩
    rw [asked]
    exact Limit.rows_le_wanted _ _ k
  · exact Option.isNone_iff_eq_none

/-- The nearest 2000 parcels are more than the default for areas, and all of them are asked for. -/
theorem compiled_query_is_bounded_sample :
    ∃ raw q, ofJson raw = .ok q ∧ q.groundingIssues parcelsRegistry = [] ∧ q.limit = none ∧
      q.wanted? = some 2000 ∧ ∀ w,
        Sql.compile parcelsRegistry (q.limited parcelsRegistry).query
          (.real (q.limited parcelsRegistry).tolerance) = .ok w →
        w.EndsWith ("\nLIMIT " ++ String.ofList (Number.intChars 2000)) := by
  let filter : SpatialFilter := ⟨.nearest, "parcels", none, none, some 2000⟩
  let q : Query := { ofLayer "parcels" with spatialFilters := some [filter] }
  have accepted : ofJson q.wire = .ok q := rfl
  have grounded : q.groundingIssues parcelsRegistry = [] := by decide
  obtain ⟨layer, rows, found, counted, ends, _⟩ := compiled_query_is_bounded accepted grounded
  have geometry : layer.geometryType = "Polygon" := by
    cases found
    rfl
  have asked : rows = 2000 := by
    rw [counted, geometry]
    rfl
  refine ⟨q.wire, q, accepted, grounded, rfl, rfl, fun w compiled => ?_⟩
  rw [← asked]
  exact (ends w compiled).2

end Query

end SpatialQuery
