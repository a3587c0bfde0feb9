import SpatialQuery.Proofs.Feature.Body
import SpatialQuery.Proofs.Json.Nesting
import SpatialQuery.Service.Plan

/-!
# Facts can be told

Neither a query nor an assessment is nested deep, and numbers that are not finite become null.  So the
facts beside the features can always be written, and whether there is an answer depends on the rows.
-/

set_option autoImplicit false

namespace SpatialQuery

open Json (depth_arr_le depth_obj_le depth_present_le depth_texts_le forall_some forall_map)

/-! ## Depths -/

theorem Scalar.depth_wire (value : Scalar) : value.wire.depth = 0 := by
  cases value <;> rfl

theorem FilterValue.depth_wire_le (value : FilterValue) : value.wire.depth ≤ 1 := by
  cases value with
  | one value => exact Nat.le_trans (Nat.le_of_eq value.depth_wire) (Nat.zero_le 1)
  | many values => exact depth_arr_le (List.forall_mem_map.mpr fun v _ => Nat.le_of_eq v.depth_wire)

theorem AttributeFilter.depth_wire_le (f : AttributeFilter) : f.wire.depth ≤ 2 := by
  refine depth_obj_le ?_
  simp only [List.forall_mem_cons]
  exact ⟨Nat.zero_le 1, Nat.zero_le 1, f.value.depth_wire_le, nofun⟩

theorem depth_filters_le (filters : List AttributeFilter) :
    (Json.arr (filters.map AttributeFilter.wire)).depth ≤ 3 :=
  depth_arr_le (List.forall_mem_map.mpr fun f _ => f.depth_wire_le)

theorem SpatialFilter.depth_wire_le (s : SpatialFilter) : s.wire.depth ≤ 4 := by
  refine depth_present_le ?_
  simp only [List.forall_mem_cons]
  exact ⟨forall_some (Nat.zero_le 3), forall_some (Nat.zero_le 3), forall_map _ depth_filters_le,
    forall_map _ fun _ => Nat.zero_le 3, forall_map _ fun _ => Nat.zero_le 3, nofun⟩

theorem Metric.depth_wire_le (m : Metric) : m.wire.depth ≤ 1 := by
  refine depth_present_le ?_
  simp only [List.forall_mem_cons]
  exact ⟨forall_some (Nat.le_refl 0), forall_some (Nat.le_refl 0),
    forall_map _ fun _ => Nat.le_refl 0, nofun⟩

theorem Aggregate.depth_wire_le (a : Aggregate) : a.wire.depth ≤ 3 := by
  have metrics : (Json.arr (a.metrics.map Metric.wire)).depth ≤ 2 :=
    depth_arr_le (List.forall_mem_map.mpr fun m _ => m.depth_wire_le)
  refine depth_obj_le ?_
  simp only [List.forall_mem_cons]
  exact ⟨Nat.le_trans (depth_texts_le _) (by decide), metrics, nofun⟩

theorem TimeRef.depth_wire_le (t : TimeRef) : t.wire.depth ≤ 1 := by
  cases t <;> exact Nat.le_refl 1

theorem Temporal.depth_wire_le (t : Temporal) : t.wire.depth ≤ 2 := by
  refine depth_obj_le ?_
  simp only [List.forall_mem_cons]
  exact ⟨t.baseline.depth_wire_le, t.comparison.depth_wire_le, Nat.zero_le 1, nofun⟩

theorem Query.depth_wire_le (q : Query) : q.wire.depth ≤ 6 := by
  have spatials : ∀ filters : List SpatialFilter,
      (Json.arr (filters.map SpatialFilter.wire)).depth ≤ 5 :=
    fun filters => depth_arr_le (List.forall_mem_map.mpr fun s _ => s.depth_wire_le)
  refine depth_present_le ?_
  simp only [List.forall_mem_cons]
  exact ⟨forall_some (Nat.zero_le 5),
    forall_map _ fun _ => Nat.le_trans (depth_texts_le _) (by decide),
    forall_map _ fun _ => Nat.le_trans (depth_filters_le _) (by decide),
    forall_map _ fun _ => Nat.zero_le 5, forall_map _ spatials, forall_map _ fun _ => Nat.zero_le 5,
    forall_map _ fun a => Nat.le_trans a.depth_wire_le (by decide),
    forall_map _ fun t => Nat.le_trans t.depth_wire_le (by decide),
    forall_map _ fun _ => Nat.zero_le 5, forall_map _ fun _ => show 1 ≤ 5 by decide, nofun⟩

/-! ## Writing -/

namespace Feature

theorem depth_metadata_le (count : Int) (milliseconds : Number) (limited : Limited)
    (notes : List Text) (use : CacheUse) {extra : List (Text × Json)}
    (shallow : ∀ m ∈ extra, m.2.depth ≤ 6) :
    (metadata count milliseconds limited notes use extra).depth ≤ 7 := by
  refine depth_obj_le (Json.forall_foldl_insert (p := fun j => j.depth ≤ 6) ?_ shallow)
  refine List.forall_mem_map.mpr ?_
  simp only [List.forall_mem_cons, Json.depth_finiteOrNull]
  exact ⟨Nat.zero_le 6, Nat.zero_le 6, limited.query.depth_wire_le, Nat.zero_le 6,
    Nat.le_trans (depth_texts_le _) (by decide), Nat.zero_le 6, Nat.zero_le 6, Nat.zero_le 6,
    Nat.zero_le 6, Nat.zero_le 6, Nat.le_trans (depth_texts_le _) (by decide),
    show 1 ≤ 6 by decide, nofun⟩

theorem exists_collection [Stack] (features : Text) {facts : Json} (shallow : facts.depth ≤ 16) :
    ∃ body, collection features facts = .ok body := by
  obtain ⟨t, written⟩ := exists_write_ofJson shallow
  exact ⟨_, (bind_ok_iff ..).mpr ⟨t, written, rfl⟩⟩

end Feature

/-! ## Answers -/

theorem Chat.Assessment.depth_toJson_le (a : Chat.Assessment) : a.toJson.depth ≤ 2 := by
  refine depth_present_le ?_
  simp only [List.forall_mem_cons]
  refine ⟨forall_some (Nat.zero_le 1), forall_some (depth_texts_le _), forall_some (depth_texts_le _),
    forall_some (depth_texts_le _), forall_some (depth_texts_le _), forall_some (depth_texts_le _), ?_,
    nofun⟩
  split
  · exact forall_some (Nat.zero_le 1)
  · exact nofun

namespace Service

theorem Origin.facts_shallow (origin : Origin) (count : Nat) :
    ∀ m ∈ origin.facts count, m.2.depth ≤ 6 := by
  cases origin with
  | structured wrapping => exact List.forall_mem_cons.mpr ⟨Nat.zero_le 6, nofun⟩
  | chat intent assessment hit milliseconds =>
    simp only [facts, List.forall_mem_cons, Json.depth_finiteOrNull]
    exact ⟨Nat.zero_le 6, Nat.zero_le 6, Nat.zero_le 6,
      Nat.le_trans (Chat.Assessment.depth_toJson_le _) (by decide), nofun⟩

theorem Plan.exists_answer [Stack] (plan : Plan) (origin : Origin) (hit : Bool) (result : StoredResult) :
    ∃ body, plan.answer origin hit result = .ok body := by
  have shallow := Feature.depth_metadata_le result.count result.milliseconds plan.limited plan.notes
    ⟨origin.parseHit, hit⟩ (origin.facts_shallow result.count)
  obtain ⟨body, told⟩ :=
    Feature.exists_collection result.features (Nat.le_trans shallow (by decide))
  exact ⟨body, by rw [answer, told]; rfl⟩

end Service

end SpatialQuery
