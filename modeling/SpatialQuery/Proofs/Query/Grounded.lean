import SpatialQuery.Proofs.Layer.Built
import SpatialQuery.Proofs.Query.Answerable
import SpatialQuery.Proofs.Query.WellFormed
import SpatialQuery.Proofs.Sql.Compiled
import SpatialQuery.Query.Limit

/-!
# Grounded queries are compiled

Grounding and compilation check a query on their own, by other fields of a layer and in other words.
What passed the first check never fails the second one, if the query was accepted and the registry was
built from a manifest, and bounding the query does not change this.
-/

set_option autoImplicit false

namespace SpatialQuery

theorem Query.grounded_of_groundingIssues {registry : Registry} {q : Query}
    (sound : q.groundingIssues registry = []) :
    ∃ layer, registry.get? q.selectLayer = some layer ∧ q.IsGrounded registry layer := by
  obtain ⟨layer, found, answerable⟩ := Query.groundingIssues_eq_nil_iff.mp sound
  exact ⟨layer, found, answerable.toIsGrounded⟩

/-! ## What can be compiled -/

theorem AttributeFilter.WellFormed.isSayable {f : AttributeFilter} (wellFormed : f.WellFormed) :
    f.IsSayable := by
  obtain ⟨field, op, value⟩ := f
  obtain ⟨inLanguage, sound⟩ := wellFormed
  cases op with
  | oneOf =>
    rcases value with value | (_ | ⟨first, rest⟩)
    · cases sound
    · cases sound
    · exact ⟨first, rest, rfl⟩
  | other name => simp [AttributeOp.all] at inLanguage
  | _ => rfl

theorem Layer.IsBacked.testable {layer : Layer} (backed : layer.IsBacked) {f : AttributeFilter}
    (wellFormed : f.WellFormed) (queryable : f.field ∈ layer.queryableFields) : f.Testable layer :=
  ⟨backed f.field queryable, wellFormed.isSayable⟩

theorem Registry.IsBacked.layer {registry : Registry} (backed : registry.IsBacked) {name : Text}
    {layer : Layer} (found : registry.get? name = some layer) : layer.IsBacked :=
  backed layer (List.mem_of_find?_eq_some found)

theorem SpatialFilter.reachable_of_grounded {registry : Registry} (backed : registry.IsBacked)
    {s : SpatialFilter} (wellFormed : s.WellFormed) (grounded : s.IsGrounded registry) :
    s.Reachable registry := by
  obtain ⟨target, found, queryable⟩ := grounded
  exact ⟨target, found, fun f member =>
    (backed.layer found).testable (wellFormed.targets f member) (queryable f member)⟩

theorem SpatialFilter.WellFormed.measured {s : SpatialFilter} (wellFormed : s.WellFormed)
    (metric : s.op = .withinDistance) : s.distance.isSome = true := by
  have sound := wellFormed.parameters
  unfold Shape.parameterFault? at sound
  rw [metric] at sound
  cases given : s.distance with
  | none =>
    rw [given] at sound
    cases sound
  | some distance => rfl

theorem SpatialFilter.WellFormed.limited {s : SpatialFilter} (wellFormed : s.WellFormed)
    (nearest : s.op = .nearest) : s.limit.isSome = true := by
  have sound := wellFormed.parameters
  unfold Shape.parameterFault? at sound
  rw [nearest] at sound
  cases given : s.limit with
  | none =>
    rw [given] at sound
    cases sound
  | some limit => rfl

theorem SpatialFilter.placeable_of_grounded {registry : Registry} (backed : registry.IsBacked)
    {s : SpatialFilter} (condition : s.isNearest = false) (wellFormed : s.WellFormed)
    (grounded : s.IsGrounded registry) : s.Placeable registry := by
  refine ⟨condition, reachable_of_grounded backed wellFormed grounded, wellFormed.measured, ?_⟩
  intro unmeasured
  obtain ⟨op, targetLayer, targetFilter, distance, limit⟩ := s
  have inLanguage := wellFormed.op
  cases op with
  | nearest => cases condition
  | withinDistance => exact absurd rfl unmeasured
  | other name => simp [SpatialOp.all] at inLanguage
  | _ => rfl

namespace Query

theorem compilable_of_grounded {registry : Registry} (backed : registry.IsBacked) {layer : Layer}
    {q : Query} (found : registry.get? q.selectLayer = some layer) (wellFormed : q.WellFormed)
    (grounded : q.IsGrounded registry layer) : q.Compilable registry layer := by
  have known := backed.layer found
  have fields : ∀ name ∈ q.selectFields.getD [], layer.hasColumn name = true := fun name member =>
    known name (grounded.fields name member)
  have order : ∀ o ∈ q.orderBy, layer.hasColumn o.field = true := fun o given =>
    known o.field (grounded.order o given)
  refine ⟨?_, ?_, ?_⟩
  · intro f member
    exact known.testable (wellFormed.attributes f member) (grounded.attributes f member)
  · intro s member
    obtain ⟨inSpatials, condition⟩ := List.mem_filter.mp member
    exact SpatialFilter.placeable_of_grounded backed (by simpa using condition)
      (wellFormed.spatials s inSpatials) (grounded.spatials s inSpatials)
  · have single := grounded.single
    have plain := grounded.plain
    unfold OutputsKnown
    rcases filters : q.nearest with _ | ⟨nearest, _ | ⟨second, others⟩⟩
    · cases aggregated : q.aggregate with
      | none => exact ⟨fields, order⟩
      | some aggregate =>
        exact ⟨fun name member => known name (grounded.groups aggregate aggregated name member),
          fun m member part => known m.field (grounded.metrics aggregate aggregated m member part),
          order⟩
    · have member : nearest ∈ q.nearest := by simp [filters]
      obtain ⟨inSpatials, asked⟩ := List.mem_filter.mp member
      have isNearest : nearest.op = .nearest := by
        simpa [SpatialFilter.isNearest] using asked
      have sound := wellFormed.spatials nearest inSpatials
      exact ⟨plain (by simp [filters]), sound.limited isNearest,
        SpatialFilter.reachable_of_grounded backed sound (grounded.spatials nearest inSpatials),
        fields⟩
    · simp [filters] at single

/-! ## Bounded queries -/

theorem clamp_eq_of_condition {cap : Int} {s : SpatialFilter} (condition : s.isNearest = false) :
    Limit.clamp cap s = s := by
  simp [Limit.clamp, Limit.wanted?, condition]

theorem isNearest_clamp (cap : Int) (s : SpatialFilter) :
    (Limit.clamp cap s).isNearest = s.isNearest := by
  unfold Limit.clamp
  split
  · split <;> rfl
  · rfl

theorem targets_clamp (cap : Int) (s : SpatialFilter) :
    (Limit.clamp cap s).targetLayer = s.targetLayer ∧ (Limit.clamp cap s).targets = s.targets := by
  unfold Limit.clamp
  split
  · split <;> exact ⟨rfl, rfl⟩
  · exact ⟨rfl, rfl⟩

theorem distance_clamp (cap : Int) (s : SpatialFilter) :
    (Limit.clamp cap s).distance = s.distance := by
  unfold Limit.clamp
  split
  · split <;> rfl
  · rfl

theorem limit_clamp {cap : Int} {s : SpatialFilter} (given : s.limit.isSome = true) :
    (Limit.clamp cap s).limit.isSome = true := by
  unfold Limit.clamp
  split
  · split
    · rfl
    · exact given
  · exact given

theorem spatials_limited (q : Query) (registry : Registry) :
    (q.limited registry).query.spatials =
      q.spatials.map (Limit.clamp (Limit.cap (q.geometryType registry))) :=
  getD_map _ q.spatialFilters

theorem nearest_limited (q : Query) (registry : Registry) :
    (q.limited registry).query.nearest =
      q.nearest.map (Limit.clamp (Limit.cap (q.geometryType registry))) := by
  have same : SpatialFilter.isNearest ∘ Limit.clamp (Limit.cap (q.geometryType registry)) =
      SpatialFilter.isNearest := funext fun s => isNearest_clamp _ s
  rw [nearest, spatials_limited, List.filter_map, same]
  rfl

theorem places_limited (q : Query) (registry : Registry) :
    (q.limited registry).query.places = q.places := by
  rw [places, spatials_limited, List.filter_map]
  have same : ((fun s => !s.isNearest) ∘ Limit.clamp (Limit.cap (q.geometryType registry))) =
      fun s : SpatialFilter => !s.isNearest := funext fun s => by simp [isNearest_clamp]
  rw [same]
  refine (List.map_congr_left fun s member => ?_).trans (List.map_id _)
  have condition := (List.mem_filter.mp member).2
  exact clamp_eq_of_condition (by simpa using condition)

theorem Compilable.limited {registry : Registry} {layer : Layer} {q : Query}
    (compilable : q.Compilable registry layer) :
    (q.limited registry).query.Compilable registry layer := by
  refine ⟨compilable.tests, ?_, ?_⟩
  · rw [places_limited]
    exact compilable.places
  · have outputs := compilable.outputs
    unfold OutputsKnown at outputs ⊢
    rw [nearest_limited]
    rcases filters : q.nearest with _ | ⟨nearest, _ | ⟨second, others⟩⟩
    · rw [filters] at outputs
      exact outputs
    · rw [filters] at outputs
      obtain ⟨plain, bounded, ⟨target, found, testable⟩, fields⟩ := outputs
      obtain ⟨sameLayer, sameTargets⟩ :=
        targets_clamp (Limit.cap (q.geometryType registry)) nearest
      exact ⟨plain, limit_clamp bounded, ⟨target, sameLayer ▸ found, sameTargets ▸ testable⟩, fields⟩
    · rw [filters] at outputs
      exact outputs.elim

end Query

/-- A query that was accepted, normalized and grounded against a registry that was built from a
manifest never fails to compile. -/
theorem grounded_query_compiles [Stack] {ε σ : Type} {describe : Manifest.Describe (ExceptT ε (StateM σ))}
    {now : Text} {file : Option Text} {before after : σ} {registry : Registry}
    (built : (Manifest.registryOfFile describe now file).run before = (.ok (.ok registry), after))
    {raw : Json} {q : Query} (accepted : Query.ofJson raw = .ok q) {normal : Query}
    {notes : List Text} (normalized : q.normalize .builtIn = .ok (normal, notes))
    (grounded : normal.groundingIssues registry = []) :
    ∃ s, Sql.compile registry (normal.limited registry).query
      (.real (normal.limited registry).tolerance) = .ok s := by
  have backed := Manifest.registryOfFile_isBacked built
  have wellFormed : normal.WellFormed := by
    rw [Query.eq_normalized normalized]
    exact Query.normalized_wellFormed FilterRules.builtIn_preserving
      (Query.wellFormed_of_ofJson accepted)
  obtain ⟨layer, found, groundedParts⟩ := Query.grounded_of_groundingIssues grounded
  have compilable := Query.compilable_of_grounded backed found wellFormed groundedParts
  exact ⟨_, (Sql.compile_ok_iff _ _ _ _).mpr ⟨layer, found, compilable.limited, rfl⟩⟩

def sampleManifest : Text :=
  "\x7b\"layers\": \x7b\"parcels\": \x7b\x7d, \"hydrology\": \x7b\x7d\x7d\x7d"

def sampleDescribe : Manifest.Describe (ExceptT Unit (StateM Unit)) := some fun _ => pure ["name"]

def sampleRequest : Json := .obj [
  ("selectLayer", .str "parcels"),
  ("spatialFilters", .arr [
    .obj [("op", .str "within_distance"), ("targetLayer", .str "hydrology"), ("distance", .int 500)],
    .obj [("op", .str "nearest"), ("targetLayer", .str "hydrology"), ("limit", .int 99999)]])]

def sampleRequested : Query :=
  { Query.ofLayer "parcels" with
    spatialFilters := some [⟨.withinDistance, "hydrology", none, some (.int 500), none⟩,
      ⟨.nearest, "hydrology", none, none, some 99999⟩] }

section

open Stack.Usual

theorem grounded_query_compiles_sample :
    ∃ registry s,
      (Manifest.registryOfFile sampleDescribe "" (some sampleManifest)).run () =
        (.ok (.ok registry), ()) ∧
      Query.ofJson sampleRequest = .ok sampleRequested ∧
      sampleRequested.groundingIssues registry = [] ∧
      Sql.compile registry (sampleRequested.limited registry).query
        (.real (sampleRequested.limited registry).tolerance) = .ok s := by
  have outcome : (((Manifest.registryOfFile sampleDescribe "" (some sampleManifest)).run ()).1.toOption.bind
      Except.toOption).any (fun registry => sampleRequested.groundingIssues registry = []) = true := by
    decide +kernel
  rcases built : (Manifest.registryOfFile sampleDescribe "" (some sampleManifest)).run () with
    ⟨error | error | registry, after⟩
  · rw [built] at outcome
    cases outcome
  · rw [built] at outcome
    cases outcome
  · rw [built] at outcome
    have accepted : Query.ofJson sampleRequest = .ok sampleRequested := rfl
    have normalized : sampleRequested.normalize .builtIn = .ok (sampleRequested, []) := rfl
    have grounded : sampleRequested.groundingIssues registry = [] := of_decide_eq_true outcome
    obtain ⟨s, compiled⟩ := grounded_query_compiles built accepted normalized grounded
    exact ⟨registry, s, rfl, accepted, grounded, compiled⟩

end

end SpatialQuery
