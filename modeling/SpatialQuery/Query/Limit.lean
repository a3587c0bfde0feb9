import SpatialQuery.Layer.Registry

/-!
# Limits

Every query is bounded.  Points may be many, areas fewer; so both the limit that is put where none is
asked for and the cap that no limit exceeds depend on the kind of geometry.  Large results of areas and
lines are simplified to bound the size of the answer.
-/

set_option autoImplicit false

namespace SpatialQuery

namespace Limit

def default (geometryType : Text) : Int :=
  if geometryType = "Point" then 4000
  else if geometryType = "LineString" then 2500
  else if geometryType = "Polygon | Point" then 2000
  else 1500

def cap (geometryType : Text) : Int :=
  if geometryType = "Point" then 10000
  else if geometryType = "LineString" then 6000
  else if geometryType = "Polygon | Point" then 5000
  else 3000

/-- How far a simplified outline may stray, in degrees; zero leaves outlines as they are. -/
def tolerance (geometryType : Text) (features : Int) : Float :=
  if geometryType.contains "Polygon" && 1200 < features then 0.00003
  else if geometryType.contains "LineString" && 2000 < features then 0.00002
  else 0

def wanted? (s : SpatialFilter) : Option Int := if s.isNearest then s.limit else none

/-- The filter with its number of nearest features under the cap. -/
def clamp (cap : Int) (s : SpatialFilter) : SpatialFilter :=
  match wanted? s with
  | some k => if cap < k then { s with limit := some cap } else s
  | none => s

end Limit

structure Limited where
  query : Query
  /-- A limit that was asked for was over the cap. -/
  truncated : Bool
  defaultApplied : Bool
  maxFeatures : Int
  cap : Int
  tolerance : Float

namespace Query

/-- The geometry of the selected layer; areas, if the layer is unknown. -/
def geometryType (q : Query) (registry : Registry) : Text :=
  ((registry.get? q.selectLayer).map (·.geometryType)).getD "Polygon"

/-- Bounds a query.  A limit that was put in must not cut a number of nearest features that was asked
for. -/
def limited (q : Query) (registry : Registry) : Limited :=
  let geometryType := q.geometryType registry
  let cap := Limit.cap geometryType
  let clamped := q.spatialFilters.map fun filters => filters.map (Limit.clamp cap)
  let maxFeatures := match q.limit with
    | some limit => min limit cap
    | none =>
      ((clamped.getD []).filterMap Limit.wanted?).foldl max (Limit.default geometryType)
  { query := { q with limit := some maxFeatures, spatialFilters := clamped }
    truncated := q.limit.any (cap < ·) ||
      (q.spatials.filterMap Limit.wanted?).any (cap < ·)
    defaultApplied := q.limit.isNone
    maxFeatures, cap
    tolerance := Limit.tolerance geometryType maxFeatures }

end Query

end SpatialQuery
