import SpatialQuery.Issue
import SpatialQuery.Layer.Registry

/-!
# Grounding

A query of the right shape can still ask for a layer that is not loaded, for a field that its layer
does not have, or for a comparison that the type of a field does not allow.  Grounding reports each
such fault with the path of the part at fault.  A query without faults can be answered.
-/

set_option autoImplicit false

namespace SpatialQuery

namespace Layer

def fieldIssues (layer : Layer) (field path : Text) : List Issue :=
  if layer.queryableFields.contains field then []
  else [⟨path, "Field \"" ++ field ++ "\" is not queryable on \"" ++ layer.name ++ "\""⟩]

def sizeIssues (layer : Layer) (f : AttributeFilter) (path : Text) : List Issue :=
  if f.op.isNumeric && !layer.isNumeric f.field then
    [⟨path, "Operator \"" ++ f.op.name ++ "\" requires a numeric field"⟩]
  else []

/-- A boolean field can only be equal to a truth value. -/
def truthIssues (layer : Layer) (f : AttributeFilter) (path : Text) : List Issue :=
  if f.op == .eq && layer.isBoolean f.field && f.value.truth?.isNone then
    [⟨path, "Boolean fields require true/false values"⟩]
  else []

/-- The issues with filters of the layer, which are counted from `index` on. -/
def filterIssuesFrom (layer : Layer) (path : Text) : Nat → List AttributeFilter → List Issue
  | _, [] => []
  | index, f :: rest =>
    let here := path ++ "." ++ toString index ++ "." ++ f.field
    layer.fieldIssues f.field here ++ layer.sizeIssues f here ++ layer.truthIssues f here ++
      filterIssuesFrom layer path (index + 1) rest

def namedFieldIssues (layer : Layer) (path : Text) (fields : List Text) : List Issue :=
  fields.flatMap fun field => layer.fieldIssues field (path ++ "." ++ field)

/-- The issues with metrics, which are counted from `index` on.  The rows themselves need no field. -/
def metricIssuesFrom (layer : Layer) : Nat → List Metric → List Issue
  | _, [] => []
  | index, m :: rest =>
    (if m.field = "*" then []
      else layer.fieldIssues m.field
        ("aggregate.metrics." ++ toString index ++ "." ++ m.field)) ++
      metricIssuesFrom layer (index + 1) rest

end Layer

namespace Registry

/-- The issues with spatial filters, which are counted from `index` on.  A target that is not loaded
is one issue. -/
def spatialIssuesFrom (registry : Registry) : Nat → List SpatialFilter → List Issue
  | _, [] => []
  | index, s :: rest =>
    let path := "spatialFilters." ++ toString index
    let here := match registry.get? s.targetLayer with
      | some target =>
        if target.isLoaded then target.filterIssuesFrom (path ++ ".targetFilter") 0 s.targets
        else [notLoaded path s]
      | none => [notLoaded path s]
    here ++ spatialIssuesFrom registry (index + 1) rest
where
  notLoaded (path : Text) (s : SpatialFilter) : Issue :=
    ⟨path ++ ".targetLayer", "Target layer \"" ++ s.targetLayer ++ "\" is not loaded"⟩

end Registry

namespace Query

def temporalIssues (q : Query) : List Issue :=
  if q.temporal.isSome then [⟨"temporal", "Temporal queries are not supported yet"⟩] else []

/-- One nearest filter at most, and none in an aggregate. -/
def nearestIssues (q : Query) : List Issue :=
  (if 1 < q.nearest.length then
    [⟨"spatialFilters", "Only one nearest filter is supported per query"⟩] else []) ++
  (if !q.nearest.isEmpty && q.aggregate.isSome then
    [⟨"aggregate", "nearest cannot be combined with aggregate"⟩] else [])

def primaryIssues (q : Query) (layer : Layer) : List Issue :=
  layer.namedFieldIssues "selectFields" (q.selectFields.getD []) ++
  layer.filterIssuesFrom "attributeFilters" 0 q.attributes ++
  (match q.orderBy with
    | some order => layer.namedFieldIssues "orderBy" [order.field]
    | none => []) ++
  (match q.aggregate with
    | some aggregate =>
      layer.namedFieldIssues "aggregate.groupBy" aggregate.groupBy ++
        layer.metricIssuesFrom 0 aggregate.metrics
    | none => [])

/-- Every reason why the loaded data cannot answer the query.  Without the selected layer nothing else
can be looked at. -/
def groundingIssues (q : Query) (registry : Registry) : List Issue :=
  match registry.get? q.selectLayer with
  | some layer =>
    if layer.isLoaded then
      q.temporalIssues ++ q.primaryIssues layer ++ registry.spatialIssuesFrom 0 q.spatials ++
        q.nearestIssues
    else [notLoaded q]
  | none => [notLoaded q]
where
  notLoaded (q : Query) : Issue :=
    ⟨"selectLayer", "Layer \"" ++ q.selectLayer ++ "\" is not loaded"⟩

def suggestions (registry : Registry) (issues : List Issue) : List Text :=
  let loaded : Text := match registry.loadedNames with
    | [] => "(none)"
    | names => Text.intercalate ", " names
  let temporal : List Text :=
    if issues.any fun issue => issue.path == "temporal" then
      ["Temporal queries are not supported yet"] else []
  ("Use only loaded layers: " ++ loaded) :: "Check field names from GET /api/layers" :: temporal

end Query

end SpatialQuery
