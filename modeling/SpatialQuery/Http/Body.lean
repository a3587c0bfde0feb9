import SpatialQuery.Http.Message
import SpatialQuery.Service.Basic
import SpatialQuery.Template

/-!
# Bodies

The small bodies of the service: about itself, its stores, its layers and its templates.
-/

set_option autoImplicit false

namespace SpatialQuery.Http

structure Identity where
  name : Text
  version : Text
  provider : Text

def releaseVersion : String := "0.1.0"

def rootBody (identity : Identity) : Json :=
  .obj [
    ("name", .str identity.name),
    ("version", .str identity.version),
    ("description", .str "Spatial query API for Santa Fe housing equity analysis"),
    ("docs", .str "/docs"),
    ("endpoints", .obj [
      ("query", .str "/api/query - Execute a StructuredQuery"),
      ("chat", .str "/api/chat - Natural language queries"),
      ("layers", .str "/api/layers - Layer registry"),
      ("templates", .str "/api/templates - Equity analysis templates"),
      ("health", .str "/api/health - Health check")])]

def healthBody (identity : Identity) (registry : Registry) (available : Bool) : Json :=
  .obj [
    ("status", .str "ok"),
    ("service", .str "geoquery-backend"),
    ("version", .str releaseVersion),
    ("loadedLayers", .int registry.loadedNames.length),
    ("llm", .obj [
      ("provider", .str identity.provider),
      ("available", .bool available)])]

def storeBody {α : Type} (cache : Cache α) : Json :=
  .obj [
    ("hits", .int cache.hits),
    ("misses", .int cache.misses),
    ("size", .int cache.size),
    ("maxSize", .int cache.maxSize),
    ("hitRate", .real cache.hitRate)]

def storesBody {τ : Type} (s : Service τ) : Json :=
  .obj [("parse", storeBody s.parses), ("query", storeBody s.results)]

/-- A layer in a list, where each field is named by text and the count is a number. -/
def layerBody? (layer : Layer) : Option Json :=
  if layer.oddLabels.isEmpty then
    let count := layer.featureCount.map fun n => FeatureCount.number n.toInt
    some { layer with featureCount := count }.summary
  else none

/-- All layers; none if the registry holds something that does not belong into the list. -/
def layersBody? (registry : Registry) : Option Json := do
  let layers ← registry.ordered.mapM layerBody?
  match registry.generatedAt with
  | .str time =>
    return .obj [
      ("layers", .arr layers),
      ("count", .int layers.length),
      ("loadedCount", .int registry.loadedNames.length),
      ("generatedAt", .str time)]
  | _ => none

def layersResponse (registry : Registry) : Response :=
  match layersBody? registry with
  | some body => .ofJson 200 body
  | none => .internal

def templatesBody (registry : Registry) : Json :=
  let body (t : Template) : Json :=
    .obj (Assoc.insert "available" (.bool (t.isAvailable registry.loadedNames)) t.summaryMembers)
  .obj [
    ("templates", .arr (Template.all.map body)),
    ("count", .int Template.all.length)]

def groupedBody : Json :=
  .obj [
    ("templates", .obj (Template.grouped.map fun group =>
      (group.1, .arr (group.2.map Template.toJson)))),
    ("count", .int Template.all.length)]

def categoryResponse (name : String) : Response :=
  match Template.Category.ofName? name with
  | some category =>
    let templates := Template.ofCategory category
    .ofMembers 200 [
      ("category", .str category.name),
      ("templates", .arr (templates.map Template.toJson)),
      ("count", .int templates.length)]
  | none =>
    .detail 400 (.obj [
      ("error", .str "Invalid category"),
      ("validCategories", .texts (Template.Category.all.map (Template.Category.name ·)))])

def templateResponse (id : String) : Response :=
  match Template.find? id with
  | some t => .ofJson 200 t.toJson
  | none =>
    .detail 404 (.obj [
      ("error", .str "Template not found"),
      ("available", .texts (Template.all.map (·.id)))])

end SpatialQuery.Http
