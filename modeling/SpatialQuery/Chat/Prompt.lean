import SpatialQuery.Json.Printer
import SpatialQuery.Layer.Registry

/-!
# Prompts

What a language model is told: the loaded layers with their fields, the operations, the form of the
answer, examples that use loaded layers only, and the message as a JSON string.
-/

set_option autoImplicit false

namespace SpatialQuery.Chat

/-! ## Examples -/

structure Example where
  message : Text
  query : Json

namespace Example

def filter (field op : Text) (value : Json) : Json :=
  .obj [("field", .str field), ("op", .str op), ("value", value)]

def near (layer : Text) (filters : List Json) (distance : Int) : Json :=
  .present [
    ("op", some (.str "within_distance")),
    ("targetLayer", some (.str layer)),
    ("targetFilter", if filters.isEmpty then none else some (.arr filters)),
    ("distance", some (.int distance))]

def all : List Example := [
  ⟨"Show residential parcels", .obj [
    ("selectLayer", .str "parcels"),
    ("attributeFilters", .arr [filter "zoning" "in" (.texts ["R-1", "R-2", "R-3", "R-4"])])]⟩,
  ⟨"Parcels within 500 meters of the Santa Fe River", .obj [
    ("selectLayer", .str "parcels"),
    ("spatialFilters", .arr [
      near "hydrology" [filter "name" "like" (.str "%Santa Fe River%")] 500])]⟩,
  ⟨"Census tracts with median income below 40000", .obj [
    ("selectLayer", .str "census_tracts"),
    ("attributeFilters", .arr [filter "median_income" "lt" (.int 40000)])]⟩,
  ⟨"Vacant parcels near transit stops", .obj [
    ("selectLayer", .str "parcels"),
    ("spatialFilters", .arr [near "transit_access" [] 500]),
    ("attributeFilters", .arr [filter "land_use" "like" (.str "%vacant%")])]⟩,
  ⟨"Short-term rentals grouped by property type", .obj [
    ("selectLayer", .str "short_term_rentals"),
    ("aggregate", .obj [
      ("groupBy", .texts ["property_type"]),
      ("metrics", .arr [.obj [
        ("field", .str "*"), ("op", .str "count"), ("alias", .str "str_count")]])])]⟩,
  ⟨"Parcels within 500m of arroyos and inside flood zones", .obj [
    ("selectLayer", .str "parcels"),
    ("spatialFilters", .arr [
      near "hydrology" [filter "type" "eq" (.str "arroyo")] 500,
      .obj [("op", .str "intersects"), ("targetLayer", .str "flood_zones")]]),
    ("spatialLogic", .str "and")]⟩,
  ⟨"The 5 transit stops closest to the Canyon Road historic district", .obj [
    ("selectLayer", .str "transit_access"),
    ("spatialFilters", .arr [.obj [
      ("op", .str "nearest"),
      ("targetLayer", .str "historic_districts"),
      ("targetFilter", .arr [filter "district_name" "like" (.str "%Canyon Road%")]),
      ("limit", .int 5)]])]⟩,
  ⟨"Affordable housing units near schools", .obj [
    ("selectLayer", .str "affordable_housing_units"),
    ("spatialFilters", .arr [near "school_zones" [] 1000])]⟩]

def textOf : Json → List Text
  | .str t => [t]
  | _ => []

def layers (e : Example) : List Text :=
  let targets := match e.query.get? "spatialFilters" with
    | some (.arr filters) => filters.filterMap fun f => f.get? "targetLayer"
    | _ => []
  ((e.query.get? "selectLayer").toList ++ targets).flatMap textOf

def text (e : Example) : Text :=
  "User: \"" ++ e.message ++ "\"\n" ++ Json.renderIndented e.query

end Example

/-! ## The prompt -/

def orElse (text : Option Text) (other : Text) : Text :=
  match text with
  | some t => if t = "" then other else t
  | none => other

def describeField (layer : Layer) (field : Text) : Text :=
  "    - " ++ field ++ ": " ++ orElse (layer.fieldType? field) "unknown"

def labelText : Json → String
  | .bool b => if b then "True" else "False"
  | .num n => n.text Decimal.plainLayout
  | _ => "None"

def describeLabel (label : Json) : Text := "    - " ++ labelText label ++ ": unknown"

def describeLayer (layer : Layer) : Text :=
  "  - " ++ layer.name ++ " (" ++ layer.geometryType ++ "): " ++
    orElse layer.description "No description" ++ "\n" ++
    Text.intercalate "\n"
      (layer.queryableFields.map (describeField layer) ++ layer.oddLabels.map describeLabel)

def layerText (registry : Registry) : Text :=
  match registry.loadedNames.filterMap registry.get? with
  | [] => "  (no layers loaded)"
  | layers => Text.intercalate "\n\n" (layers.map describeLayer)

def exampleText (registry : Registry) : Text :=
  let loaded := registry.loadedNames
  let usable := Example.all.filter fun e => e.layers.all fun layer => loaded.contains layer
  Text.intercalate "\n\n" (usable.map Example.text)

def answerForm : List Text := [
  "\x7b",
  "  \"selectLayer\": \"string\",",
  "  \"selectFields\": [\"string\"] (optional),",
  "  \"attributeFilters\": [\x7b\"field\": \"string\", \"op\": \"string\", \"value\": \"any\"\x7d] " ++
    "(optional),",
  "  \"attributeLogic\": \"and\" | \"or\" (optional, default: \"and\"),",
  "  \"spatialFilters\": [\x7b\"op\": \"string\", \"targetLayer\": \"string\", " ++
    "\"targetFilter\": [...] (optional), \"distance\": number (for within_distance), " ++
    "\"limit\": number (for nearest)\x7d] (optional),",
  "  \"spatialLogic\": \"and\" | \"or\" (optional, default: \"and\"),",
  "  \"aggregate\": \x7b\"groupBy\": [\"string\"], \"metrics\": [\x7b\"field\": \"string\", " ++
    "\"op\": \"count|sum|avg|median|min|max\", \"alias\": \"string\" (optional)\x7d]\x7d (optional),",
  "  \"limit\": number (optional),",
  "  \"orderBy\": \x7b\"field\": \"string\", \"direction\": \"asc\" | \"desc\"\x7d (optional)",
  "\x7d"]

def openingLines : List Text := [
  "You are a spatial query parser for Santa Fe, New Mexico. " ++
    "Convert natural language queries into structured JSON queries.",
  "",
  "Available layers (use ONLY these layers and fields):"]

def operationLines : List Text := [
  "",
  "Supported operations:",
  "- Attribute filters: eq, neq, gt, gte, lt, lte, in, like",
  "- Spatial filters: within_distance (meters), intersects, contains, within, nearest",
  "- Logical operators: and, or (for combining multiple filters)",
  "",
  "Output ONLY valid JSON matching this schema:"]

def ruleLines : List Text := operationLines ++ answerForm ++ (["", "Examples:", ""] : List Text)

/-- The lines between the examples and the message, which stands at the end of the last one. -/
def closingLines : List Text := ["", "Now parse this query:", "User: "]

def promptHead (registry : Registry) : Text := Text.intercalate "\n"
  (openingLines ++ [layerText registry] ++ ruleLines ++ [exampleText registry] ++ closingLines)

def promptTail : String := "\n\nOutput only the JSON object, no other text:"

/-- The message as a JSON string on one line. -/
def messageText (message : Text) : String := Json.spaced.render (.str message)

def prompt (registry : Registry) (message : Text) : Text :=
  promptHead registry ++ messageText message ++ promptTail

end SpatialQuery.Chat
