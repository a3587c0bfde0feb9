import SpatialQuery.Json.Basic
import SpatialQuery.Layer.Catalog
import SpatialQuery.Query.Basic

/-!
# The registry of layers

A snapshot of what is known about every layer: what was declared, and what the database holds.  A
request reads one snapshot at its start and keeps to it; a reload puts a new snapshot in its place.
-/

set_option autoImplicit false

namespace SpatialQuery

/-- The number of features as the manifest states it.  A truth value is allowed in its place. -/
inductive FeatureCount where
  | number (n : Int)
  | flag (b : Bool)
deriving DecidableEq

structure Layer where
  name : Text
  geometryType : Text
  schemaFields : List (Text × Text)
  /-- The columns that the table has, without the internal ones, in ascending order. -/
  loadedFields : List Text
  /-- What a query may name: the loaded fields and the concept fields, in ascending order. -/
  queryableFields : List Text
  /-- Labels that are no text.  A layer has them only when it has no label that is text. -/
  oddLabels : List Json
  isLoaded : Bool
  featureCount : Option FeatureCount
  description : Option Text
  source : Option Json

namespace Layer

def fieldType? (layer : Layer) (field : Text) : Option Text :=
  layer.schemaFields.lookup field

def isNumeric (layer : Layer) (field : Text) : Bool :=
  (layer.fieldType? field).any Catalog.isNumericType

def isBoolean (layer : Layer) (field : Text) : Bool :=
  (layer.fieldType? field).any Catalog.isBooleanType

def hasColumn (layer : Layer) (field : Text) : Bool :=
  (layer.schemaFields.map (·.1)).contains field || layer.loadedFields.contains field

def arrayFields (layer : Layer) : List Text :=
  (layer.schemaFields.filter fun field => (Text.ofString "[]").marks.isSuffixOf field.2.marks).map (·.1)

end Layer

namespace FeatureCount

def toJson : FeatureCount → Json
  | .number n => .int n
  | .flag b => .bool b

def toInt : FeatureCount → Int
  | .number n => n
  | .flag b => b.toInt

end FeatureCount

def Layer.summary (layer : Layer) : Json :=
  .obj [
    ("name", .str layer.name),
    ("geometryType", .str layer.geometryType),
    ("schemaFields", .texts (layer.schemaFields.map (·.1))),
    ("isLoaded", .bool layer.isLoaded),
    ("loadedFields", .arr (layer.loadedFields.map .str ++ layer.oddLabels)),
    ("queryableFields", .arr (layer.queryableFields.map .str ++ layer.oddLabels)),
    ("featureCount", (layer.featureCount.map FeatureCount.toJson).getD .null),
    ("description", (layer.description.map Json.str).getD .null)]

structure Registry where
  layers : List Layer
  generatedAt : Json

namespace Registry

def ofLayers (layers : List Layer) (generatedAt : Json) : Registry :=
  ⟨(Assoc.settle (layers.map fun layer => (layer.name, layer))).map (·.2), generatedAt⟩

def get? (registry : Registry) (name : Text) : Option Layer :=
  registry.layers.find? fun layer => layer.name == name

def isLoaded (registry : Registry) (name : Text) : Bool :=
  (registry.get? name).any (·.isLoaded)

def names (registry : Registry) : List Text :=
  Query.ascending (registry.layers.map (·.name))

def loadedNames (registry : Registry) : List Text :=
  Query.ascending ((registry.layers.filter (·.isLoaded)).map (·.name))

def ordered (registry : Registry) : List Layer := registry.names.filterMap registry.get?

end Registry

end SpatialQuery
