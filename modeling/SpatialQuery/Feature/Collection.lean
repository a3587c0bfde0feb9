import SpatialQuery.Feature.Writing
import SpatialQuery.Query.Key
import SpatialQuery.Query.Limit
import SpatialQuery.Text.Blank

/-!
# Feature collections

Rows become features.  The geometry of a row already is the text of a JSON value and goes into the
answer as it is; the other cells are its properties.  Beside the features stand facts about the query
and how it was answered.
-/

set_option autoImplicit false

namespace SpatialQuery.Feature

def geometryKey : Text := "geometry"

/-- The text of the geometry; null unless the cell is a text that is not blank. -/
def geometryText (row : Row) : Text :=
  match Assoc.get? geometryKey row with
  | some (.text t) => if t.isAllBlank then "null" else t
  | _ => "null"

/-! ## Facts about the answer -/

structure CacheUse where
  parseHit : Bool
  queryHit : Bool

def metadata (count : Int) (milliseconds : Number) (limited : Limited) (notes : List Text)
    (use : CacheUse) (extra : List (Text × Json)) : Json :=
  let q := limited.query
  let facts : List (Text × Json) := [
    ("count", .int count),
    ("executionTimeMs", .num milliseconds.toHundredths),
    ("query", q.wire),
    ("queryHash", .str q.hash),
    ("sourceLayers", .texts q.sourceLayers),
    ("truncated", .bool limited.truncated),
    ("maxFeaturesApplied", .int limited.maxFeatures),
    ("hardCap", .int limited.cap),
    ("defaultLimitApplied", .bool limited.defaultApplied),
    ("simplifyToleranceDeg", .real limited.tolerance),
    ("normalizationNotes", .texts notes),
    ("cache", .obj [("parseHit", .bool use.parseHit), ("queryHit", .bool use.queryHit)])]
  let clean := facts.map fun m => (m.1, Json.finiteOrNull m.2)
  .obj (extra.foldl (fun facts m => Assoc.insert m.1 m.2 facts) clean)

/-! ## Writing -/

variable [Stack]

def listOf? : Cell → Except Fault (Option (List Json))
  | .text t =>
    match Json.read (Stack.reading .listField) t with
    | .ok (.arr items) => .ok (some items)
    | .error (.excessive (.nesting isArray)) => .error (.unreadable isArray)
    | _ => .ok none
  | _ => .ok none

/-- The value of a property.  In a list field a text that holds a list stands for the list. -/
def property (listFields : List Text) (column : Text × Cell) : Except Fault (Text × Cell) :=
  if listFields.contains column.1 then
    match listOf? column.2 with
    | .error fault => .error fault
    | .ok (some items) => .ok (column.1, .ofJson (.arr items))
    | .ok none => .ok column
  else .ok column

def properties (listFields : List Text) (row : Row) : Except Fault Cell :=
  ((row.filter fun column => column.1 ≠ geometryKey).mapM (property listFields)).map .record

def text (listFields : List Text) (row : Row) : Except Fault Text := do
  let properties ← write (← properties listFields row)
  return "\x7b\"type\":\"Feature\",\"geometry\":" ++ geometryText row ++ ",\"properties\":" ++
    properties ++ "\x7d"

def allText (listFields : List Text) (rows : List Row) : Except Fault Text :=
  (rows.mapM (text listFields)).map (Text.intercalate ",")

/-- The whole answer, from features that are text already and the facts beside them. -/
def enclose (features : Text) (facts : Cell) : Except Fault Text := do
  let facts ← write facts
  return "\x7b\"type\":\"FeatureCollection\",\"features\":[" ++ features ++ "],\"metadata\":" ++
    facts ++ "\x7d"

def collection (features : Text) (metadata : Json) : Except Fault Text :=
  enclose features (.ofJson metadata)

end SpatialQuery.Feature
