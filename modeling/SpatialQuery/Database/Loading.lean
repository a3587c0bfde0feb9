import SpatialQuery.Database.Session
import SpatialQuery.Layer.Manifest
import SpatialQuery.Text.Integer
import SpatialQuery.Text.Path

/-!
# Loading layers

A layer is loaded from a file into a table with both geometry columns.  Of the layers that a manifest
lists, those are loaded whose files exist; a layer that fails to load is left out and the others go on.
-/

set_option autoImplicit false

namespace SpatialQuery.Database

/-- The coordinate systems that files may use: geographic, projected, and of web maps. -/
def allowedSrids : List Int := [4326, 32613, 3857]

def projectedSrid : Int := 32613

inductive LoadError where
  | unknownLayer (layer : Text)
  | forbiddenSrid (srid : Scalar)
  | failed (layer : Text) (error : EngineError)
  | unavailable (error : EngineError)
  | noCountRow
  | emptyCountRow
deriving DecidableEq

def integerText (n : Int) : String := String.ofList (Number.intChars n)

def allowedSrid? : Scalar → Option Int
  | .num n => allowedSrids.find? fun allowed => n.sameValue (.int allowed)
  | _ => none

def sridText : Scalar → Text
  | .num n => n.text Decimal.plainLayout
  | .bool b => if b then "True" else "False"
  | .str t => t

def LoadError.message : LoadError → Text
  | .unknownLayer layer => "Unknown layer: " ++ layer
  | .forbiddenSrid srid =>
    "Invalid SRID: " ++ sridText srid ++ ". Allowed SRIDs: " ++
      ", ".intercalate (allowedSrids.map integerText)
  | .failed layer error => "Failed to load layer " ++ layer ++ ": " ++ error.message
  | .unavailable error => error.message
  | .noCountRow => ""
  | .emptyCountRow => "tuple index out of range"

def LoadError.isSkipped : LoadError → Bool
  | .unknownLayer _ | .forbiddenSrid _ | .failed _ _ => true
  | .unavailable _ | .noCountRow | .emptyCountRow => false

def quotedText (text : Text) : Text :=
  "'" ++ ⟨text.marks.flatMap fun mark => if mark = .char '\'' then [mark, mark] else [mark]⟩ ++ "'"

def authority (srid : Int) : String := "'EPSG:" ++ integerText srid ++ "'"

def createText (layer path : Text) (srid : Int) : Text :=
  let transform (target : Int) (column : String) : String :=
    "                ST_Transform(geom, " ++ authority srid ++ ", " ++ authority target ++
      ", always_xy := true) AS " ++ column
  "\n            CREATE OR REPLACE TABLE " ++ Sql.quoteIdentifier layer ++ " AS\n" ++
    "            SELECT\n" ++
    "                * EXCLUDE (geom),\n" ++
    transform 4326 Catalog.geographicColumn ++ ",\n" ++
    transform projectedSrid Catalog.projectedColumn ++ "\n" ++
    "            FROM ST_Read(" ++ quotedText path ++ ")\n        "

def countText (layer : Text) : Text := "SELECT COUNT(*) FROM " ++ Sql.quoteIdentifier layer

namespace Session

variable {σ : Type}

/-- Creates the table of a layer on the open cursor and counts its rows. -/
def fill (engine : Engine σ) (layer path : Text) (srid : Int) (session : Session σ) :
    Except LoadError Cell × Session σ :=
  match run engine (createText layer path srid) none session with
  | (.error e, session) => (.error (.failed layer e), session)
  | (.ok _, session) =>
    match run engine (countText layer) none session with
    | (.error e, session) => (.error (.failed layer e), session)
    | (.ok table, session) =>
      match table.rows with
      | [] => (.error .noCountRow, session)
      | [] :: _ => (.error .emptyCountRow, session)
      | (count :: _) :: _ => (.ok count, session)

def loadLayer (engine : Engine σ) (layer path : Text) (srid : Scalar) (session : Session σ) :
    Except LoadError Cell × Session σ :=
  if (Catalog.schema? layer).isNone then (.error (.unknownLayer layer), session)
  else
    match allowedSrid? srid with
    | none => (.error (.forbiddenSrid srid), session)
    | some srid =>
      match openCursor engine session with
      | (.error e, session) => (.error (.unavailable e), session)
      | (.ok (), session) =>
        let (result, session) := fill engine layer path srid session
        (result, closeCursor engine session)

end Session

/-! ## Manifests -/

inductive StatedSrid where
  | known (srid : Int)
  | unreadable
  | infinite
  | unusable
deriving DecidableEq

/-- A truth value counts as one or zero, and the fraction of a number is dropped. -/
def statedSrid : Json → StatedSrid
  | .num (.int n) => .known n
  | .bool b => .known b.toInt
  | .num (.real x) =>
    if x.isNaN then .unreadable
    else if x.isInf then .infinite
    else
      let size : Int := (Decimal.Binary.ofFloat x).floor
      .known (if Decimal.isNegative x then -size else size)
  | .str t =>
    match Text.integer? t.shown with
    | some n => .known n
    | none => .unreadable
  | _ => .unusable

structure FileError where
  name : Text
  message : Text
deriving DecidableEq

/-- Whether there is a file at a path, if that can be told. -/
abbrev Files := Text → Except FileError Bool

inductive LoadingFault where
  | notAnObject
  | infinite
  | unusable
  | load (error : LoadError)
  | file (error : FileError)
deriving DecidableEq

/-- The coordinate system of a manifest entry; geographic, if none is stated. -/
def sridOf (entry : Json) : Except LoadingFault StatedSrid :=
  match entry with
  | .obj members => .ok (((Json.member? members "sourceSrid").map statedSrid).getD (.known 4326))
  | _ => .error .notAnObject

def dataPath (directory layer : Text) : Text := Text.pathWithin directory (layer ++ ".parquet")

namespace Session

variable {σ : Type}

/-- Loads one layer of a manifest: whether it was loaded, or what stops the loading of all. -/
def loadEntry (engine : Engine σ) (directory : Text) (layer : Text) (entry : Json)
    (session : Session σ) : Except LoadingFault Bool × Session σ :=
  match sridOf entry with
  | .error fault => (.error fault, session)
  | .ok .unreadable => (.ok false, session)
  | .ok .infinite => (.error .infinite, session)
  | .ok .unusable => (.error .unusable, session)
  | .ok (.known srid) =>
    match loadLayer engine layer (dataPath directory layer) (.num (.int srid)) session with
    | (.ok _, session) => (.ok true, session)
    | (.error e, session) => (if e.isSkipped then .ok false else .error (.load e), session)

def loadEntries (engine : Engine σ) (directory : Text) (files : Files) :
    List (Text × Json) → Session σ → Except LoadingFault (List Text) × Session σ
  | [], session => (.ok [], session)
  | (layer, entry) :: rest, session =>
    match files (dataPath directory layer) with
    | .error error => (.error (.file error), session)
    | .ok false => loadEntries engine directory files rest session
    | .ok true =>
      match loadEntry engine directory layer entry session with
      | (.error fault, session) => (.error fault, session)
      | (.ok loaded, session) =>
        match loadEntries engine directory files rest session with
        | (.error fault, session) => (.error fault, session)
        | (.ok others, session) => (.ok (if loaded then layer :: others else others), session)

def loadManifest (engine : Engine σ) (directory : Text) (files : Files) (manifest : Json)
    (session : Session σ) : Except LoadingFault (List Text) × Session σ :=
  match Manifest.entries manifest with
  | .error _ => (.error .notAnObject, session)
  | .ok entries =>
    loadEntries engine directory files entries session

end Session

end SpatialQuery.Database
