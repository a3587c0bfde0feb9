import SpatialQuery.Proofs.Database.Record
import SpatialQuery.Proofs.Number

/-!
# Layers loaded one by one

Of the layers that a manifest lists, those whose files exist have their turns.  A layer that fails is left
out, and the next one has its turn whatever came of it.  Few things stop the loading of all: an entry or a
coordinate system of the wrong kind, and a database that gives no cursor or no count.
-/

set_option autoImplicit false

namespace SpatialQuery.Database

/-! ## Entries -/

/-- An entry, or the coordinate system that it states, is of the wrong kind. -/
inductive EntryLapse (entry : Json) : LoadingFault → Prop
  | notAnObject (other : ∀ facts, entry ≠ .obj facts) : EntryLapse entry .notAnObject
  | infinite {x : Float} (stated : entry.get? "sourceSrid" = some (.num (.real x)))
      (isInfinite : x.isNaN = false ∧ x.isInf = true) : EntryLapse entry .infinite
  | unusable {srid : Json} (stated : entry.get? "sourceSrid" = some srid)
      (noScalar : srid = .null ∨ (∃ items, srid = .arr items) ∨ ∃ facts, srid = .obj facts) :
      EntryLapse entry .unusable

/-- What a manifest makes of a reply: the layer is loaded, or left out, or the loading of all stops. -/
inductive Verdict : Reply → Except LoadingFault Bool → Prop
  | loaded (count : Cell) : Verdict (.count count) (.ok true)
  | failed (error : ExecutionError) : Verdict (.failure error) (.ok false)
  | unserved (error : EngineError) : Verdict (.raw error) (.error (.load (.unavailable error)))
  | uncounted {error : LoadError} (own : error.isSkipped = false) :
    Verdict (.fault error) (.error (.load error))

theorem Verdict.ofLoad {outcome : Except LoadError Cell} {result : Except LoadingFault Bool}
    (verdict : Verdict (.ofLoad outcome) result) :
    result = match outcome with
      | .ok _ => .ok true
      | .error e => if e.isSkipped then .ok false else .error (.load e) := by
  cases outcome with
  | ok count =>
    cases verdict
    rfl
  | error e =>
    cases e with
    | unknownLayer | forbiddenSrid =>
      cases verdict with
      | uncounted own => cases own
    | failed | unavailable | noCountRow | emptyCountRow =>
      cases verdict
      rfl

/-- What comes of a listed layer whose file exists: the steps of the engine, whether the layer is loaded or
why the loading of all stops, and whether the database is open before and after. -/
inductive Attempt (path file layer : Text) (entry : Json) :
    Bool → List Event → Except LoadingFault Bool → Bool → Prop
  | lapse {isOpen : Bool} {fault : LoadingFault} (lapse : EntryLapse entry fault) :
    Attempt path file layer entry isOpen [] (.error fault) isOpen
  | unreadable {isOpen : Bool} (unreadable : sridOf entry = .ok .unreadable) :
    Attempt path file layer entry isOpen [] (.ok false) isOpen
  | refused {isOpen : Bool} {srid : Int} (stated : sridOf entry = .ok (.known srid))
      (refused : Catalog.schema? layer = none ∨ srid ∉ allowedSrids) :
    Attempt path file layer entry isOpen [] (.ok false) isOpen
  | asked {loading : Loading} {before after : Bool} {events : List Event} {reply : Reply}
      {result : Except LoadingFault Bool} (named : loading.layer = layer) (kept : loading.path = file)
      (stated : sridOf entry = .ok (.known loading.srid))
      (course : Course path (.ask (.load loading)) before events reply after)
      (verdict : Verdict reply result) :
    Attempt path file layer entry before events result after

namespace Attempt

variable {path file layer : Text} {entry : Json} {before after isLoaded : Bool} {events : List Event}

end Attempt

/-! ## Turns -/

structure Tried where
  layer : Text
  entry : Json
  events : List Event
  isLoaded : Bool

def Tried.member (tried : Tried) : Text × Json := (tried.layer, tried.entry)

def loadedNames (tried : List Tried) : List Text := (tried.filter (·.isLoaded)).map (·.layer)

/-- The file of a layer is there, or it is not, and this can be told. -/
def Files.Tells (files : Files) (directory : Text) (member : Text × Json) (isThere : Bool) : Prop :=
  files (dataPath directory member.1) = .ok isThere

/-- Entries of which it can be told whether their files are there, and those whose files are. -/
inductive Present (files : Files) (directory : Text) : List (Text × Json) → List (Text × Json) → Prop
  | none : Present files directory [] []
  | there {member : Text × Json} {rest present : List (Text × Json)}
      (isThere : files.Tells directory member true) (others : Present files directory rest present) :
    Present files directory (member :: rest) (member :: present)
  | missing {member : Text × Json} {rest present : List (Text × Json)}
      (isMissing : files.Tells directory member false) (others : Present files directory rest present) :
    Present files directory (member :: rest) present

/-- How the loading ends: all of the layers whose files are there had their turns, or the next one stops
it, by what comes of its turn or because it cannot be told whether its file is there. -/
inductive Ending (path directory : Text) (files : Files) (entries : List (Text × Json)) (tried : List Tried)
    (isOpen : Bool) : List Event → Except LoadingFault (List Text) → Bool → Prop
  | complete (all : Present files directory entries (tried.map Tried.member)) :
    Ending path directory files entries tried isOpen [] (.ok (loadedNames tried)) isOpen
  | stopped {earlier later : List (Text × Json)} {layer : Text} {entry : Json} {events : List Event}
      {fault : LoadingFault} {after : Bool} (listed : entries = earlier ++ (layer, entry) :: later)
      (begun : Present files directory earlier (tried.map Tried.member))
      (isThere : files.Tells directory (layer, entry) true)
      (stops : Attempt path (dataPath directory layer) layer entry isOpen events (.error fault) after) :
    Ending path directory files entries tried isOpen events (.error fault) after
  | untold {earlier later : List (Text × Json)} {layer : Text} {entry : Json} {error : FileError}
      (listed : entries = earlier ++ (layer, entry) :: later)
      (begun : Present files directory earlier (tried.map Tried.member))
      (failed : files (dataPath directory layer) = .error error) :
    Ending path directory files entries tried isOpen [] (.error (.file error)) isOpen

section

variable {path directory : Text} {files : Files} {entries : List (Text × Json)} {tried others : List Tried}
  {isOpen after : Bool} {last : List Event} {result : Except LoadingFault (List Text)}

theorem Ending.cons (tried : Tried) (isThere : files.Tells directory tried.member true)
    (ending : Ending path directory files entries others isOpen last result after) :
    Ending path directory files (tried.member :: entries) (tried :: others) isOpen last
      (result.map fun names => if tried.isLoaded then tried.layer :: names else names) after := by
  cases ending with
  | complete all =>
    have names : loadedNames (tried :: others) =
        if tried.isLoaded then tried.layer :: loadedNames others else loadedNames others := by
      unfold loadedNames
      rw [List.filter_cons]
      split <;> rfl
    rw [Except.map, ← names]
    exact .complete (.there isThere all)
  | stopped listed begun present stops =>
    exact .stopped (congrArg (tried.member :: ·) listed) (.there isThere begun) present stops
  | untold listed begun failed =>
    exact .untold (congrArg (tried.member :: ·) listed) (.there isThere begun) failed

end

namespace Session

section

variable {σ : Type} {engine : Engine σ} {directory : Text}

end

section

variable {σ : Type} (engine : Engine σ) (session : Session σ) (record : List Event) (directory : Text)

end

/-- An engine that opens at once and whose statements fail by a script, and succeed after it. -/
def scripted : Engine (List Bool) where
  connect _ script := (.ok (), script)
  loadExtension script := (.ok (), script)
  openCursor script := (.ok (), script)
  run _ _ script :=
    (if script.headD true then .ok ⟨none, [[.num (.int 1)]]⟩
      else .error ⟨.other "IOException", "could not open file"⟩, script.tail)
  closeCursor := id
  close := id

def manifestOf (entries : List (Text × Json)) : Json := .obj [("layers", .obj entries)]

end Session

end SpatialQuery.Database
