import SpatialQuery.Cache
import SpatialQuery.Layer.Manifest
import SpatialQuery.Service.Failure

/-!
# The service

What all requests share: the registry that is in force, the parsed messages and the results that are
kept, and whatever the service reaches outside itself.  The outside is given by the steps that are
taken on it, so that a database and a model may be real or scripted.
-/

set_option autoImplicit false

namespace SpatialQuery

/-- The outside of a service, on a state of its own. -/
structure Backend (τ : Type) where
  execute : Text → List Json → τ → Except Database.ExecutionError (List Row) × τ
  describe : Text → τ → Except Database.DescribeFault (List Text) × τ
  complete : Text → τ → Model.Completion × τ
  isHealthy : τ → Except Model.Failure Bool × τ
  /-- The clock by which kept entries expire. -/
  clock : τ → Number × τ
  watch : τ → Number × τ
  manifestFile : τ → Option Text
  /-- The present time as a registry states it. -/
  present : τ → Text

structure StoredResult where
  features : Text
  count : Nat
  milliseconds : Number
deriving DecidableEq

structure Service (τ : Type) where
  registry : Registry
  parses : Cache Chat.Intent
  results : Cache StoredResult
  hasParser : Bool
  outside : τ

namespace Service

variable {τ : Type}

def create? (registry : Registry) (parseSize resultSize : Int) (parseLife resultLife : Number)
    (outside : τ) : Option (Service τ) := do
  let parses ← Cache.create? parseSize parseLife
  let results ← Cache.create? resultSize resultLife
  return { registry, parses, results, hasParser := true, outside }

def clock (backend : Backend τ) (s : Service τ) : Number × Service τ :=
  let (now, outside) := backend.clock s.outside
  (now, { s with outside })

def watch (backend : Backend τ) (s : Service τ) : Number × Service τ :=
  let (reading, outside) := backend.watch s.outside
  (reading, { s with outside })

def messageKey (message : Text) : Except Text.SurrogateFault String := Fingerprint.ofText message

def remembered (backend : Backend τ) (key : Text) (s : Service τ) :
    Option Chat.Intent × Service τ :=
  let (now, s) := s.clock backend
  let (found, parses) := s.parses.get key now
  (found, { s with parses })

def remember (backend : Backend τ) (key : Text) (intent : Chat.Intent) (s : Service τ) :
    Service τ :=
  let (now, s) := s.clock backend
  { s with parses := s.parses.set key intent now }

def find (backend : Backend τ) (key : Text) (s : Service τ) :
    Option StoredResult × Service τ :=
  let (now, s) := s.clock backend
  let (found, results) := s.results.get key now
  (found, { s with results })

def store (backend : Backend τ) (key : Text) (result : StoredResult) (s : Service τ) :
    Service τ :=
  let (now, s) := s.clock backend
  { s with results := s.results.set key result now }

def execute (backend : Backend τ) (text : Text) (values : List Json) (s : Service τ) :
    Except Database.ExecutionError (List Row) × Service τ :=
  let (result, outside) := backend.execute text values s.outside
  (result, { s with outside })

def complete (backend : Backend τ) (prompt : Text) (s : Service τ) :
    Model.Completion × Service τ :=
  let (completion, outside) := backend.complete prompt s.outside
  (completion, { s with outside })

/-! ## Reloading -/

inductive ReloadFault where
  | manifest (fault : Manifest.Fault)
  | describe (fault : Database.DescribeFault)

abbrev Asking (τ : Type) := ExceptT Database.DescribeFault (StateM τ)

def buildRegistry [Stack] (backend : Backend τ) (outside : τ) : Except ReloadFault Registry × τ :=
  let describe : Manifest.Describe (Asking τ) := some backend.describe
  match (Manifest.registryOfFile describe (backend.present outside)
      (backend.manifestFile outside)).run outside with
  | (.error fault, outside) => (.error (.describe fault), outside)
  | (.ok (.error fault), outside) => (.error (.manifest fault), outside)
  | (.ok (.ok registry), outside) => (.ok registry, outside)

def build [Stack] (backend : Backend τ) (s : Service τ) : Except ReloadFault Registry × Service τ :=
  let (built, outside) := buildRegistry backend s.outside
  (built, { s with outside })

def swap (registry : Registry) (s : Service τ) : Service τ := { s with registry }

def clearResults (s : Service τ) : Service τ := { s with results := s.results.clear }

/-- Builds a registry anew and puts it in force.  Results of the former one are forgotten; parsed
messages are kept, for they are checked again when they are used. -/
def reload [Stack] (backend : Backend τ) (s : Service τ) : Except ReloadFault Registry × Service τ :=
  match s.build backend with
  | (.error fault, s) => (.error fault, s)
  | (.ok registry, s) => (.ok registry, (s.swap registry).clearResults)

end Service

end SpatialQuery
