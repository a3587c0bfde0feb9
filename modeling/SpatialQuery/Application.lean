import SpatialQuery.Database.Loading
import SpatialQuery.Http.Answer

/-!
# The application

At its start the application opens the database, loads the layers that the manifest lists, and builds
the service.  A database that cannot be used does not stop it: nothing is loaded then.  At its end the
database is closed.
-/

set_option autoImplicit false

namespace SpatialQuery

open Database (Engine Session)

namespace Application

structure LanguageModel (σ : Type) where
  complete : Text → σ → Model.Completion × σ
  isHealthy : σ → Except Model.Failure Bool × σ

def LanguageModel.ofClient [Stack] {σ : Type} (network : Model.Network) (client : Model.Client) :
    LanguageModel σ where
  complete prompt state := (client.complete network prompt, state)
  isHealthy state := (client.isHealthy network, state)

/-- What an application finds around it: a database engine, clocks, and files. -/
structure Surroundings (σ : Type) where
  engine : Engine σ
  clock : σ → Number × σ
  watch : σ → Number × σ
  fileText : Text → σ → Option Text
  files : Database.Files
  present : Text

variable {σ : Type}

/-- A step that leaves the session as it is but for its state. -/
def onState {α : Type} (step : σ → α × σ) (session : Session σ) : α × Session σ :=
  let (result, state) := step session.state
  (result, { session with state })

/-- The columns of a table, all of which must have names. -/
def columns (engine : Engine σ) (table : Text) (session : Session σ) :
    Except Database.DescribeFault (List Text) × Session σ :=
  let (described, session) := Session.describe engine table session
  (described.bind fun cells => (cells.mapM Cell.text?).elim (.error .unnamed) .ok, session)

/-- The outside of the service, whose manifest is kept at the given path. -/
def backend (around : Surroundings σ) (manifestPath : Text) (model : LanguageModel σ) :
    Backend (Session σ) where
  execute := Session.execute around.engine
  describe := columns around.engine
  complete prompt := onState (model.complete prompt)
  isHealthy := onState model.isHealthy
  clock := onState around.clock
  watch := onState around.watch
  manifestFile session := around.fileText manifestPath session.state
  present _ := around.present

inductive StartFault where
  | manifest (fault : Manifest.Fault)
  | loading (fault : Database.LoadingFault)
  | unknownProvider (provider : Text)
  | registry (fault : Service.ReloadFault)
  | storeSize

def load [Stack] (around : Surroundings σ) (settings : Settings) (session : Session σ) :
    Except StartFault Unit × Session σ :=
  match session.connect around.engine with
  | (.error _, session) => (.ok (), session)
  | (.ok (), session) =>
    match Manifest.ofFile (around.fileText settings.manifestPath session.state) with
    | .error fault => (.error (.manifest fault), session)
    | .ok manifest =>
      match session.loadManifest around.engine settings.dataDir around.files manifest with
      | (.ok _, session) => (.ok (), session)
      | (.error (.load (.unavailable _)), session) => (.ok (), session)
      | (.error fault, session) => (.error (.loading fault), session)

def service? (settings : Settings) (registry : Registry) (session : Session σ) :
    Option (Service (Session σ)) :=
  Service.create? registry settings.parseCacheSize settings.resultCacheSize
    (.int settings.parseCacheTtlSeconds) (.int settings.resultCacheTtlSeconds) session

def build [Stack] (around : Surroundings σ) (model : LanguageModel σ) (settings : Settings)
    (session : Session σ) : Except StartFault (Service (Session σ)) :=
  match Service.buildRegistry (backend around settings.manifestPath model) session with
  | (.error fault, _) => .error (.registry fault)
  | (.ok registry, session) =>
    match service? settings registry session with
    | some service => .ok service
    | none => .error .storeSize

def start [Stack] (around : Surroundings σ) (network : Model.Network) (settings : Settings) (state : σ) :
    Except StartFault (Backend (Session σ) × Service (Session σ)) :=
  match load around settings (Session.atPath settings.databasePath state) with
  | (.error fault, _) => .error fault
  | (.ok (), session) =>
    match settings.modelClient? with
    | none => .error (.unknownProvider settings.llmProvider)
    | some client =>
      let model := LanguageModel.ofClient network client
      match build around model settings session with
      | .error fault => .error fault
      | .ok service => .ok (backend around settings.manifestPath model, service)

def stop (around : Surroundings σ) (service : Service (Session σ)) : Session σ :=
  service.outside.close around.engine

/-- What is said about settings that leave the application without a title or a version. -/
def namelessMessage? (settings : Settings) : Option String :=
  if settings.appName = "" then
    some "A title must be provided for OpenAPI, e.g.: 'My API'"
  else if settings.appVersion = "" then
    some "A version must be provided for OpenAPI, e.g.: '2.1.0'"
  else none

def identity (settings : Settings) : Http.Identity :=
  ⟨settings.appName, settings.appVersion, settings.llmProvider⟩

end Application

end SpatialQuery
