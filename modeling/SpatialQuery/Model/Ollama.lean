import SpatialQuery.Json.Printer
import SpatialQuery.Model.Basic
import SpatialQuery.Stack

/-!
# Local models

A local model is asked over HTTP for a completion in one piece.  Its answer is a JSON object that says
whether the completion is done.
-/

set_option autoImplicit false

namespace SpatialQuery.Model

namespace Ollama

structure Client where
  /-- Without slashes at its end. -/
  baseUrl : Text
  model : Text
  temperature : Number
  maxTokens : Number
  timeoutSeconds : Number

def withoutSlashes (url : Text) : Text :=
  ⟨(url.marks.reverse.dropWhile (· == .char '/')).reverse⟩

inductive ErrorKind where
  | connect
  | timeout
  | unencodable (fault : Text.SurrogateFault)
  | other (name : Text)
deriving DecidableEq

def ErrorKind.ofName (name : Text) : ErrorKind :=
  if name = "ConnectError" || name = "ConnectTimeout" then .connect
  else if name = "ReadTimeout" || name = "WriteTimeout" || name = "PoolTimeout" ||
    name = "TimeoutException" then .timeout
  else .other name

structure TransportError where
  kind : ErrorKind
  message : Text
deriving DecidableEq

def foreignErrors : List String := ["InvalidURL", "CookieConflict", "StreamError", "ValueError"]

/-- Something went wrong on the network, which tells that the service is not there. -/
def TransportError.isOfNetwork (e : TransportError) : Bool :=
  match e.kind with
  | .connect | .timeout => true
  | .unencodable _ => false
  | .other name => !foreignErrors.any fun known => name == known

structure Request where
  method : String
  address : Text
  body : Option Json

structure Response where
  status : Int
  body : Text.Bytes

/-- The library that speaks HTTP. -/
structure Transport where
  /-- The address that a path has below a base. -/
  address : Text → String → Except AddressFault Text
  send : Request → Except TransportError Response

namespace Client

def remediation (client : Client) : List Text := [
  "Make sure Ollama is installed and running",
  "Check that the model is pulled: ollama pull " ++ client.model]

def question (client : Client) (prompt : Text) : Json :=
  .obj [
    ("model", .str client.model),
    ("prompt", .str prompt),
    ("stream", .bool false),
    ("options", .obj [
      ("temperature", .num client.temperature),
      ("num_predict", .num client.maxTokens)])]

def sendable (body : Json) : Except Failure Json :=
  if body.isFinite then
    match (Json.renderOpen body).ordinary with
    | .ok _ => .ok body
    | .error fault => .error (.unencodable fault)
  else .error .unwritable

def request (client : Client) (transport : Transport) (prompt : Text) : Except Failure Request := do
  let address ← (transport.address client.baseUrl "/api/generate").mapError .address
  return ⟨"POST", address, some (← sendable (client.question prompt))⟩

def healthRequest (client : Client) (transport : Transport) : Except Failure Request := do
  return ⟨"GET", ← (transport.address client.baseUrl "/api/tags").mapError .address, none⟩

def unavailable (client : Client) (message : Text) : Failure :=
  .unavailable message client.remediation

def transportFailure (client : Client) (e : TransportError) : Failure :=
  match e.kind with
  | .connect =>
    client.unavailable ("Cannot connect to Ollama at " ++ client.baseUrl ++ ". Is Ollama running?")
  | .timeout =>
    client.unavailable ("Ollama at " ++ client.baseUrl ++ " timed out after " ++
      client.timeoutSeconds.text Decimal.plainLayout ++ "s")
  | .unencodable fault => .unencodable fault
  | .other name => .other name e.message

/-- The completion that an answer holds: any value under `response`, and no text if there is none. -/
def completionOf (answer : Json) : Except Failure Json :=
  match answer with
  | .obj members =>
    if ((Json.member? members "done").getD .null).isVoid then
      .error (.response "Ollama response incomplete")
    else .ok ((Json.member? members "response").getD (.str ""))
  | _ => .error .notText

def readResponse [Stack] (client : Client) (response : Response) : Except Failure Json :=
  if response.status = 404 then
    .error (client.unavailable
      ("Ollama model " ++ client.model ++ " not found: " ++ response.body.shown))
  else if 400 ≤ response.status then
    .error (.response ("Ollama API error (" ++
      String.ofList (Number.intChars response.status) ++ "): " ++ response.body.shown))
  else
    match Json.readBytes (Stack.reading .completion) response.body with
    | .ok answer => completionOf answer
    | .error (.unreadable (.excessive (.nesting isArray))) => .error (.tooDeep isArray)
    | .error e => .error (.response ("Ollama returned non-JSON body: " ++ e.message))

def complete [Stack] (client : Client) (transport : Transport) (prompt : Text) :
    Except Failure Json := do
  match transport.send (← client.request transport prompt) with
  | .ok response => client.readResponse response
  | .error e => .error (client.transportFailure e)

def isHealthy (client : Client) (transport : Transport) : Except Failure Bool := do
  match transport.send (← client.healthRequest transport) with
  | .ok response => return response.status == 200
  | .error e => if e.isOfNetwork then return false else throw (client.transportFailure e)

end Client

end Ollama

end SpatialQuery.Model
