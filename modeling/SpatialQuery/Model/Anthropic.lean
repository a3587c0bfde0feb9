import SpatialQuery.Json.Basic
import SpatialQuery.Model.Basic

/-!
# The Claude API

A prompt is sent as one message of a user.  Calls are not repeated.  A reply is the text of its text
blocks; one that was cut off or has no text is no reply.
-/

set_option autoImplicit false

namespace SpatialQuery.Model

namespace Anthropic

structure Client where
  hasKey : Bool
  model : Text
  maxTokens : Number
  temperature : Number

inductive ErrorKind where
  /-- The service was not reached, or did not answer in time. -/
  | connection
  | authentication
  | permission
  | rateLimit
  | server
  | status (code : Int)
  /-- An answer that is not what the API promises. -/
  | unexpected (name : Text)
deriving DecidableEq

def serverErrors : List String := ["InternalServerError", "OverloadedError",
  "ServiceUnavailableError", "DeadlineExceededError", "HTTPNotImplementedError"]

/-- The kind of an error by its name; `status` is the status of the answer. -/
def ErrorKind.ofName (name : Text) (status : Int) : ErrorKind :=
  if name = "APIConnectionError" || name = "APITimeoutError" then .connection
  else if name = "AuthenticationError" then .authentication
  else if name = "PermissionDeniedError" then .permission
  else if name = "RateLimitError" || name = "EnforcedSpendLimitReachedError" then .rateLimit
  else if serverErrors.any fun known => name == known then .server
  else if name = "APIError" || name = "APIResponseValidationError" then .unexpected name
  else .status status

structure ApiError where
  kind : ErrorKind
  message : Text
deriving DecidableEq

/-- A part of a reply.  Only parts of the kind `text` count. -/
structure Block where
  kind : Option Text
  /-- Absent when the part has something else in its place. -/
  text : Option Text
deriving DecidableEq

structure Reply where
  stopReason : Option Text
  blocks : List Block
deriving DecidableEq

def remediation : List Text := [
  "Check that ANTHROPIC_API_KEY is set and valid",
  "Check network access to api.anthropic.com",
  "Or set LLM_PROVIDER=ollama to use a local model"]

def Client.request (client : Client) (prompt : Text) : Json :=
  .obj [
    ("model", .str client.model),
    ("max_tokens", .num client.maxTokens),
    ("temperature", .num client.temperature),
    ("messages", .arr [.obj [("role", .str "user"), ("content", .str prompt)]])]

def healthRequest : Json := .obj [("limit", .int 1)]

def ApiError.failure (e : ApiError) : Failure :=
  match e.kind with
  | .connection => .unavailable ("Cannot connect to Claude API: " ++ e.message) remediation
  | .authentication | .permission =>
    .unavailable ("Claude API rejected credentials: " ++ e.message) remediation
  | .rateLimit | .server => .unavailable ("Claude API is unavailable: " ++ e.message) remediation
  | .unexpected name => .other name e.message
  | .status code =>
    .response ("Claude API error (" ++ String.ofList (Number.intChars code) ++ "): " ++ e.message)

def Reply.text? (reply : Reply) : Option Text :=
  let parts := reply.blocks.filter fun block => block.kind == some ("text" : Text)
  (parts.mapM Block.text).map Text.concat

def Reply.completion (reply : Reply) : Completion :=
  if reply.stopReason = some ("max_tokens" : Text) then
    .error (.response "Claude response incomplete (max_tokens reached)")
  else
    match reply.text? with
    | none => .error .noTextPart
    | some text =>
      if text = "" then .error (.response "Claude returned an empty response") else .ok text

/-- Completes a prompt.  `send` hands a request to the service. -/
def Client.complete (client : Client) (send : Json → Except ApiError Reply) (prompt : Text) :
    Completion :=
  if client.hasKey then
    match send (client.request prompt) with
    | .ok reply => reply.completion
    | .error e => .error e.failure
  else .error (.unavailable "No Anthropic API key configured" remediation)

def Client.isHealthy (client : Client) (send : Json → Except ApiError Unit) : Bool :=
  client.hasKey && (send healthRequest).isOk

end Anthropic

end SpatialQuery.Model
