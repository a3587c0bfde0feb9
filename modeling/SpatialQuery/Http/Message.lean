import SpatialQuery.Issue
import SpatialQuery.Json.Printer

/-!
# Requests and responses

What goes over the wire, as far as the service looks at it.
-/

set_option autoImplicit false

namespace SpatialQuery.Http

structure Request where
  /-- In capitals. -/
  method : String
  /-- With escapes resolved. -/
  path : List Char
  fields : List (String × String)
  body : String

/-- The value of a field; of several the last. -/
def Request.field? (request : Request) (name : String) : Option String :=
  (request.fields.reverse.find? fun field => field.1 == name).map (·.2)

structure Response where
  status : Nat
  contentType : Option String
  body : String
deriving DecidableEq

namespace Response

/-- Nothing is told of errors that nobody foresaw. -/
def internal : Response :=
  ⟨500, some "application/json", "\x7b\"error\":\"Internal server error occurred\"\x7d"⟩

/-- A body, unless it cannot be encoded. -/
def ofText (status : Nat) (body : Text) : Response :=
  match body.toString? with
  | some body => ⟨status, some "application/json", body⟩
  | none => internal

def ofJson (status : Nat) (body : Json) : Response :=
  if body.isFinite then ofText status (Json.renderOpen body) else internal

def ofMembers (status : Nat) (members : List (Text × Json)) : Response :=
  ofJson status (.obj members)

def detail (status : Nat) (detail : Json) : Response := ofMembers status [("detail", detail)]

def issueList (issues : List Issue) : Json :=
  .arr (issues.map fun issue =>
    .obj [("path", .str issue.path), ("message", .str issue.message)])

def invalid (issues : List Issue) : Response :=
  ofMembers 400 [("error", .str "Invalid request payload"), ("details", issueList issues)]

end Response

end SpatialQuery.Http
