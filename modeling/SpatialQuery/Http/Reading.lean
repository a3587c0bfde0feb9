import SpatialQuery.Http.Message
import SpatialQuery.Query.Shape
import SpatialQuery.Settings
import SpatialQuery.Stack

/-!
# Reading requests

What a request holds for the service: a JSON body, a message, or a choice in the query.
-/

set_option autoImplicit false

namespace SpatialQuery.Http

def readBody [Stack] (body : String) : Except Response Json :=
  if body = "" then .error (.invalid [⟨"body", "Field required"⟩])
  else
    match Json.readBytes (Stack.reading .body) body with
    | .ok value => .ok value
    | .error (.unreadable (.malformed _ offset _ _)) =>
      .error (.invalid [⟨"body." ++ String.ofList (Decimal.digitChars offset),
        "JSON decode error"⟩])
    | .error _ => .error (.detail 400 (.str "There was an error parsing the body"))

/-- The message in a body: a text that is not empty. -/
def messageOf : Json → Checked Text
  | .obj members => Shape.required members "message" "message" Shape.name
  | _ => Checked.refuse "Input should be a valid dictionary or object to extract fields from"

def readMessage [Stack] (body : String) : Except Response Text :=
  match readBody body with
  | .error response => .error response
  | .ok value =>
    match ((messageOf value).under "body").toIssues with
    | .ok message => .ok message
    | .error issues => .error (.invalid issues)

def readGrouped (request : Request) : Except Response Bool :=
  match request.field? "grouped" with
  | none => .ok false
  | some word =>
    match Settings.truthOf? word with
    | some grouped => .ok grouped
    | none => .error (.invalid [⟨"query.grouped", Settings.truthMessage⟩])

end SpatialQuery.Http
