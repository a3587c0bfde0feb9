import SpatialQuery.Json.Reader
import SpatialQuery.Text.Encoding

/-!
# Language models

A language model completes a prompt or fails, and says whether it is in good health.
-/

set_option autoImplicit false

namespace SpatialQuery.Model

inductive AddressFault where
  | invalid (message : Text)
  | unencodable (fault : Text.SurrogateFault)
deriving DecidableEq

inductive Failure where
  /-- The model cannot be reached; with hints on what to do. -/
  | unavailable (message : Text) (remediation : List Text)
  /-- The model answered, but not as it should. -/
  | response (message : Text)
  /-- The model answered with something that is no text. -/
  | notText
  /-- A part of the answer that should be text is none. -/
  | noTextPart
  | tooDeep (isArray : Bool)
  | address (fault : AddressFault)
  /-- A number in the request cannot be written. -/
  | unwritable
  | unencodable (fault : Text.SurrogateFault)
  | other (kind message : Text)
deriving DecidableEq

def unwritableMessage : String := "Out of range float values are not JSON compliant"

def Failure.message : Failure → Text
  | .unavailable message _ | .response message | .other _ message => message
  | .notText | .noTextPart => ""
  | .tooDeep isArray => (Json.Excess.nesting isArray).message
  | .address (.invalid message) => message
  | .address (.unencodable fault) => fault.message
  | .unwritable => unwritableMessage
  | .unencodable fault => fault.message

abbrev Completion := Except Failure Text

end SpatialQuery.Model
