import SpatialQuery.Chat.ObjectText
import SpatialQuery.Json.Reader
import SpatialQuery.Layer.Registry
import SpatialQuery.Query.Shape
import SpatialQuery.Stack
import SpatialQuery.Text.Blank
import SpatialQuery.Text.LetterCase

/-!
# Intents

The query that a language model gave for a message, with a score of how well it fits the data.  The
score is for the reader; nothing depends on it.
-/

set_option autoImplicit false

namespace SpatialQuery.Chat

structure Intent where
  query : Query
  confidence : Float
  reply : Text

inductive ReplyFault where
  | noObject
  | malformed (fault : Json.Fault) (offset line column : Nat)
  | excessive (excess : Json.Excess)
  | illFormed (issues : List Issue)

def ReplyFault.message : ReplyFault → Text
  | .noObject => "LLM did not return valid JSON"
  | .malformed fault offset line column =>
    "Failed to parse JSON from LLM response: " ++
      (Json.ReadError.malformed fault offset line column).message
  | .excessive excess => excess.message
  | .illFormed issues =>
    "Query validation failed: " ++
      Text.intercalate ", " (issues.map fun issue => issue.path ++ ": " ++ issue.message)

def ReplyFault.issues : ReplyFault → List Issue
  | .illFormed issues => issues
  | _ => []

def queryOfReply [Stack] (reply : Text) : Except ReplyFault Query :=
  match objectText? reply with
  | none => .error .noObject
  | some text =>
    match Json.read (Stack.reading .reply) text with
    | .error (.malformed fault offset line column) => .error (.malformed fault offset line column)
    | .error (.excessive excess) => .error (.excessive excess)
    | .ok raw =>
      match Query.ofJson raw with
      | .ok q => .ok q
      | .error issues => .error (.illFormed issues)

/-! ## Confidence -/

def hedges : List Text := ["uncertain", "not sure", "might be", "possibly", "maybe"]

/-- The reply has a word of doubt in it, or ends in a question. -/
def isHedged (reply : Text) : Bool :=
  (hedges.any fun hedge => reply.lowered.contains hedge) ||
    (Text.trimEnd Text.isBlank reply.shown).getLast? == some '?'

def isKnownField (layer : Layer) (field : Text) : Bool :=
  (layer.schemaFields.map (·.1)).contains field && layer.queryableFields.contains field

/-- The deductions for names that are not known, in the order in which they are made. -/
def nameDeductions (q : Query) (registry : Registry) : List Float :=
  match registry.get? q.selectLayer, Catalog.schema? q.selectLayer with
  | some layer, some _ =>
    (q.attributes.filter fun f => !isKnownField layer f.field).map (fun _ => 0.1) ++
      (q.spatials.filter fun s => (Catalog.schema? s.targetLayer).isNone).map fun _ => 0.2
  | _, _ => [0.3]

/-- How well a query fits the known data, between zero and one. -/
def confidence (q : Query) (reply : Text) (registry : Registry) : Float :=
  let deductions := nameDeductions q registry ++ if isHedged reply then [0.2] else []
  let score := deductions.foldl (· - ·) 0.8
  if 1 < score then 1 else if 0 < score then score else 0

def intentOfReply [Stack] (reply : Text) (registry : Registry) : Except ReplyFault Intent :=
  match queryOfReply reply with
  | .ok q => .ok ⟨q, confidence q reply registry, reply⟩
  | .error fault => .error fault

end SpatialQuery.Chat
