import SpatialQuery.Chat.Assessment
import SpatialQuery.Chat.Intent
import SpatialQuery.Database.Engine
import SpatialQuery.Feature.Collection
import SpatialQuery.Issue
import SpatialQuery.Model.Basic
import SpatialQuery.Sql.Compile

/-!
# Failures

Why a request has no answer.  Faults of a query are told all at once; what fails after the query was
checked fails at its first error.
-/

set_option autoImplicit false

namespace SpatialQuery.Service

inductive Failure where
  | illFormed (issues : List Issue)
  /-- A concept field is used in a way that has no meaning in the data. -/
  | unsupported (issues : List Issue)
  | ungrounded (issues : List Issue) (suggestions notes : List Text)
  | compile (error : Sql.CompileError)
  | execution (error : Database.ExecutionError) (suggestions : List Text)
  | feature (fault : Feature.Fault)
  /-- A message that cannot be encoded, so that its parse has no key. -/
  | unencodable (fault : Text.SurrogateFault)
  | ungroundable (assessment : Chat.Assessment)
  | model (failure : Model.Failure)
  | reply (fault : Chat.ReplyFault) (reply : Text)
  | noParser

namespace Failure

def illFormedSummary : String := "Invalid query payload"

def unsupportedSummary : String := "Unsupported virtual field usage"

def ungroundedSummary : String := "Query validation failed against loaded data"

def ungroundableMessage : String := "Requested data is not available in the loaded layers"

def noParserMessage : String := "Chat pipeline requires an intent parser and a parse cache"

def message : Failure → Text
  | .illFormed issues => Issue.summarize illFormedSummary issues
  | .unsupported issues => Issue.summarize unsupportedSummary issues
  | .ungrounded issues _ _ => Issue.summarize ungroundedSummary issues
  | .compile error => error.message
  | .execution error _ => error.message
  | .feature fault => fault.message
  | .unencodable fault => fault.message
  | .ungroundable _ => ungroundableMessage
  | .model failure => failure.message
  | .reply fault _ => fault.message
  | .noParser => noParserMessage

end Failure

end SpatialQuery.Service
