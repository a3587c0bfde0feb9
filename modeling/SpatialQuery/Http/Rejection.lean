import SpatialQuery.Http.Message
import SpatialQuery.Service.Failure

/-!
# Responses to failures

What a client learns of each failure: faults of its query in full, hints where there are some, and of
errors inside no more than that there was one.
-/

set_option autoImplicit false

namespace SpatialQuery.Http

def parseSuggestions : List Text := [
  "Try: \"Show residential parcels\"",
  "Try: \"Parcels near the river\"",
  "Try: \"Census tracts with low income\""]

def refusal (summary : Text) (issues : List Issue) (more : List (Text × Json)) : Response :=
  Response.ofMembers 400
    (("error", .str summary) :: ("details", Response.issueList issues) :: more)

def modelRejection : Model.Failure → Response
  | .unavailable message remediation =>
    Response.ofMembers 503 [
      ("error", .str "LLM service unavailable"),
      ("message", .str message),
      ("suggestions", .texts remediation)]
  | .response message =>
    Response.ofMembers 400 [
      ("error", .str "Could not understand query"),
      ("message", .str message),
      ("suggestions", .texts parseSuggestions)]
  | _ => Response.internal

def replyRejection (fault : Chat.ReplyFault) : Response :=
  match fault with
  | .excessive _ => Response.internal
  | fault =>
    Response.ofMembers 400 [
      ("error", .str "Could not understand query"),
      ("message", .str fault.message),
      ("details", Response.issueList fault.issues),
      ("suggestions", .texts parseSuggestions)]

def executionRejection (error : Database.ExecutionError) (suggestions : List Text) : Response :=
  match error.kind with
  | .unsupportedData =>
    Response.ofMembers 400 [
      ("error", .str "Query references unavailable fields"),
      ("message", .str error.message),
      ("suggestions", .texts suggestions)]
  | .internal =>
    Response.ofMembers 500 [
      ("error", .str "Query execution failed"),
      ("message", .str error.message)]

def rejection (failure : Service.Failure) : Response :=
  match failure with
  | .illFormed issues =>
    refusal Service.Failure.illFormedSummary issues []
  | .unsupported issues =>
    refusal Service.Failure.unsupportedSummary issues []
  | .ungrounded issues suggestions notes =>
    refusal Service.Failure.ungroundedSummary issues
      [("suggestions", .texts suggestions), ("normalizationNotes", .texts notes)]
  | .compile error =>
    Response.ofMembers 500 [
      ("error", .str "Query compilation failed"),
      ("message", .str error.message)]
  | .execution error suggestions => executionRejection error suggestions
  | .ungroundable assessment =>
    Response.ofMembers 422 [
      ("error", .str "Requested data is not available"),
      ("message", .str failure.message),
      ("grounding", assessment.toJson),
      ("suggestions", .texts assessment.suggestions)]
  | .model failure => modelRejection failure
  | .reply fault _ => replyRejection fault
  | .feature _ | .unencodable _ | .noParser => Response.internal

end SpatialQuery.Http
