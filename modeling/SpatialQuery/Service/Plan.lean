import SpatialQuery.Query.Grounding
import SpatialQuery.Query.Replacement
import SpatialQuery.Service.Basic

/-!
# Plans

A query that passed every check against one registry, as it will be run and as its answer will be
written.
-/

set_option autoImplicit false

namespace SpatialQuery.Service

def explanationFor (count : Int) : String :=
  "Found " ++ String.ofList (Number.intChars count) ++ " result" ++
    (if count = 1 then "" else "s") ++ " for your query."

inductive Origin where
  | structured (wrapping : Query.Wrapping)
  | chat (intent : Chat.Intent) (assessment : Chat.Assessment) (parseHit : Bool)
      (parseMilliseconds : Number)

namespace Origin

/-- The query came from a parse that was kept. -/
def parseHit : Origin → Bool
  | .structured _ => false
  | .chat _ _ hit _ => hit

def facts (count : Nat) : Origin → List (Text × Json)
  | .structured wrapping => [("requestFormat", .str wrapping.name)]
  | .chat intent assessment _ milliseconds => [
      ("confidence", .real intent.confidence),
      ("explanation", .str (explanationFor count)),
      ("parseTimeMs", Json.finiteOrNull (.num milliseconds.toHundredths)),
      ("grounding", assessment.toJson)]

end Origin

structure Plan where
  registry : Registry
  limited : Limited
  notes : List Text

namespace Plan

def ofQuery (registry : Registry) (q : Query) : Except Failure Plan :=
  match q.normalize .builtIn with
  | .error issues => .error (.unsupported issues)
  | .ok (normal, notes) =>
    match normal.groundingIssues registry with
    | [] => .ok ⟨registry, normal.limited registry, notes⟩
    | issues => .error (.ungrounded issues (Query.suggestions registry issues) notes)

def tolerance (plan : Plan) : Number := .real plan.limited.tolerance

def key (plan : Plan) : Text := plan.limited.query.resultKey plan.tolerance

def statement (plan : Plan) : Except Failure Sql.Written :=
  (Sql.compile plan.registry plan.limited.query plan.tolerance).mapError .compile

def listFields (plan : Plan) : List Text :=
  ((plan.registry.get? plan.limited.query.selectLayer).map (·.arrayFields)).getD []

def result [Stack] (plan : Plan) (rows : List Row) (milliseconds : Number) :
    Except Failure StoredResult :=
  match Feature.allText plan.listFields rows with
  | .ok features => .ok ⟨features, rows.length, milliseconds⟩
  | .error fault => .error (.feature fault)

/-- Of an error that the data is to blame for, hints on what may be asked. -/
def executionFailure (plan : Plan) (e : Database.ExecutionError) : Failure :=
  .execution e (if e.kind = .unsupportedData then Query.suggestions plan.registry [] else [])

def answer [Stack] (plan : Plan) (origin : Origin) (queryHit : Bool) (result : StoredResult) :
    Except Failure Text :=
  let facts := Feature.metadata result.count result.milliseconds plan.limited plan.notes
    ⟨origin.parseHit, queryHit⟩ (origin.facts result.count)
  (Feature.collection result.features facts).mapError .feature

end Plan

end SpatialQuery.Service
