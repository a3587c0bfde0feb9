/-!
# Routes

The paths that are known, each with its method.  A line break at the end of a path is not looked at,
unless it is part of a name.
-/

set_option autoImplicit false

namespace SpatialQuery.Http

inductive Documentation where
  | schema
  | explorer
  | explorerRedirect
  | reference
deriving DecidableEq

inductive Route where
  | documentation (page : Documentation)
  | root
  | health
  | query
  | chat
  | chatStats
  | layers
  | reload
  | templates
  | category (name : String)
  | template (id : String)
deriving DecidableEq

namespace Route

def fixed : List (String × Route) := [
  ("/openapi.json", .documentation .schema), ("/docs", .documentation .explorer),
  ("/docs/oauth2-redirect", .documentation .explorerRedirect),
  ("/redoc", .documentation .reference), ("/", .root), ("/api/health", .health),
  ("/api/query", .query), ("/api/chat", .chat), ("/api/chat/stats", .chatStats),
  ("/api/layers", .layers), ("/api/layers/reload", .reload), ("/api/templates", .templates)]

/-- The name that follows the start of a path: it is not empty and has no slash. -/
def nameAfter? (start : String) (path : List Char) : Option String :=
  if start.toList.isPrefixOf path then
    let name := path.drop start.toList.length
    if name.isEmpty || name.contains '/' then none else some (String.ofList name)
  else none

def ofPath? (path : List Char) : Option Route :=
  match fixed.find? fun known => path = known.1.toList ∨ path = known.1.toList ++ ['\n'] with
  | some known => some known.2
  | none =>
    match nameAfter? "/api/templates/category/" path with
    | some name => some (.category name)
    | none => (nameAfter? "/api/templates/" path).map .template

def methods : Route → List String
  | .query | .chat | .reload => ["POST"]
  | .documentation _ => ["GET", "HEAD"]
  | _ => ["GET"]

end Route

end SpatialQuery.Http
