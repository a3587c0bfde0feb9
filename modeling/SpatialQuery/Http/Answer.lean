import SpatialQuery.Http.Body
import SpatialQuery.Http.Reading
import SpatialQuery.Http.Rejection
import SpatialQuery.Http.Route
import SpatialQuery.Service.Stage

/-!
# Answers

Which request is answered by what.  A known path that is asked with another method is not served, and
a path that would be known without the slashes at its end is redirected there.
-/

set_option autoImplicit false

namespace SpatialQuery.Http

variable [Stack] {τ : Type}

def serve (backend : Backend τ) (request : Service.Request) (s : Service τ) :
    Response × Service τ :=
  match s.serve backend request with
  | (.ok text, s) => (.ofText 200 text, s)
  | (.error failure, s) => (rejection failure, s)

def reload (backend : Backend τ) (s : Service τ) : Response × Service τ :=
  match s.reload backend with
  | (.ok registry, s) => (layersResponse registry, s)
  | (.error _, s) => (.internal, s)

def health (identity : Identity) (backend : Backend τ) (s : Service τ) : Response × Service τ :=
  match backend.isHealthy s.outside with
  | (.ok available, outside) =>
    (.ofJson 200 (healthBody identity s.registry available), { s with outside })
  | (.error _, outside) => (.internal, { s with outside })

/-- The response with a page of the documentation; what the page says is left to the pages. -/
def documentation : Documentation → Response
  | .schema => ⟨200, some "application/json", ""⟩
  | _ => ⟨200, some "text/html; charset=utf-8", ""⟩

def handle (identity : Identity) (backend : Backend τ) (route : Route) (request : Request)
    (s : Service τ) : Response × Service τ :=
  match route with
  | .documentation page => (documentation page, s)
  | .root => (.ofJson 200 (rootBody identity), s)
  | .health => health identity backend s
  | .query =>
    match readBody request.body with
    | .ok value => serve backend (.structured value) s
    | .error response => (response, s)
  | .chat =>
    match readMessage request.body with
    | .ok message => serve backend (.chat message) s
    | .error response => (response, s)
  | .chatStats => (.ofMembers 200 [("cache", storesBody s)], s)
  | .layers => (layersResponse s.registry, s)
  | .reload => reload backend s
  | .templates =>
    match readGrouped request with
    | .ok true => (.ofJson 200 groupedBody, s)
    | .ok false => (.ofJson 200 (templatesBody s.registry), s)
    | .error response => (response, s)
  | .category name => (categoryResponse name, s)
  | .template id => (templateResponse id, s)

def trimmed (path : List Char) : List Char := (path.reverse.dropWhile (· = '/')).reverse

def unrouted (path : List Char) : Response :=
  if path.getLast? = some '/' ∧ (Route.ofPath? (trimmed path)).isSome then ⟨307, none, ""⟩
  else .detail 404 (.str "Not Found")

def fullAnswer (identity : Identity) (backend : Backend τ) (request : Request) (s : Service τ) :
    Response × Service τ :=
  match Route.ofPath? request.path with
  | none => (unrouted request.path, s)
  | some route =>
    if route.methods.contains request.method then handle identity backend route request s
    else (.detail 405 (.str "Method Not Allowed"), s)

/-- Answers a request.  One that asks for the head gets no body. -/
def answer (identity : Identity) (backend : Backend τ) (request : Request) (s : Service τ) :
    Response × Service τ :=
  let (response, s) := fullAnswer identity backend request s
  (if request.method = "HEAD" then { response with body := "" } else response, s)

end SpatialQuery.Http
