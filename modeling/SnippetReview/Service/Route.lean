import SnippetReview.Text.Percent
import SnippetReview.Form.Body
import SnippetReview.Service.Handler

/-!
# Routes

A request is answered by the route that has its method and its path. A path without a route for
the method tells the method of its first route. A path that lacks a route only for the slashes at
its end is sent on to the path without them, and one that lacks it for want of a slash to the path
with it. `handle` gives the reply unless an exception ends the handling of the request, and `reply`
gives the reply in any case.
-/

namespace SnippetReview

namespace Service

/-- The path of what the framework tells of the program. -/
def Documentation.path : Documentation → Text
  | schema => "/openapi.json".toList
  | guide => "/docs".toList
  | signIn => "/docs/oauth2-redirect".toList
  | reference => "/redoc".toList

/-- The type of what the framework tells of the program. -/
def Documentation.type : Documentation → Text
  | schema => "application/json".toList
  | _ => "text/html; charset=utf-8".toList

/-- The routes. -/
inductive Route
  | documentation (d : Documentation)
  | health
  | healthProbe
  | homeProbe
  | home
  | form (target : Target)
  | api
  deriving DecidableEq

namespace Route

/-- All routes, in the order in which they are tried. -/
def all : List Route :=
  [documentation .schema, documentation .guide, documentation .signIn, documentation .reference,
   health, healthProbe, homeProbe, home, form .report, form .print, api]

/-- The methods of a route. -/
def methods : Route → List Text
  | documentation _ => ["GET".toList, "HEAD".toList]
  | health | home => ["GET".toList]
  | healthProbe | homeProbe => ["HEAD".toList]
  | form _ | api => ["POST".toList]

/-- The path of a route. -/
def path : Route → Text
  | documentation d => d.path
  | health | healthProbe => Site.healthPath
  | homeProbe | home => Site.homePath
  | form target => target.path
  | api => Site.apiPath

/-- The methods of a route as they are told to who asks for its path by another one. -/
def allowed (platform : Platform) : Route → Text
  | documentation _ => platform.documentationMethods
  | route => route.methods.flatten

/-- Whether a route is found at a path: at its own, and at that with one newline at the end. -/
def isAt (path : Text) (r : Route) : Bool := path == r.path || path == r.path ++ ['\n']

/-- The route with a method at a path. -/
def find? (method path : Text) : Option Route :=
  all.find? fun r => r.methods.contains method && r.isAt path

/-- The first route at a path. -/
def at? (path : Text) : Option Route := all.find? (isAt path)

end Route

/-! ## Answers that tell what is wrong with a request -/

/-- The answer on a path that does not exist. -/
def notFound : Answer := .of 404 (.json (detailObject (.ofString "Not Found")))

/-- The answer on a path that exists for other methods. -/
def notAllowed (methods : Text) : Answer :=
  { Answer.of 405 (.json (detailObject (.ofString "Method Not Allowed"))) with
    allow := some methods }

/-- The answer to a form that is refused. -/
def badForm (f : Form.Fault) : Answer := .of 400 (.json (detailObject (.string f.message)))

/-! ## Requests with a route -/

/-- The reply of a route to a request, unless an exception ends its handling. -/
def Route.handle (platform : Platform) (settings : Settings) (reviewer : Reviewer) (r : Request) :
    Route → Except Abort Reply
  | documentation d => .ok ⟨.of 200 (.framework d.type (platform.documentation d)), []⟩
  | health => .ok ⟨.of 200 (.json (.object [("status".toList, .ofString "ok")])), []⟩
  | healthProbe | homeProbe => .ok ⟨.of 200 .nothing, []⟩
  | home => .ok ⟨.of 200 (.page (FormPage.blank r.address).markup), []⟩
  | form target =>
    match Form.fieldsOf (r.header? "content-type") r.body with
    | .error f => .ok ⟨badForm f, []⟩
    | .ok fields => submitFields platform r.address target settings reviewer fields
  | api => (submitBody platform settings reviewer r.body).encoded []

/-! ## Requests without a route -/

/-- An address as it stands in a header. -/
def headerAddress (url : Text) : Text :=
  Percent.encode (fun c => Percent.isUnreserved c || Percent.isReserved c) url

/-- The answer that sends a request on to another path, with the same query. -/
def redirect (r : Request) (path : Text) : Answer :=
  let url := r.address ++ path ++ if r.query.isEmpty then [] else '?' :: r.query
  { Answer.of 307 .nothing with location := some (headerAddress url) }

/-- A path without the slashes at its end, or with one if it has none. -/
def otherPath (path : Text) : Text :=
  if path.getLast? = some '/' then (path.reverse.dropWhile (· == '/')).reverse else path ++ ['/']

/-- The answer to a request that no route answers. -/
def answerWithoutRoute (platform : Platform) (r : Request) : Answer :=
  match Route.at? r.path with
  | some first => notAllowed (first.allowed platform)
  | none =>
    let path := otherPath r.path
    if (Route.at? path).isSome then redirect r path else notFound

/-! ## All requests -/

/-- The reply to a request, unless an exception ends its handling. -/
def handle (platform : Platform) (settings : Settings) (reviewer : Reviewer) (r : Request) :
    Except Abort Reply :=
  match Route.find? r.method r.path with
  | some route => route.handle platform settings reviewer r
  | none => .ok ⟨answerWithoutRoute platform r, []⟩

/-- The reply to a request. -/
def reply (platform : Platform) (settings : Settings) (reviewer : Reviewer) (r : Request) : Reply :=
  settle (handle platform settings reviewer r)

end Service

end SnippetReview
