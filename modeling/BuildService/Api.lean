import BuildService.Dispatcher
import BuildService.Http.Message
import BuildService.Request.Decoding
import BuildService.Text.Percent
/-!
The service over HTTP.

There are four routes: one triggers a build, one gives the log of a project, one
its state, and one says that the service is there. A request that is refused
changes nothing. A trigger is looked at from the outside to the inside, and the
first thing that is wrong with it decides: the path, the media type, the size of
the body, its JSON, the platform, the fields, and last whether the project is
being built already.
-/

set_option autoImplicit false

namespace BuildService

open Http

/-- What a path leads to; a segment stands as it was written. -/
inductive Route where
  | build (platform : String)
  | logs (project : String)
  | status (project : String)
  | health
  deriving DecidableEq, Repr

namespace Route

def segments (path : String) : List String := (path.toList.splitOn '/').map String.ofList

/-- The route of a path. A segment that stands for a value has to hold something. -/
def ofPath? (path : String) : Option Route :=
  match segments path with
  | ["", "health"] => some .health
  | ["", "build", p] => if p.isEmpty then none else some (.build p)
  | ["", "logs", p] => if p.isEmpty then none else some (.logs p)
  | ["", "status", p] => if p.isEmpty then none else some (.status p)
  | _ => none

/-- Whether a route triggers something and does not only look. -/
def isTrigger : Route → Bool
  | .build _ => true
  | _ => false

def takes (r : Route) (method : String) : Bool :=
  if r.isTrigger then method == "POST" else method == "GET" || method == "HEAD"

def allow (r : Route) : String := if r.isTrigger then "POST" else "GET,HEAD"

end Route

namespace Api

/-- Why a request is refused. -/
inductive Refusal where
  /-- Nothing stands at the path. -/
  | noRoute
  /-- The route does not take the method. -/
  | method (route : Route)
  /-- The segment for this value is no UTF-8. -/
  | path (value : String)
  /-- The body is not said to be JSON. -/
  | mediaType
  /-- The body is too large. -/
  | size
  /-- The body is not the JSON of a request. -/
  | body (fault : Json.Fault)
  /-- The project has no log. -/
  | noLogs
  /-- The service refuses, or has failed. -/
  | fault (fault : Fault)
  deriving DecidableEq, Repr

/-- How many bytes a body may have. -/
def bodyLimit : Nat := 2097152

/-- The status that goes with a fault. -/
def statusOf : Fault → Nat
  | .invalidPlatform _ => 400
  | .invalidField _ _ => 400
  | .unsupportedPlatform _ => 422
  | .alreadyRunning _ => 409
  | _ => 500

def ofFault (e : Fault) : Response := .object (statusOf e) "error" e.message

/-- The response to a body that is not the JSON of a request. -/
def ofBodyFault : Json.Fault → Response
  | .malformed => .plain 400 "Failed to parse the request body as JSON"
  | .cutShort => .plain 400 "Failed to parse the request body as JSON"
  | .mismatch place message =>
    let placed := match place with
      | some p => p ++ ": " ++ message
      | none => message
    .plain 422 ("Failed to deserialize the JSON body into the target type: " ++ placed)

def Refusal.response : Refusal → Response
  | .noRoute => .bare 404
  | .method route => { Response.bare 405 with allow := some route.allow }
  | .path value => .plain 400 ("Invalid URL: Invalid UTF-8 in \x60" ++ value ++ "\x60")
  | .mediaType => .plain 415 "Expected request with \x60Content-Type: application/json\x60"
  | .size => .plain 413 "Failed to buffer the request body: length limit exceeded"
  | .body e => ofBodyFault e
  | .noLogs => .object 404 "error" "No logs available for this project."
  | .fault e => ofFault e

/-- The value of a segment. -/
def segmentValue (value segment : String) : Except Refusal String :=
  match Text.percentDecode? segment with
  | some s => .ok s
  | none => .error (.path value)

def readBody (m : Message) : Except Refusal Request :=
  if !m.isJson then .error .mediaType
  -- A body that is too large is not looked into.
  else if bodyLimit < m.body.length then .error .size
  else match Request.ofJson m.body with
    | .ok r => .ok r
    | .error e => .error (.body e)

def platformOf (name : String) : Except Refusal Platform :=
  match Platform.ofName? name with
  | some p => .ok p
  | none => .error (.fault (.invalidPlatform name))

def started (r : Request) (p : Platform) : Response :=
  .object 202 "message" ("Build for project " ++ r.projectId ++ " (" ++ p.name ++ ") started")

def trigger (s : Dispatcher) (segment : String) (m : Message) :
    Except Refusal (Response × Dispatcher) :=
  match segmentValue "platform" segment with
  | .error e => .error e
  | .ok name =>
    -- The whole request is read before any of it is looked at.
    match readBody m with
    | .error e => .error e
    | .ok r =>
      match platformOf name with
      | .error e => .error e
      | .ok p =>
        match s.accept false p r with
        | .error e => .error (.fault e)
        | .ok (_, s) => .ok (started r p, s)

def showLog (s : Dispatcher) (segment : String) : Except Refusal Response :=
  match segmentValue "project_id" segment with
  | .error e => .error e
  | .ok project =>
    match Request.validateProjectId project with
    | .error e => .error (.fault e)
    | .ok () =>
      match s.readLog project with
      | .error e => .error (.fault e)
      | .ok none => .error .noLogs
      | .ok (some log) => .ok (.object 200 "logs" log)

def showStatus (s : Dispatcher) (segment : String) : Except Refusal Response :=
  match segmentValue "project_id" segment with
  | .error e => .error e
  -- What is no project id was never built, so nobody has to check for one.
  | .ok project => .ok (.object 200 "status" (s.registry.get project).name)

/-- What a route does with a request whose method it takes. -/
def run (s : Dispatcher) (m : Message) : Route → Except Refusal (Response × Dispatcher)
  | .build segment => trigger s segment m
  | .logs segment => (showLog s segment).map fun r => (r, s)
  | .status segment => (showStatus s segment).map fun r => (r, s)
  | .health => .ok (.object 200 "status" "ok", s)

/-- What becomes of a request. -/
def decide (s : Dispatcher) (m : Message) : Except Refusal (Response × Dispatcher) :=
  match Route.ofPath? m.target.path with
  | none => .error .noRoute
  -- The method is looked at before any segment is decoded.
  | some route => if route.takes m.method then run s m route else .error (.method route)

def answer (s : Dispatcher) (m : Message) : Response × Dispatcher :=
  let (r, s) := match decide s m with
    | .ok done => done
    | .error e => (e.response, s)
  ({ r with headOnly := m.method == "HEAD" }, s)

end Api

end BuildService
