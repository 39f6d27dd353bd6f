import OriginGate.Cors.Gate
import OriginGate.Docs.Files
import OriginGate.Metrics.Recorder
import OriginGate.Service.Description
import OriginGate.Service.Pattern
import OriginGate.Url.Host

/-!
# Answering requests

A service is built from its metadata and a policy. It knows a few endpoints, each with `GET` and
`HEAD`; other methods are refused and other paths are not found. Every answer, also a refusal,
goes through the gate of the policy. Requests to the two endpoints of the service itself are
counted behind the gate, so that pre-flights leave no trace.
-/

namespace OriginGate

open Http Text Json Metrics

namespace Service

/-! ## Routes -/

inductive Endpoint where
  | root
  | health
  | description
  /-- The documentation without a slash at the end. -/
  | docsEntry
  | docsFile
  deriving DecidableEq, Repr

/-- A route: its pattern as it is written and in pieces, and where it leads. -/
structure Route where
  text : List Char
  pieces : List Piece
  endpoint : Endpoint

/-- Why a service cannot be built. -/
inductive BuildFault where
  /-- Two routes have the same pattern. -/
  | overlap (path : String)
  | malformed (path : String) (fault : PatternFault)
  | policy (conflict : Policy.Conflict)
  deriving DecidableEq, Repr

def BuildFault.message : BuildFault → String
  | overlap path =>
    "Overlapping method route. Handler for \x60GET " ++ path ++ "\x60 already exists"
  | malformed path fault => fault.message (quote path)
  | policy conflict => conflict.message

def route (endpoint : Endpoint) (text : List Char) : Except BuildFault Route :=
  match readPattern text with
  | .ok pieces => .ok { text, pieces, endpoint }
  | .error fault => .error (.malformed (String.ofList text) fault)

/-- The routes with one more, if its pattern is new. -/
def addRoute (routes : List Route) (r : Route) : Except BuildFault (List Route) :=
  if routes.any (·.text = r.text) then .error (.overlap (String.ofList r.text))
  else .ok (routes ++ [r])

/-- The path of the documentation without the slash at its end. -/
def docsBase (docsPath : List Char) : List Char :=
  if docsPath.getLast? = some '/' then docsPath.dropLast else docsPath

/-- The patterns of the documentation. -/
def docsPatterns (docsPath : List Char) : List (Endpoint × List Char) :=
  if docsPath = ['/'] then [(.docsFile, docsPath), (.docsFile, "/*rest".toList)]
  else
    let base := docsBase docsPath
    [(.docsEntry, base), (.docsFile, base ++ ['/']), (.docsFile, base ++ "/*rest".toList)]

/-- The routes of the interface description and the documentation. -/
def docsRoutes (docsPath : List Char) : Except BuildFault (List Route) := do
  let description ← route .description Metadata.descriptionPath.toList
  (docsPatterns docsPath).foldlM (fun routes (endpoint, text) => do
    addRoute routes (← route endpoint text)) [description]

/-- The routes of the service itself. -/
def ownRoutes : Except BuildFault (List Route) := do
  return [← route .root "/".toList, ← route .health "/health".toList]

def allRoutes (docsPath : List Char) : Except BuildFault (List Route) := do
  (← docsRoutes docsPath).foldlM addRoute (← ownRoutes)

end Service

/-- A service: what it says of itself, its policy and its routes. -/
structure Service where
  metadata : Metadata
  policy : Policy
  routes : List Service.Route
  /-- The files of the documentation that come from outside. -/
  assets : List Docs.File

namespace Service

/-- The service with this metadata and policy, and these files from outside for its
documentation. -/
def build (metadata : Metadata) (policy : Policy) (assets : List Docs.File := []) :
    Except BuildFault Service := do
  let routes ← allRoutes metadata.docsPath.toList
  match policy.conflict? with
  | some conflict => throw (.policy conflict)
  | none => return { metadata, policy, routes, assets }

/-- The endpoint of a path, with what the names in its pattern stand for. -/
def endpoint? (s : Service) (path : List Char) : Option (Endpoint × List (List Char)) :=
  s.routes.findSome? fun r => (captures? r.pieces path).map (r.endpoint, ·)

/-! ## Answers -/

def emptyResponse (status : Nat) : Response :=
  { status, fields := [], body := [] }

/-- An answer with content of a media type. -/
def content (status : Nat) (mediaType : FieldValue) (body : List UInt8) : Response :=
  { status, fields := [(.contentType, mediaType)], body }

/-- An answer with a JSON document. -/
def jsonResponse (status : Nat) (v : Value) : Response :=
  content status (.ofString "application/json") (Utf8.encode v.compact)

/-- What the service says of itself. -/
def rootDocument (m : Metadata) : Value :=
  .object [
    ("message", .string m.runningMessage),
    ("version", .string m.version),
    ("docs", .string m.docsPath)]

/-- What the service says of its health. -/
def healthDocument (m : Metadata) : Value :=
  .object [("status", .string "healthy"), ("version", .string m.version)]

def notFound : Response :=
  jsonResponse 404 (single "detail" (.string "Not Found"))

/-- The answer that sends the reader to another place. -/
def redirect (location : FieldValue) : Response :=
  { status := 303, fields := [(.location, location)], body := [] }

/-- The path of the page of the documentation as a field value, if it can be one. -/
def pageLocation? (m : Metadata) : Option FieldValue :=
  FieldValue.ofText? (docsBase m.docsPath.toList ++ ['/'])

/-- The part of the path that names a file of the documentation: percent-encoded, and the bare
directory where there is no single such part. -/
def docsRest (captured : List (List Char)) : List Char :=
  match captured with
  | [text] => (Url.percentDecode? text).getD ['/']
  | _ => ['/']

/-- The answer with a file of the documentation. -/
def docsResponse (assets : List Docs.File) (captured : List (List Char)) : Response :=
  match Docs.file? assets (docsRest captured) with
  | some f => content 200 f.mediaType f.content
  | none => emptyResponse 404

/-- The answer of an endpoint to `GET`. Where the page has no path that can be sent, the endpoint
breaks off, see `Service.attempt`; the answer that stands here for none is not sent. -/
def read (s : Service) (endpoint : Endpoint) (captured : List (List Char)) : Response :=
  match endpoint with
  | .root => jsonResponse 200 (rootDocument s.metadata)
  | .health => jsonResponse 200 (healthDocument s.metadata)
  | .description => jsonResponse 200 (description s.metadata)
  | .docsEntry => (pageLocation? s.metadata).elim (emptyResponse 500) redirect
  | .docsFile => docsResponse s.assets captured

def isRead (m : Method) : Bool :=
  m = .get || m = .head

/-- The name under which requests to the endpoint are counted, if they are. -/
def measured? : Endpoint → Option String
  | .root => some "/"
  | .health => some "/health"
  | _ => none

/-- Counts an answered request to the endpoint. -/
def record (endpoint : Endpoint) (m : Method) (status : Nat) (r : Recorder) : Recorder :=
  match measured? endpoint with
  | some name => (r.recordLatency name).recordRequest ⟨name, m.toString, status⟩
  | none => r

/-- The answer of an endpoint to any method, which is counted. -/
def handle (s : Service) (endpoint : Endpoint) (captured : List (List Char)) (r : Request) :
    StateM Recorder Response := do
  let response := if isRead r.method then s.read endpoint captured else emptyResponse 405
  modify (record endpoint r.method response.status)
  return response

/-- The answer with the length of its content, unless it has one. -/
def withLength (response : Response) : Response :=
  if response.fields.has .contentLength then response
  else
    { response with
      fields := response.fields.append .contentLength (.ofNat response.body.length) }

/-- The answer of an endpoint as it is sent: refused methods are told the allowed ones, and
`HEAD` has no content. -/
def finish (m : Method) (response : Response) : Response :=
  let told :=
    if isRead m || response.fields.has .allow then response
    else { response with fields := response.fields.append .allow (.ofString "GET,HEAD") }
  let sized := withLength told
  if m = .head then { sized with body := [] } else sized

/-- The answer to a request whose endpoint does not break off. -/
def respond (s : Service) (r : Request) : StateM Recorder Response :=
  match s.endpoint? r.uri.path with
  | some (endpoint, captured) => do
    return finish r.method (← s.policy.gate (s.handle endpoint captured) r)
  | none => do
    return withLength (← s.policy.gate (fun _ => pure notFound) r)

/-! ## Requests without an answer -/

/-- Why a request gets no answer. -/
inductive AnswerFault where
  /-- The path that the reader would be sent to is no field value. -/
  | invalidLocation
  deriving DecidableEq, Repr

def AnswerFault.message : AnswerFault → String
  | invalidLocation => "URI isn't a valid header value: InvalidHeaderValue"

/-- Why the endpoint of a request breaks off, if it does. Requests that read always reach their
endpoint, and no others send the reader to another place. -/
def breaksOff? (s : Service) (r : Request) : Option AnswerFault :=
  match s.endpoint? r.uri.path, isRead r.method, pageLocation? s.metadata with
  | some (.docsEntry, _), true, none => some .invalidLocation
  | _, _, _ => none

/-- Answers a request, or breaks off: then nothing is sent and nothing counted. -/
def attempt (s : Service) (r : Request) : ExceptT AnswerFault (StateM Recorder) Response :=
  match s.breaksOff? r with
  | some fault => throw fault
  | none => s.respond r

end Service

end OriginGate
