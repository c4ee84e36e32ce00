import BucketDriver.Http.Route
import BucketDriver.Http.Status
import BucketDriver.Http.Target
import BucketDriver.Service.Dispatcher

/-!
# The service over HTTP

An exchange goes through three stages: the path is matched to a route (`Route.ofPath?`), the route
and the body become a reply or a request to the dispatcher (`understand`), and the dispatcher's
response becomes a reply (`Reply.ofOutcome`). Only a request to the dispatcher can change the state
behind the service.
-/

namespace BucketDriver.Http

open Service (Dispatcher Response)

/-- A request. -/
structure Request where
  /-- The method. -/
  method : String
  /-- The target. -/
  target : String
  /-- The body. -/
  body : List UInt8
  deriving DecidableEq, Repr

/-- A reply. -/
structure Reply where
  /-- The status code. -/
  status : Nat
  /-- The type of the body. -/
  contentType : Option String
  /-- The allowed methods. -/
  allow : Option String
  /-- The body. -/
  body : String
  deriving DecidableEq, Repr

namespace Reply

/-- A reply in words. -/
def text (status : Nat) (body : String) : Reply :=
  ⟨status, some "text/plain; charset=utf-8", none, body⟩

/-- A reply with a value. -/
def json (status : Nat) (v : Json.Value) : Reply :=
  ⟨status, some "application/json", none, v.render⟩

/-- The reply to a path that is not known. -/
def notFound : Reply :=
  ⟨404, none, none, ""⟩

/-- The reply to a method that a path does not serve. -/
def methodNotAllowed (allowed : String) : Reply :=
  ⟨405, none, some allowed, ""⟩

/-- The reply to a path with a segment that is no text. -/
def badSegment (name : String) : Reply :=
  text 400 ("Invalid URL: Invalid UTF-8 in `" ++ name ++ "`")

/-- The reply to a body that is too long. -/
def bodyTooLong : Reply :=
  text 413 "Failed to buffer the request body: length limit exceeded"

/-- The reply to a failed request. -/
def ofFailure (f : Failure) : Reply :=
  json f.code.status f.toJson

/-- The reply with the outcome of a request. -/
def ofOutcome : Except Failure Response → Reply
  | .ok r => json 200 r.toJson
  | .error f => ofFailure f

/-- The reply without its body. -/
def withoutBody (r : Reply) : Reply :=
  { r with body := "" }

end Reply

/-- The most bytes of a body. -/
def maxBody : Nat := 2097152

/-- The body, unless it is too long. -/
def bodyOf (q : Request) : Except Reply (List UInt8) :=
  if maxBody < q.body.length then .error .bodyTooLong else .ok q.body

/-- The text of the segment that names something. -/
def named (name : String) (segment : List Char) : Except Reply String :=
  match segmentText? segment with
  | some s => .ok s
  | none => .error (.badSegment name)

/-- What a request to a route that serves its method asks of the dispatcher, if not the reply that
it gets at once. The segments are looked at before the body. -/
def requested (info : Json.Value) (q : Request) : Route → Except Reply Service.Request
  | .health => .error (.text 200 "OK")
  | .info => .error (.json 200 info)
  | .buckets => do
    let body ← bodyOf q
    (Service.Request.readCreateBucket body).mapError .ofFailure
  | .bucket b => do
    let bucket ← named "bucket_id" b
    let body ← bodyOf q
    (Service.Request.readDeleteBucket bucket body).mapError .ofFailure
  | .access b => do
    let bucket ← named "bucket_id" b
    let body ← bodyOf q
    (Service.Request.readGrant bucket body).mapError .ofFailure
  | .account b a => do
    let bucket ← named "bucket_id" b
    let account ← named "account_id" a
    let body ← bodyOf q
    (Service.Request.readRevoke bucket account body).mapError .ofFailure

/-- What a request with a known path asks of the dispatcher, if not the reply that it gets at once.
A request for the head of a reply gets the reply without its body. -/
def routed (info : Json.Value) (q : Request) (route : Route) : Except Reply Service.Request :=
  if q.method = route.method then requested info q route
  -- Whoever serves a reply serves its head as well.
  else if q.method = "HEAD" ∧ route.method = "GET" then
    (requested info q route).mapError Reply.withoutBody
  else .error (.methodNotAllowed route.allowed)

/-- What a request asks of the dispatcher, if not the reply that it gets at once. -/
def understand (info : Json.Value) (q : Request) (path : List Char) :
    Except Reply Service.Request :=
  match Route.ofPath? path with
  | none => .error .notFound
  | some route => routed info q route

/-- Answers a request whose path is known. -/
def respond {σ : Type} (d : Dispatcher σ) (q : Request) (path : List Char) (s : σ) : Reply × σ :=
  match understand d.info q path with
  | .error reply => (reply, s)
  | .ok request =>
    let (outcome, s) := d.answer request s
    (.ofOutcome outcome, s)

/-- Answers a request, unless its first line cannot be used. -/
def serve {σ : Type} (d : Dispatcher σ) (q : Request) (s : σ) : Except LineError (Reply × σ) := do
  checkMethod q.method
  let path ← pathOf q.target
  return respond d q path s

end BucketDriver.Http
