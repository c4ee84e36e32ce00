import BucketDriver.Aws.Reply
import BucketDriver.Aws.Request

/-!
# The client of the wire protocol

A provider behind a connection. `Exchange` is the connection as a test sees it: the replies that are
still to come, and the requests that were sent. Every call sends one request and takes one reply,
except a listing, which does so for each of its pages. Nothing is ever sent again. With no reply
left the connection is closed, which is no answer.

An error on any page of a listing is the error of the listing.
-/

namespace BucketDriver.Aws

/-- A connection. -/
structure Exchange where
  /-- The replies to come. -/
  replies : List Reply
  /-- The requests that were sent, the last one first. -/
  sent : List Request
  deriving DecidableEq, Repr

/-- A connection over which nothing has been sent. -/
def Exchange.start (replies : List Reply) : Exchange :=
  ⟨replies, []⟩

/-- What a listing makes of a connection. -/
structure Listing where
  /-- The names on all pages, or an error. -/
  result : Except ProviderError (List String)
  /-- The requests for the pages, in order. -/
  requests : List Request
  /-- The replies that are left. -/
  rest : List Reply

/-- The listing with one page in front. -/
def Listing.behind (names : List String) (q : Request) (l : Listing) : Listing :=
  ⟨l.result.map (names ++ ·), q :: l.requests, l.rest⟩

/-- The page in a reply. -/
def pageIn (kind : CallKind) (read : String → Option Page) (r : Reply) :
    Except ProviderError Page :=
  match r.success kind with
  | .error e => .error e
  | .ok body =>
    match read body with
    | some page => .ok page
    | none => .error unreadable

/-- Fetches the pages of a listing from the one behind a marker on. -/
def listFrom (kind : CallKind) (read : String → Option Page)
    (request : Option String → Option Request) (marker : Option String) : List Reply → Listing
  | [] =>
    match request marker with
    | none => ⟨.error unsent, [], []⟩
    | some q => ⟨.error unanswered, [q], []⟩
  | r :: rest =>
    match request marker with
    | none => ⟨.error unsent, [], r :: rest⟩
    | some q =>
      match pageIn kind read r with
      | .error e => ⟨.error e, [q], rest⟩
      | .ok page =>
        -- What has been gathered so far is lost when a later page fails.
        match page.next? marker with
        | none => ⟨.ok page.names, [q], rest⟩
        | some next => (listFrom kind read request (some next) rest).behind page.names q

/-- Fetches all pages of a listing over a connection. -/
def list (kind : CallKind) (read : String → Option Page) (request : Option String → Option Request)
    (x : Exchange) : Except ProviderError (List String) × Exchange :=
  let l := listFrom kind read request none x.replies
  (l.result, ⟨l.rest, l.requests.reverse ++ x.sent⟩)

/-- Sends a request over a connection and takes the reply to it. -/
def transmit (q : Option Request) (x : Exchange) : Except ProviderError Reply × Exchange :=
  match q with
  | none => (.error unsent, x)
  | some q =>
    match x.replies with
    | [] => (.error unanswered, ⟨[], q :: x.sent⟩)
    | r :: rest => (.ok r, ⟨rest, q :: x.sent⟩)

/-- Makes a call that is not a listing. -/
def single (p : Parameters) (c : Call) (x : Exchange) : c.Result × Exchange :=
  let (reply, x) := transmit (request? p none c) x
  (do
    match resultIn (← (← reply).success c.kind) c with
    | some result => return result
    | none => throw unreadable, x)

/-- Answers calls over a connection to the provider that the parameters tell of. -/
def answer (p : Parameters) : Handler Exchange
  | .listUserPolicies user, x =>
    list .listUserPolicies policiesPage? (fun m => request? p m (.listUserPolicies user)) x
  | .listAccessKeys user, x =>
    list .listAccessKeys keysPage? (fun m => request? p m (.listAccessKeys user)) x
  | .createBucket bucket location, x => single p (.createBucket bucket location) x
  | .deleteBucket bucket, x => single p (.deleteBucket bucket) x
  | .createUser user, x => single p (.createUser user) x
  | .getUser user, x => single p (.getUser user) x
  | .deleteUser user, x => single p (.deleteUser user) x
  | .putUserPolicy user policy document, x => single p (.putUserPolicy user policy document) x
  | .deleteUserPolicy user policy, x => single p (.deleteUserPolicy user policy) x
  | .createAccessKey user, x => single p (.createAccessKey user) x
  | .deleteAccessKey user keyId, x => single p (.deleteAccessKey user keyId) x

end BucketDriver.Aws
