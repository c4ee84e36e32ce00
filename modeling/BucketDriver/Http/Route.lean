import BucketDriver.Text.Percent

/-!
# Routes

The paths that the service knows. A path is matched as it was sent, segment by segment, and only the
segments that name a bucket or an account are decoded afterwards. The segment at the end of a path
must not be empty; the bucket's segment inside a path may be.
-/

namespace BucketDriver.Http

/-- A known path, with the segments that name something still encoded. -/
inductive Route where
  | health
  | info
  | buckets
  | bucket (bucket : List Char)
  | access (bucket : List Char)
  | account (bucket account : List Char)
  deriving DecidableEq, Repr

/-- The segments of a path: what stands between the slashes. -/
def segments : List Char → List (List Char)
  | [] => [[]]
  | c :: cs =>
    if c = '/' then [] :: segments cs
    else match segments cs with
      | [] => [[c]]
      | s :: rest => (c :: s) :: rest

namespace Route

/-- The route of the segments behind the version. -/
def ofVersioned? : List (List Char) → Option Route
  | [what] =>
    if what = "info".toList then some info
    else if what = "buckets".toList then some buckets
    else none
  | [what, b] => if what = "buckets".toList ∧ b ≠ [] then some (bucket b) else none
  | [what, b, rest] =>
    if what = "buckets".toList ∧ rest = "access".toList then some (access b) else none
  | [what, b, rest, a] =>
    if what = "buckets".toList ∧ rest = "access".toList ∧ a ≠ [] then some (account b a) else none
  | _ => none

/-- The route of a path. -/
def ofPath? (path : List Char) : Option Route :=
  match segments path with
  | [[], what] => if what = "health".toList then some health else none
  | [] :: version :: rest => if version = "v1".toList then ofVersioned? rest else none
  | _ => none

/-- The method that a route serves. -/
def method : Route → String
  | health | info => "GET"
  | buckets | access _ => "POST"
  | bucket _ | account .. => "DELETE"

/-- The methods that a route allows, as it tells those who use another one. -/
def allowed : Route → String
  | health | info => "GET,HEAD"
  | buckets | access _ => "POST"
  | bucket _ | account .. => "DELETE"

end Route

/-- The text of a segment, unless its bytes are no text. -/
def segmentText? (segment : List Char) : Option String :=
  Text.Utf8.decode? (Text.Percent.decode (Text.Utf8.encodeChars segment))

end BucketDriver.Http
