import BucketDriver.Http.Target
import BucketDriver.Parameters
import BucketDriver.Policy
import BucketDriver.Provider.Call
import BucketDriver.Text.Percent
import BucketDriver.Xml.Escape

/-!
# Requests of the wire protocol

How calls are sent. A call to the object store is a method on the path of the bucket below the path
of the endpoint; a call to the identity service is a form that is posted to the path of its
endpoint. A request that cannot be formed is not sent: `none`.
-/

namespace BucketDriver.Aws

/-- Who signs a request, and for what. -/
structure Scope where
  /-- The identifier of the signing key. -/
  keyId : String
  /-- The region. -/
  region : String
  /-- The name of the service. -/
  service : String
  deriving DecidableEq, Repr

/-- A request. -/
structure Request where
  /-- The method. -/
  method : String
  /-- The path. -/
  target : String
  /-- The type of the body. -/
  contentType : Option String
  /-- The body. -/
  body : String
  /-- What the signature is for. -/
  signedFor : Scope
  deriving DecidableEq, Repr

/-! ## Endpoints -/

/-- The characters of an endpoint behind scheme and authority, unless it lacks one of these. -/
def behindAuthority? (endpoint : String) : Option (List Char) :=
  match Http.pathOf endpoint, Http.afterScheme? endpoint.toList with
  | .ok _, .ok (some rest) => some (rest.dropWhile fun c => !Http.endsAuthority c)
  | _, _ => none

/-- The path of an endpoint, at least a slash. -/
def endpointPath? (endpoint : String) : Option (List Char) :=
  (behindAuthority? endpoint).map fun rest =>
    match rest.takeWhile fun c => c ≠ '?' && c ≠ '#' with
    | [] => ['/']
    | path => path

/-- Whether an endpoint has a query. -/
def hasQuery (endpoint : String) : Bool :=
  ((behindAuthority? endpoint).map fun rest => (rest.takeWhile (· ≠ '#')).contains '?').getD false

/-- A path with exactly the slash at its end that it has, or with one more. -/
def withFinalSlash (path : List Char) : List Char :=
  if path.getLast? = some '/' then path else path ++ ['/']

/-! ## The object store -/

/-- The parts of a text between colons, the last of six with all further colons. -/
def sixParts : Nat → List Char → List (List Char)
  | 0, s => [s]
  | n + 1, s =>
    match s.dropWhile (· ≠ ':') with
    | [] => [s]
    | _ :: rest => s.takeWhile (· ≠ ':') :: sixParts n rest

/-- Whether a text names a resource of the provider in full. -/
def isResourceName (s : List Char) : Bool :=
  match sixParts 5 s with
  | [arn, partition, service, _, _, resource] =>
    arn = "arn".toList && !partition.isEmpty && !service.isEmpty && !resource.isEmpty
  | _ => false

/-- Whether a bucket can be addressed by a path. A name that starts like the full name of a resource
cannot, unless it has characters beyond ASCII that make it no such name. -/
def isAddressable (bucket : String) : Bool :=
  let cs := bucket.toList
  !cs.isEmpty && !isResourceName cs &&
    !("arn:".toList.isPrefixOf cs && cs.all fun c => c.toNat < 0x80)

/-- The path of a bucket below the path of an endpoint. The bucket is joined to the path as it is,
and a slash ends it. -/
def bucketPath (path : List Char) (bucket : String) : String :=
  String.ofList (path ++ (Text.Percent.encode bucket).toList ++ ['/'])

/-- The region for which a request to the object store is signed. The region of no place in
particular stands for the default one. -/
def signingRegion (region : String) : String :=
  if region = "aws-global" then defaultRegion else region

/-- A request to the object store. -/
def bucketRequest? (p : Parameters) (method bucket : String) (contentType : Option String)
    (body : String) : Option Request :=
  if isAddressable bucket && !hasQuery p.endpoint then
    (endpointPath? p.endpoint).map fun path =>
      ⟨method, bucketPath path bucket, contentType, body,
        ⟨p.accessKeyId, signingRegion p.region, "s3"⟩⟩
  else none

/-- The body of a request to create a bucket: empty, or with the wanted location. -/
def locationBody : Option String → String
  | none => ""
  | some location =>
    "<CreateBucketConfiguration xmlns=\"http://s3.amazonaws.com/doc/2006-03-01/\">" ++
      "<LocationConstraint>" ++ Xml.escape location ++ "</LocationConstraint>" ++
      "</CreateBucketConfiguration>"

/-! ## The identity service -/

/-- The version of the identity service. -/
def identityVersion : String := "2010-05-08"

/-- The fields of a form, joined. -/
def formBody (fields : List (String × String)) : String :=
  "&".intercalate (fields.map fun (key, value) => key ++ "=" ++ Text.Percent.encode value)

/-- A request to the identity service. -/
def identityRequest? (p : Parameters) (action : String) (fields : List (String × String)) :
    Option Request :=
  (endpointPath? p.identityEndpoint).map fun path =>
    ⟨"POST", String.ofList (withFinalSlash path), some "application/x-www-form-urlencoded",
      formBody (("Action", action) :: ("Version", identityVersion) :: fields),
      ⟨p.accessKeyId, p.region, "iam"⟩⟩

/-- The field that names a user. -/
def userField (user : String) : String × String :=
  ("UserName", user)

/-- The field that asks for a later page of a listing. -/
def markerField : Option String → List (String × String)
  | none => []
  | some marker => [("Marker", marker)]

/-- The request of a call; for a listing that of the page behind a marker, or of the first one. -/
def request? (p : Parameters) (marker : Option String) (c : Call) : Option Request :=
  match c with
  | .createBucket bucket location =>
    bucketRequest? p "PUT" bucket (some "application/xml") (locationBody location)
  | .deleteBucket bucket => bucketRequest? p "DELETE" bucket none ""
  | .createUser user | .getUser user | .deleteUser user | .createAccessKey user =>
    identityRequest? p c.kind.name [userField user]
  | .putUserPolicy user policy document =>
    identityRequest? p c.kind.name
      [userField user, ("PolicyName", policy), ("PolicyDocument", document)]
  | .deleteUserPolicy user policy =>
    identityRequest? p c.kind.name [userField user, ("PolicyName", policy)]
  | .listUserPolicies user | .listAccessKeys user =>
    identityRequest? p c.kind.name (userField user :: markerField marker)
  | .deleteAccessKey user keyId =>
    identityRequest? p c.kind.name [userField user, ("AccessKeyId", keyId)]

end BucketDriver.Aws
