import BucketDriver.Json.Record
import BucketDriver.Json.Value
import BucketDriver.Provision.Access
import BucketDriver.Provision.Bucket

/-!
# Requests and responses

The four operations of the service. Each names a bucket, two of them an account, and each carries a
dictionary from which its storage parameters are found. A request has a written form, a record with
the fields that `Kind.shape` lists.
-/

namespace BucketDriver.Service

open Json (Value Shape)

/-- A request to the service. -/
inductive Request where
  | createBucket (name : String) (context : Dict String)
  | deleteBucket (bucket : String) (context : Dict String)
  | grant (bucket account : String) (context : Dict String)
  | revoke (bucket account : String) (context : Dict String)
  deriving DecidableEq

/-- What a successful request is answered with. -/
inductive Response where
  | created (bucket : String)
  | deleted
  | granted (account : String) (credentials : Credentials)
  | revoked
  deriving DecidableEq, Repr

/-- A response in its written form. -/
def Response.toJson : Response → Value
  | created bucket => .ofStrings [("bucketId", bucket)]
  | deleted | revoked => .object []
  | granted account credentials =>
    .object [("accountId", .string account), ("credentials", credentials.toJson)]

/-- Checks that a text of a request is not blank. -/
def checkGiven (what value : String) : Except Failure Unit :=
  if Text.isBlank value then .error (.invalidArgument (what ++ " is required")) else .ok ()

namespace Request

/-- The dictionary in which a request may name its secret. -/
def context : Request → Dict String
  | createBucket _ c | deleteBucket _ c | grant _ _ c | revoke _ _ c => c

/-- Checks the names in a request, the bucket's first. -/
def check : Request → Except Failure Unit
  | createBucket name _ => checkGiven "bucket name" name
  | deleteBucket bucket _ => checkGiven "bucket id" bucket
  | grant bucket account _ => do
    checkGiven "bucket id" bucket
    checkGiven "account name" account
  | revoke bucket account _ => do
    checkGiven "bucket id" bucket
    checkGiven "account id" account

/-- The service of the provider that a request needs. -/
def service : Request → ProviderService
  | createBucket .. | deleteBucket .. => .objectStore
  | grant .. | revoke .. => .identity

/-- What a request does with a provider reached by the given parameters. -/
def attempt (p : Parameters) : Request → Attempt Response
  | createBucket name _ => return .created (← Provision.createBucket name p)
  | deleteBucket bucket _ => do
    Provision.deleteBucket bucket
    return .deleted
  | grant bucket account _ => return .granted account (← Provision.grant bucket account p)
  | revoke bucket account _ => do
    Provision.revoke bucket account
    return .revoked

end Request

/-! ## Written forms -/

/-- The written form of a request to create a bucket. -/
def createBucketShape : Shape :=
  ⟨"CreateBucketRequest", [⟨"name", .text, true⟩, ⟨"parameters", .texts, false⟩]⟩

/-- The written form of a request to delete a bucket. -/
def deleteBucketShape : Shape :=
  ⟨"DeleteBucketRequest", [⟨"bucketId", .text, false⟩, ⟨"deleteContext", .texts, false⟩]⟩

/-- The written form of a request for access. -/
def grantShape : Shape :=
  ⟨"GrantBucketAccessRequest",
    [⟨"bucketId", .text, false⟩, ⟨"accountName", .text, true⟩, ⟨"parameters", .texts, false⟩]⟩

/-- The written form of a request to take access away. -/
def revokeShape : Shape :=
  ⟨"RevokeBucketAccessRequest",
    [⟨"bucketId", .text, false⟩, ⟨"accountId", .text, false⟩,
      ⟨"revokeAccessContext", .texts, false⟩]⟩

/-- Reads the fields of a written request. -/
def readFields (shape : Shape) (body : List UInt8) : Except Failure Json.Fields :=
  (Json.whole (Json.fieldsOf shape) body).mapError fun e =>
    .invalidArgument ("invalid request body: " ++ e.message)

/-- The spaces of a body that counts as empty: space, tab, line feed, form feed and carriage return.
-/
def isBodySpace (b : UInt8) : Bool :=
  b = 0x20 || b = 0x09 || b = 0x0A || b = 0x0C || b = 0x0D

/-- Reads the fields of a written request that may be left out altogether. -/
def readOptionalFields (shape : Shape) (body : List UInt8) : Except Failure Json.Fields :=
  if body.all isBodySpace then .ok [] else readFields shape body

namespace Request

/-- Reads a request to create a bucket. -/
def readCreateBucket (body : List UInt8) : Except Failure Request := do
  let fields ← readFields createBucketShape body
  return createBucket (Json.textOf fields "name") (Json.textsOf fields "parameters")

/-- Reads a request to delete the given bucket; the bucket that the body names is ignored. -/
def readDeleteBucket (bucket : String) (body : List UInt8) : Except Failure Request := do
  let fields ← readOptionalFields deleteBucketShape body
  return deleteBucket bucket (Json.textsOf fields "deleteContext")

/-- Reads a request for access to the given bucket. -/
def readGrant (bucket : String) (body : List UInt8) : Except Failure Request := do
  let fields ← readFields grantShape body
  return grant bucket (Json.textOf fields "accountName") (Json.textsOf fields "parameters")

/-- Reads a request to take access to the given bucket away from the given account. -/
def readRevoke (bucket account : String) (body : List UInt8) : Except Failure Request := do
  let fields ← readOptionalFields revokeShape body
  return revoke bucket account (Json.textsOf fields "revokeAccessContext")

end Request

end BucketDriver.Service
