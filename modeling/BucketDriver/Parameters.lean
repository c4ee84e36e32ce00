import BucketDriver.Dict
import BucketDriver.Decimal.Shortest
import BucketDriver.Error
import BucketDriver.Text.Blank
import BucketDriver.Text.Utf8
import BucketDriver.Url.Parse

/-!
# Storage parameters

How to reach a storage provider: keys, endpoints, region and options. Parameters come from the data
of a secret, or from `Parameters.create` and the functions that change one setting each. Every way
to them checks the same things: the keys and the endpoint are not blank, and each endpoint is a URL
with the scheme `http` or `https`.

What is a URL is not decided here. The functions that check an endpoint ask a reader of URLs for its
scheme, and work with any reader (`createBy`, `withIdentityEndpointBy`, `ofSecretBy`). The program
runs them with the reader `Url.read` (`create`, `withIdentityEndpoint`, `ofSecret`).
-/

namespace BucketDriver

/-- The region of a provider that names none. -/
def defaultRegion : String := "us-east-1"

/-- How to reach a storage provider. -/
structure Parameters where
  /-- The identifier of the administrator's key. -/
  accessKeyId : String
  /-- The secret of the administrator's key. -/
  secretAccessKey : String
  /-- The endpoint of the object store. -/
  endpoint : String
  /-- The region, trimmed. -/
  region : String
  /-- The endpoint of the identity service, where it is another one. -/
  identityEndpoint? : Option String
  /-- The certificate to trust. -/
  tlsTrust : Option (List UInt8)
  /-- Whether each request is logged. -/
  debug : Bool
  deriving DecidableEq, Repr

/-- The services of a provider. -/
inductive ProviderService where
  | objectStore
  | identity
  deriving DecidableEq, Repr

/-- The name of a service. -/
def ProviderService.name : ProviderService → String
  | objectStore => "object-store"
  | identity => "identity"

/-- A reader of URLs: it gives the scheme of a text that is an absolute URL, and says what is wrong
with any other text. -/
abbrev UrlReader := String → Except String String

namespace Parameters

/-- The keys of a secret. -/
def accessKeyIdKey : String := "accessKeyId"
def secretAccessKeyKey : String := "secretAccessKey"
def endpointKey : String := "endpoint"
def regionKey : String := "region"
def identityEndpointKey : String := "iamEndpoint"
def tlsTrustKey : String := "tlsCert"
def debugKey : String := "debug"

/-- Checks that a required value is not blank. -/
def checkGiven (key value : String) : Except DriverError Unit :=
  if Text.isBlank value then .error (.missingParameter key) else .ok ()

/-- Checks that an endpoint is a URL with the scheme `http` or `https`. -/
def checkEndpoint (read : UrlReader) (key endpoint : String) : Except DriverError Unit := do
  checkGiven key endpoint
  match read endpoint with
  | .error why => throw (.invalidParameters (key ++ " is not a valid URL: " ++ why))
  | .ok scheme =>
    if scheme = "http" ∨ scheme = "https" then return ()
    else throw (.invalidParameters (key ++ " must use http or https, got " ++ scheme))

/-- Parameters with the default settings. -/
def createBy (read : UrlReader) (accessKeyId secretAccessKey endpoint : String) :
    Except DriverError Parameters := do
  checkGiven accessKeyIdKey accessKeyId
  checkGiven secretAccessKeyKey secretAccessKey
  checkEndpoint read endpointKey endpoint
  return ⟨accessKeyId, secretAccessKey, endpoint, defaultRegion, none, none, false⟩

/-- Parameters with the default settings, the endpoint read by `Url.read`. -/
def create (accessKeyId secretAccessKey endpoint : String) : Except DriverError Parameters :=
  createBy Url.read accessKeyId secretAccessKey endpoint

/-- The parameters with a region, the default one if it is missing or blank. -/
def withRegion (p : Parameters) (region : Option String) : Parameters :=
  { p with region := (region.bind Text.trimmed?).getD defaultRegion }

/-- The parameters with an endpoint of the identity service, the common one if it is missing or
blank. -/
def withIdentityEndpointBy (p : Parameters) (read : UrlReader) (endpoint : Option String) :
    Except DriverError Parameters :=
  match endpoint.filter (!Text.isBlank ·) with
  | none => .ok { p with identityEndpoint? := none }
  | some e => do
    checkEndpoint read identityEndpointKey e
    return { p with identityEndpoint? := some e }

/-- The parameters with an endpoint of the identity service, read by `Url.read`. -/
def withIdentityEndpoint (p : Parameters) (endpoint : Option String) :
    Except DriverError Parameters :=
  p.withIdentityEndpointBy Url.read endpoint

/-- The parameters with a certificate to trust, none if it is missing or empty. -/
def withTlsTrust (p : Parameters) (certificate : Option (List UInt8)) : Parameters :=
  { p with tlsTrust := certificate.filter (· ≠ []) }

/-- The parameters with or without a log of requests. -/
def withDebug (p : Parameters) (debug : Bool) : Parameters :=
  { p with debug }

/-- Reads the setting of the log of requests; blank and missing stand for off. -/
def readDebug : Option String → Except DriverError Bool
  | none => .ok false
  | some value =>
    match Text.trim value with
    | "" | "false" => .ok false
    | "true" => .ok true
    | _ => .error (.invalidParameters (debugKey ++ " must be true or false"))

/-- Parameters from the data of a secret. -/
def ofSecretBy (read : UrlReader) (data : Dict String) : Except DriverError Parameters := do
  let get (key : String) : String := (data.get? key).getD ""
  let p ← createBy read (get accessKeyIdKey) (get secretAccessKeyKey) (get endpointKey)
  let p := p.withRegion (data.get? regionKey)
  let p ← p.withIdentityEndpointBy read (data.get? identityEndpointKey)
  let p := p.withTlsTrust ((data.get? tlsTrustKey).map Text.Utf8.encode)
  return p.withDebug (← readDebug (data.get? debugKey))

/-- Parameters from the data of a secret, the endpoints read by `Url.read`. -/
def ofSecret (data : Dict String) : Except DriverError Parameters :=
  ofSecretBy Url.read data

/-- The endpoint of the identity service. -/
def identityEndpoint (p : Parameters) : String :=
  p.identityEndpoint?.getD p.endpoint

/-- The endpoint of a service. -/
def endpointOf (p : Parameters) : ProviderService → String
  | .objectStore => p.endpoint
  | .identity => p.identityEndpoint

/-- Whether the region is the default one. -/
def isDefaultRegion (p : Parameters) : Bool :=
  p.region = defaultRegion

/-- What stands in the place of a secret in messages. -/
def redacted : String := Text.quoted "<redacted>"

/-- The parameters in one line, without the secret key and the certificate. -/
def text (p : Parameters) : String :=
  Text.record "StorageEndpointParameters" [
    ("access_key_id", Text.quoted p.accessKeyId),
    ("secret_access_key", redacted),
    ("endpoint", Text.quoted p.endpoint),
    ("region", Text.quoted p.region),
    ("identity_endpoint", Text.optional Text.quoted p.identityEndpoint?),
    ("tls_trust", Text.optional (fun c => Decimal.natText c.length) p.tlsTrust),
    ("debug", Text.boolText p.debug)]

end Parameters

end BucketDriver
