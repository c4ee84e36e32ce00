import BucketDriver.Json.Value
import BucketDriver.Parameters

/-!
# Access keys and credentials

An access key belongs to a user; the credentials of a grant are a key with the endpoint and the
region to use it at. In messages the secret never shows.
-/

namespace BucketDriver

/-- An access key. -/
structure AccessKey where
  /-- The identifier, which may be told. -/
  id : String
  /-- The secret. -/
  secret : String
  deriving DecidableEq, Repr

/-- The key in one line, without its secret. -/
def AccessKey.text (k : AccessKey) : String :=
  Text.record "AccessKey"
    [("access_key_id", Text.quoted k.id), ("secret_access_key", Parameters.redacted)]

/-- What a grant gives to its caller. -/
structure Credentials where
  /-- The key. -/
  key : AccessKey
  /-- Where to use it. -/
  endpoint : String
  /-- The region there. -/
  region : String
  deriving DecidableEq, Repr

namespace Credentials

/-- The credentials of a key at a provider. -/
def ofKey (key : AccessKey) (p : Parameters) : Credentials :=
  ⟨key, p.endpoint, p.region⟩

/-- The credentials as they are handed out. -/
def toJson (c : Credentials) : Json.Value :=
  .ofStrings [("accessKeyId", c.key.id), ("secretAccessKey", c.key.secret),
    ("endpoint", c.endpoint), ("region", c.region)]

/-- The credentials in one line, without the secret. -/
def text (c : Credentials) : String :=
  Text.record "CredentialBundle" [
    ("access_key_id", Text.quoted c.key.id),
    ("secret_access_key", Parameters.redacted),
    ("endpoint", Text.quoted c.endpoint),
    ("region", Text.quoted c.region)]

end Credentials

end BucketDriver
