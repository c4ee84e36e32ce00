import BucketDriver.Status
import BucketDriver.Text.Replace

/-!
# Error tables

Each service has a table from its error codes to outcome codes, with a message for the log and,
where the cause may be told, a template for the caller. A template names the resource once, by a
slot that `Mapping.clientMessage` fills; without a template the caller is told the log message.
-/

namespace BucketDriver

/-- The place of the resource in a template. -/
def slot : String := "\x7bresource\x7d"

/-- What an error code of a provider means. -/
structure Mapping where
  /-- The outcome it stands for. -/
  code : Code
  /-- What the log says. -/
  logMessage : String
  /-- What the caller is told, with a slot for the resource. -/
  template? : Option String
  deriving DecidableEq, Repr

namespace Mapping

/-- A mapping whose cause is told to the caller. -/
def told (code : Code) (logMessage template : String) : Mapping :=
  ⟨code, logMessage, some template⟩

/-- A mapping whose log message also answers the caller. -/
def logged (code : Code) (logMessage : String) : Mapping :=
  ⟨code, logMessage, none⟩

/-- What the caller is told about a resource. -/
def clientMessage (m : Mapping) (resource : String) : String :=
  match m.template? with
  | some template => Text.replace slot resource template
  | none => m.logMessage

end Mapping

/-- The error codes of a service. -/
structure ErrorTable where
  /-- The short name of the service. -/
  service : String
  /-- The codes with their meanings, each code once. -/
  entries : List (String × Mapping)
  deriving DecidableEq, Repr

/-- What a code of the service means, if the table has it. -/
def ErrorTable.get? (t : ErrorTable) (code : String) : Option Mapping :=
  t.entries.lookup code

/-- The object store's error codes. -/
def objectStoreErrors : ErrorTable where
  service := "s3"
  entries := [
    ("BucketAlreadyOwnedByYou", .logged .ok
      "bucket already exists and is owned by the caller"),
    ("BucketAlreadyExists", .told .alreadyExists
      "bucket already exists with a different owner or parameters"
      ("bucket " ++ slot ++ " already exists with different parameters")),
    ("NoSuchBucket", .told .notFound
      "bucket does not exist"
      ("bucket " ++ slot ++ " not found")),
    ("NotFound", .told .notFound
      "resource does not exist"
      ("bucket " ++ slot ++ " not found")),
    ("BucketNotEmpty", .told .failedPrecondition
      "bucket still contains objects"
      ("bucket " ++ slot ++ " is not empty")),
    ("InvalidBucketName", .told .invalidArgument
      "bucket name rejected by the object store"
      ("bucket name " ++ slot ++ " is not valid")),
    ("InvalidLocationConstraint", .told .invalidArgument
      "location constraint rejected by the object store"
      ("invalid region for bucket " ++ slot)),
    ("IllegalLocationConstraintException", .told .invalidArgument
      "location constraint does not match the endpoint region"
      ("invalid region for bucket " ++ slot)),
    ("InvalidArgument", .told .invalidArgument
      "object store rejected a request argument"
      ("invalid argument for bucket " ++ slot)),
    ("TooManyBuckets", .told .resourceExhausted
      "bucket quota exceeded"
      ("cannot create bucket " ++ slot ++ ": bucket limit reached")),
    ("AccessDenied", .told .permissionDenied
      "object store denied access"
      ("access denied for bucket " ++ slot)),
    ("AllAccessDisabled", .told .permissionDenied
      "all access to the resource has been disabled"
      ("access denied for bucket " ++ slot)),
    ("InvalidAccessKeyId", .logged .unauthenticated
      "object store does not recognize the configured access key"),
    ("SignatureDoesNotMatch", .logged .unauthenticated
      "object store rejected the request signature"),
    ("ExpiredToken", .logged .unauthenticated
      "object store credentials have expired"),
    ("OperationAborted", .told .unavailable
      "a conflicting operation is in progress"
      ("a conflicting operation is in progress on bucket " ++ slot)),
    ("SlowDown", .told .resourceExhausted
      "object store is throttling requests"
      ("request rate exceeded for bucket " ++ slot)),
    ("ServiceUnavailable", .logged .unavailable
      "object store is unavailable"),
    ("RequestTimeout", .told .deadlineExceeded
      "object store request timed out"
      ("request for bucket " ++ slot ++ " timed out")),
    ("InternalError", .logged .internal
      "object store reported an internal error"),
    ("NotImplemented", .logged .unimplemented
      "object store does not implement the requested operation")]

/-- The identity service's error codes. -/
def identityErrors : ErrorTable where
  service := "iam"
  entries := [
    ("EntityAlreadyExists", .told .alreadyExists
      "identity entity already exists"
      ("user " ++ slot ++ " already exists")),
    ("NoSuchEntity", .told .notFound
      "identity entity does not exist"
      ("user " ++ slot ++ " not found")),
    ("LimitExceeded", .told .resourceExhausted
      "identity service quota exceeded"
      ("limit exceeded for user " ++ slot)),
    ("InvalidInput", .told .invalidArgument
      "identity service rejected a request argument"
      ("invalid input for user " ++ slot)),
    ("MalformedPolicyDocument", .told .invalidArgument
      "identity service rejected the policy document"
      ("invalid policy document for user " ++ slot)),
    ("DeleteConflict", .told .failedPrecondition
      "entity still has attached resources"
      ("user " ++ slot ++ " still has attached resources")),
    ("UnmodifiableEntity", .told .failedPrecondition
      "entity cannot be modified"
      ("user " ++ slot ++ " cannot be modified")),
    ("ConcurrentModification", .told .unavailable
      "entity is being modified concurrently"
      ("user " ++ slot ++ " is being modified concurrently")),
    ("AccessDenied", .told .permissionDenied
      "identity service denied access"
      ("access denied for user " ++ slot)),
    ("InvalidClientTokenId", .logged .unauthenticated
      "identity service does not recognize the configured access key"),
    ("SignatureDoesNotMatch", .logged .unauthenticated
      "identity service rejected the request signature"),
    ("ExpiredToken", .logged .unauthenticated
      "identity service credentials have expired"),
    ("Throttling", .told .resourceExhausted
      "identity service is throttling requests"
      ("request rate exceeded for user " ++ slot)),
    ("RequestExpired", .told .deadlineExceeded
      "identity service request expired"
      ("request for user " ++ slot ++ " timed out")),
    ("ServiceUnavailable", .logged .unavailable
      "identity service is unavailable"),
    ("ServiceFailure", .logged .internal
      "identity service reported an internal error"),
    ("NotImplemented", .logged .unimplemented
      "identity service does not implement the requested operation")]

end BucketDriver
