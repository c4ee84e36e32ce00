import BucketDriver.Status
import BucketDriver.Text.Quoted

/-!
# Errors of the driver itself

What can go wrong before a provider is called: parameters, secrets and clients. Callers of the
service never see these errors; they end up in the log, and the one that stops the start of the
program is printed.
-/

namespace BucketDriver

/-- Why the driver cannot do its work. -/
inductive DriverError where
  | invalidParameters (text : String)
  | missingParameter (key : String)
  | secretNotFound (name space : String)
  | secretStore (text : String)
  | clientInit (text : String)
  | internal (text : String)
  | io (text : String)
  deriving DecidableEq, Repr

namespace DriverError

/-- The outcome code of an error. -/
def code : DriverError → Code
  | invalidParameters _ | missingParameter _ => .invalidArgument
  | secretNotFound .. => .notFound
  | secretStore _ | clientInit _ | internal _ | io _ => .internal

/-- The message of an error. -/
def message : DriverError → String
  | invalidParameters text => "invalid storage parameters: " ++ text
  | missingParameter key => "missing required parameter: " ++ key
  | secretNotFound name space => "secret not found: " ++ space ++ "/" ++ name
  | secretStore text => "secret store error: " ++ text
  | clientInit text => "failed to initialize storage client: " ++ text
  | internal text => "internal error: " ++ text
  | io text => text

/-- An error with its cause, as the program prints it when it stops. -/
def report : DriverError → String
  | invalidParameters text => "InvalidParameters(" ++ Text.quoted text ++ ")"
  | missingParameter key => "MissingParameter(" ++ Text.quoted key ++ ")"
  | secretNotFound name space =>
    Text.record "SecretNotFound"
      [("name", Text.quoted name), ("namespace", Text.quoted space)]
  | secretStore text => "SecretStore(" ++ Text.quoted text ++ ")"
  | clientInit text => "ClientInit(" ++ Text.quoted text ++ ")"
  | internal text => "InternalError(" ++ Text.quoted text ++ ")"
  | io text =>
    "Io(" ++ Text.record "Custom" [("kind", "Other"), ("error", Text.quoted text)] ++ ")"

end DriverError

end BucketDriver
