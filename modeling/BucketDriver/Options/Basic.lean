import BucketDriver.Decimal.Shortest
import BucketDriver.Secret.Reference
import BucketDriver.Text.Blank
import BucketDriver.Text.Digit

/-!
# Options

The settings of the program with their defaults. Each setting has a flag and an environment
variable, and `Setting.assign` puts a text into the place of its value. Numbers may have a sign and
leading zeros.
-/

namespace BucketDriver

/-- Where buckets are kept. -/
inductive Backend where
  | aws
  | memory
  deriving DecidableEq, Repr

/-- The name of a backend. -/
def Backend.name : Backend → String
  | aws => "aws"
  | memory => "memory"

/-- How log lines are written. -/
inductive LogFormat where
  | text
  | json
  deriving DecidableEq, Repr

/-- The name of a format. -/
def LogFormat.name : LogFormat → String
  | text => "text"
  | json => "json"

/-- What the program runs with. -/
structure Options where
  /-- The host to listen on. -/
  host : String
  /-- The port to listen on. -/
  port : Nat
  /-- The name of the driver. -/
  driverName : String
  /-- The directory of the secrets. -/
  secretsDir : String
  /-- The name of the default secret. -/
  defaultSecretName : Option String
  /-- The namespace of the default secret. -/
  defaultSecretNamespace : String
  /-- Where buckets are kept. -/
  backend : Backend
  /-- The seconds that an operation may take. -/
  operationTimeout : Option Nat
  /-- How log lines are written. -/
  logFormat : LogFormat
  deriving DecidableEq, Repr

/-- Why the program does not run. -/
inductive UsageError where
  | unknownArgument
  | invalidValue
  | valueValidation
  | argumentConflict
  | tooManyValues
  | helpWanted
  deriving DecidableEq, Repr

/-- The exit code of the program that does not run. -/
def UsageError.exitCode : UsageError → Nat
  | helpWanted => 0
  | unknownArgument | invalidValue | valueValidation | argumentConflict | tooManyValues => 2

namespace Options

/-- The options when nothing is set. -/
def default : Options :=
  ⟨"0.0.0.0", 9100, "s3.cosi.maxio.io", "./secrets", none, "default", .aws, none, .text⟩

/-- The address to listen on. -/
def address (o : Options) : String :=
  o.host ++ ":" ++ Decimal.natText o.port

/-- The default secret, if it has a name that is not blank. -/
def defaultSecret (o : Options) : Option Secret.Reference :=
  (o.defaultSecretName.bind Text.trimmed?).map fun name =>
    ⟨name, Text.trim o.defaultSecretNamespace⟩

/-- The seconds that an operation may take, where zero stands for no limit. -/
def timeout (o : Options) : Option Nat :=
  o.operationTimeout.filter (0 < ·)

end Options

/-- A setting of the program. -/
inductive Setting where
  | host
  | port
  | driverName
  | secretsDir
  | defaultSecretName
  | defaultSecretNamespace
  | backend
  | operationTimeout
  | logFormat
  deriving DecidableEq, Repr

namespace Setting

/-- All settings, in the order in which environment variables are looked at. -/
def all : List Setting :=
  [host, port, driverName, secretsDir, defaultSecretName, defaultSecretNamespace, backend,
    operationTimeout, logFormat]

/-- The flag of a setting, behind its two dashes. -/
def flagName : Setting → String
  | host => "host"
  | port => "port"
  | driverName => "driver-name"
  | secretsDir => "secrets-dir"
  | defaultSecretName => "default-secret-name"
  | defaultSecretNamespace => "default-secret-namespace"
  | backend => "backend"
  | operationTimeout => "operation-timeout-secs"
  | logFormat => "log-format"

/-- The environment variable of a setting. -/
def variableName : Setting → String
  | host => "S3COSI_HOST"
  | port => "S3COSI_PORT"
  | driverName => "S3COSI_DRIVER_NAME"
  | secretsDir => "S3COSI_SECRETS_DIR"
  | defaultSecretName => "S3COSI_DEFAULT_SECRET_NAME"
  | defaultSecretNamespace => "S3COSI_DEFAULT_SECRET_NAMESPACE"
  | backend => "S3COSI_BACKEND"
  | operationTimeout => "S3COSI_OPERATION_TIMEOUT_SECS"
  | logFormat => "S3COSI_LOG_FORMAT"

/-- The setting with a given flag. -/
def ofFlag? (name : String) : Option Setting :=
  all.find? (·.flagName = name)

end Setting

/-- The value of decimal digits, perhaps behind a plus sign. -/
def natural? : List Char → Option Nat
  | '+' :: cs => Text.number? 10 cs
  | cs => Text.number? 10 cs

/-- Reads a port. A minus sign is all right in front of zeros. -/
def readPort (value : String) : Except UsageError Nat :=
  -- A negative number is no port, but a negative zero is zero.
  let port := match value.toList with
    | '-' :: cs => (Text.number? 10 cs).filter (· = 0)
    | cs => natural? cs
  match port with
  | some n => if n < 65536 then .ok n else .error .valueValidation
  | none => .error .valueValidation

/-- Reads a number of seconds. -/
def readSeconds (value : String) : Except UsageError Nat :=
  match natural? value.toList with
  | some n => if n < Nat.pow 2 64 then .ok n else .error .valueValidation
  | none => .error .valueValidation

/-- Reads the name of one of several things. -/
def readName (name : α → String) (choices : List α) (value : String) : Except UsageError α :=
  match choices.find? (name · = value) with
  | some a => .ok a
  | none => .error .invalidValue

/-- The options with a text in the place of the value of a setting. -/
def Setting.assign (o : Options) (value : String) : Setting → Except UsageError Options
  | host => .ok { o with host := value }
  | port => do return { o with port := ← readPort value }
  | driverName => .ok { o with driverName := value }
  | secretsDir => if value = "" then .error .invalidValue else .ok { o with secretsDir := value }
  | defaultSecretName => .ok { o with defaultSecretName := some value }
  | defaultSecretNamespace => .ok { o with defaultSecretNamespace := value }
  | backend => do return { o with backend := ← readName Backend.name [.aws, .memory] value }
  | operationTimeout => do return { o with operationTimeout := some (← readSeconds value) }
  | logFormat => do return { o with logFormat := ← readName LogFormat.name [.text, .json] value }

end BucketDriver
