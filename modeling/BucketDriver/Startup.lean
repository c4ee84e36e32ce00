import BucketDriver.Json.Value
import BucketDriver.Options.Arguments
import BucketDriver.Service.Dispatcher

/-!
# Starting the program

What the program logs before it serves anybody, and when it stops instead: a warning when buckets
are kept in memory only, the default secret or a warning that there is none, and then the check of
the driver's name.
-/

namespace BucketDriver

/-- How much a log line matters. -/
inductive LogLevel where
  | info
  | warn
  deriving DecidableEq, Repr

/-- The name of a level. -/
def LogLevel.name : LogLevel → String
  | info => "INFO"
  | warn => "WARN"

/-- A log line. -/
structure LogLine where
  /-- How much it matters. -/
  level : LogLevel
  /-- What happened. -/
  message : String
  /-- What it happened to. -/
  fields : List (String × String)
  deriving DecidableEq, Repr

/-- The part of the program that logs. -/
def logTarget : String := "s3cosi"

/-- The width of the level in a log line. -/
def levelWidth : Nat := 5

namespace LogLine

/-- A log line in words, with its level at the right of its column. -/
def text (l : LogLine) : String :=
  "".pushn ' ' (levelWidth - l.level.name.length) ++ l.level.name ++ " " ++ logTarget ++ ": " ++
    l.message ++ String.join (l.fields.map fun (key, value) => " " ++ key ++ "=" ++ value)

/-- A log line as an object. -/
def toJson (l : LogLine) : Json.Value :=
  .object [("level", .string l.level.name),
    ("fields", .ofStrings (("message", l.message) :: l.fields)),
    ("target", .string logTarget)]

end LogLine

namespace Startup

/-- The line on the backend, if there is one. -/
def backendLines (o : Options) : List LogLine :=
  match o.backend with
  | .aws => []
  | .memory =>
    [⟨.warn, "using in-memory storage backend, provisioned state is not persisted", []⟩]

/-- The line on the default secret. -/
def secretLine (o : Options) : LogLine :=
  match o.defaultSecret with
  | some r =>
    ⟨.info, "default storage secret configured", [("secret", r.name), ("namespace", r.space)]⟩
  | none =>
    ⟨.warn, "no default storage secret, delete and revoke requests must name one", []⟩

/-- The lines that are logged before the name of the driver is checked. -/
def lines (o : Options) : List LogLine :=
  backendLines o ++ [secretLine o]

/-- What the program prints when an error stops it. -/
def errorText (e : DriverError) : String :=
  "Error: " ++ e.report ++ "\n"

end Startup

end BucketDriver
