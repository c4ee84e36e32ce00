import BucketDriver.Startup

/-!
# The command

The program up to the point where it would listen: it reads its options, logs how it starts, and
stops when the name of the driver is blank.
-/

namespace BucketDriver

/-- A log line in the format that was asked for. -/
def LogLine.written (format : LogFormat) (l : LogLine) : String :=
  match format with
  | .text => l.text
  | .json => l.toJson.render

/-- What is said about a call of the program that cannot be understood, or that asks for help. -/
def UsageError.text : UsageError → String
  | helpWanted =>
    "Usage: s3cosi [OPTIONS]\n\n" ++
      String.join (Setting.all.map fun s =>
        "  --" ++ s.flagName ++ " [env: " ++ s.variableName ++ "]\n")
  | unknownArgument => "error: unexpected argument\n"
  | invalidValue => "error: invalid value\n"
  | valueValidation => "error: invalid number\n"
  | argumentConflict => "error: argument used more than once\n"
  | tooManyValues => "error: unexpected value\n"

/-- The values of the environment variables that settings have. -/
def readEnvironment : IO (List (String × String)) :=
  Setting.all.filterMapM fun s => do
    return (← IO.getEnv s.variableName).map fun value => (s.variableName, value)

/-- Starts the program with its options. -/
def start (o : Options) : IO UInt32 := do
  for l in Startup.lines o do
    IO.println (l.written o.logFormat)
  match Service.checkDriverName o.driverName with
  | .ok () => return 0
  | .error e =>
    IO.eprint (Startup.errorText e)
    return 1

end BucketDriver

open BucketDriver in
/-- The command. -/
def main (arguments : List String) : IO UInt32 := do
  let environment ← readEnvironment
  match Options.ofCall arguments (fun name => environment.lookup name) with
  | .ok o => start o
  | .error .helpWanted =>
    IO.print UsageError.helpWanted.text
    return 0
  | .error e =>
    IO.eprint e.text
    return .ofNat e.exitCode
