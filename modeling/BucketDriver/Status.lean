/-!
# Outcome codes

The twelve outcome codes that providers and transports share, and the failures that carry them. The
code `ok` never belongs to a failure that a caller sees: it stands in error tables, where it marks a
provider code that means the work is already done.
-/

namespace BucketDriver

/-- What became of an operation. -/
inductive Code where
  | ok
  | alreadyExists
  | invalidArgument
  | notFound
  | permissionDenied
  | resourceExhausted
  | failedPrecondition
  | unavailable
  | deadlineExceeded
  | unauthenticated
  | internal
  | unimplemented
  deriving DecidableEq, Repr

/-- The name of a code in answers and messages. -/
def Code.name : Code → String
  | ok => "Ok"
  | alreadyExists => "AlreadyExists"
  | invalidArgument => "InvalidArgument"
  | notFound => "NotFound"
  | permissionDenied => "PermissionDenied"
  | resourceExhausted => "ResourceExhausted"
  | failedPrecondition => "FailedPrecondition"
  | unavailable => "Unavailable"
  | deadlineExceeded => "DeadlineExceeded"
  | unauthenticated => "Unauthenticated"
  | internal => "Internal"
  | unimplemented => "Unimplemented"

/-- All codes. -/
def Code.all : List Code :=
  [ok, alreadyExists, invalidArgument, notFound, permissionDenied, resourceExhausted,
    failedPrecondition, unavailable, deadlineExceeded, unauthenticated, internal, unimplemented]

/-- A failed operation, as its caller sees it. -/
structure Failure where
  /-- What kind of failure it is. -/
  code : Code
  /-- The message for the caller. -/
  message : String
  deriving DecidableEq, Repr

namespace Failure

/-- A failure whose cause stays inside. -/
def internal (message : String) : Failure :=
  ⟨.internal, message⟩

/-- A failure that lies with the request. -/
def invalidArgument (message : String) : Failure :=
  ⟨.invalidArgument, message⟩

/-- A failure in one line. -/
def text (f : Failure) : String :=
  f.code.name ++ ": " ++ f.message

end Failure

end BucketDriver
