import BucketDriver.Json.Value
import BucketDriver.Status

/-!
# Status codes of answers

Each outcome code has a status code of its own, and only the code of success has status 200. A
failure is answered with the status of its code and with the failure itself as an object.
-/

namespace BucketDriver

/-- The status code of an answer with an outcome code. -/
def Code.status : Code → Nat
  | ok => 200
  | alreadyExists => 409
  | invalidArgument => 400
  | notFound => 404
  | permissionDenied => 403
  | resourceExhausted => 429
  | failedPrecondition => 412
  | unavailable => 503
  | deadlineExceeded => 504
  | unauthenticated => 401
  | internal => 500
  | unimplemented => 501

/-- The code with a given name. -/
def Code.ofName? (name : String) : Option Code :=
  Code.all.find? (·.name = name)

/-- A failure in its written form. -/
def Failure.toJson (f : Failure) : Json.Value :=
  .ofStrings [("code", f.code.name), ("message", f.message)]

end BucketDriver
