import BucketDriver.Action
import BucketDriver.Provider.Error
import BucketDriver.Provider.Table

/-!
# Normalization

`normalize` takes a provider error to an outcome by four rules, in this order. An error without a
code is an internal failure with one message for all. An absence code is success where the action
tolerates absence, and else a failure that names the resource. A code outside the table is an
internal failure that names the action. Any other code has the outcome and the message of its table
entry.

`settle` does so for the result of a call. The provider's detail never reaches an outcome.
-/

namespace BucketDriver

/-- What a caller is told when nothing is known about an error. -/
def unclassifiedMessage : String :=
  "an internal error occurred while contacting the storage provider"

/-- The codes that say that a resource is absent. -/
def absenceCodes : List String :=
  ["NoSuchBucket", "NoSuchEntity", "NotFound"]

/-- Whether a code says that a resource is absent. -/
def isAbsence (code : String) : Bool :=
  absenceCodes.contains code

/-- The failure of an action about which no more is told. -/
def Action.failure (a : Action) : Failure :=
  .internal ("failed to " ++ a.text)

/-- The failure of an action whose resource is absent. -/
def Action.absent (a : Action) (resource : String) : Failure :=
  ⟨.notFound, a.resourceKind ++ " " ++ resource ++ " not found"⟩

/-- What an error with the given code means for an action. -/
def classify (a : Action) (resource code : String) (t : ErrorTable) : Except Failure Unit :=
  if isAbsence code then
    if a.toleratesAbsence then .ok () else .error (a.absent resource)
  else
    match t.get? code with
    | none => .error a.failure
    | some m => if m.code = .ok then .ok () else .error ⟨m.code, m.clientMessage resource⟩

/-- What a provider error means for an action: success where the wanted state is already there. -/
def normalize (a : Action) (resource : String) (e : ProviderError) (t : ErrorTable) :
    Except Failure Unit :=
  match e.code? with
  | none => .error (.internal unclassifiedMessage)
  | some code => classify a resource code t

/-- The result of a provider call: a value, nothing when an error stands for success, or a failure.
-/
def settle (result : Except ProviderError α) (a : Action) (resource : String) (t : ErrorTable) :
    Except Failure (Option α) :=
  match result with
  | .ok v => .ok (some v)
  | .error e => (normalize a resource e t).map fun _ => none

end BucketDriver
