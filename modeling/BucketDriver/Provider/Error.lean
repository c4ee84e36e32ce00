import BucketDriver.Text.Blank

/-!
# Provider errors

A failed provider call may carry an error code, and always a detail for the log. A code counts
without the blank characters around it, and a blank code counts as none.
-/

namespace BucketDriver

/-- What a failed provider call reports. -/
structure ProviderError where
  /-- The code as the provider gave it. -/
  rawCode : Option String
  /-- What happened, for the log. -/
  detail : String
  deriving DecidableEq, Repr

namespace ProviderError

/-- An error with a code. -/
def withCode (code detail : String) : ProviderError :=
  ⟨some code, detail⟩

/-- An error without a code. -/
def withoutCode (detail : String) : ProviderError :=
  ⟨none, detail⟩

/-- The trimmed code, unless nothing is left of it. -/
def code? (e : ProviderError) : Option String :=
  e.rawCode.bind Text.trimmed?

end ProviderError

end BucketDriver
