import BucketDriver.Error

/-!
# References to secrets

A secret is named by a namespace and a name of its own. Each of the two has to be a single component
of a path, so that the path of a secret, `Reference.path`, lies two levels below the root and
nowhere else. The namespace is checked first.
-/

namespace BucketDriver.Secret

/-- The name of a secret. -/
structure Reference where
  /-- The name within the namespace. -/
  name : String
  /-- The namespace. -/
  space : String
  deriving DecidableEq, Repr

/-- The path of an entry of a file tree: its components, from the top. -/
abbrev Path := List String

/-- Whether a text is a single component of a path. -/
def isComponent (s : String) : Bool :=
  s ≠ "" && s ≠ "." && s ≠ ".." && s.toList.all fun c => c ≠ '/' && c ≠ '\\'

/-- Checks that a part of a reference is a single component of a path. -/
def checkComponent (what value : String) : Except DriverError Unit :=
  if isComponent value then .ok ()
  else .error (.invalidParameters ("invalid " ++ what ++ ": " ++ Text.quoted value))

namespace Reference

/-- The name of the file of a secret. -/
def fileName (r : Reference) : String :=
  r.name ++ ".json"

/-- Where a secret lies below the root. -/
def place (r : Reference) : Except DriverError Path := do
  checkComponent "secret namespace" r.space
  checkComponent "secret name" r.name
  return [r.space, r.fileName]

/-- The path of a secret below a root. -/
def path (root : Path) (r : Reference) : Except DriverError Path :=
  r.place.map (root ++ ·)

end Reference

end BucketDriver.Secret
