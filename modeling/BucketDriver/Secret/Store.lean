import BucketDriver.Dict
import BucketDriver.Json.Reader
import BucketDriver.Secret.FileTree

/-!
# Secret stores

A secret is a dictionary of texts. `ofContent` reads one from the content of a file: an object of
scalars, of which the last one of several with one key counts. Strings stand for themselves, truth
values and numbers for their text; one member that is no scalar spoils the whole secret.

A store gives the secret of a reference. `secretIn` reads a secret from a directory with one file
per secret, and `fileStore` is the store of such a directory in a file tree.
-/

namespace BucketDriver.Secret

open Json (Value)

/-- Secrets by reference. -/
abbrev Store := Reference → Except DriverError (Dict String)

/-- The text of a scalar. -/
def scalarText? : Value → Option String
  | .string s => some s
  | .boolean b => some (Text.boolText b)
  | .number n => some n.text
  | .null | .array _ | .object _ => none

/-- A secret as messages name it. -/
def Reference.text (r : Reference) : String :=
  r.space ++ "/" ++ r.name

/-- The text of each member of a secret, in the order of the keys. -/
def scalarTexts (r : Reference) :
    List (String × Value) → Except DriverError (List (String × String))
  | [] => .ok []
  | (key, v) :: rest =>
    match scalarText? v with
    | none =>
      .error (.secretStore ("secret " ++ r.text ++ " key " ++ key ++ " must be a scalar"))
    | some s => (scalarTexts r rest).map ((key, s) :: ·)

/-- The members of the object that a content spells. -/
def membersOf (content : List UInt8) : Except Json.ParseError (Dict Value) :=
  -- The object of the secret itself takes up one level.
  let members size := Json.entries size (Json.value size (Json.depthLimit - 1))
  (Json.whole members content).map Dict.ofList

/-- The secret that the content of a file spells. -/
def ofContent (r : Reference) (content : List UInt8) : Except DriverError (Dict String) :=
  match membersOf content with
  | .error e =>
    .error (.secretStore ("failed to parse secret " ++ r.text ++ ": " ++ e.message))
  | .ok members => (scalarTexts r members.entries).map Dict.ofList

/-- The error of a secret whose file cannot be read. -/
def unreadable (r : Reference) : FileError → DriverError
  | .absent => .secretNotFound r.name r.space
  | e => .io e.message

/-- The secret in its file below a root, with the effects of looking for it. -/
def secretIn {m : Type → Type} [Monad m] (look : Path → m (Option Entry)) (root : Path)
    (r : Reference) : m (Except DriverError (Dict String)) :=
  match r.place with
  | .error e => pure (.error e)
  | .ok place => do
    return (← readIn look root place).mapError (unreadable r) >>= ofContent r

/-- The store of the files below a root. -/
def fileStore (tree : FileTree) (root : Path) : Store := fun r =>
  (secretIn (m := Id) (fun path => pure (tree path)) root r).run

end BucketDriver.Secret
