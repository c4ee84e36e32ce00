import BucketDriver.Aws.Timestamp
import BucketDriver.Provider.Call
import BucketDriver.Xml.Element

/-!
# Replies of the wire protocol

What a reply means for a call. A status from 200 to 299 is success, and then some calls look into
the body: it must be a document with the call's own root element and result element, in which texts,
timestamps and truth values can be read. With any other status the body is looked at for an error
code.

Of several elements with one name the last counts, and elements that are not known are passed over.
-/

namespace BucketDriver.Aws

open Xml (Node elements data?)

/-- What comes back for a request. -/
inductive Reply where
  /-- An answer with a status code and a body. -/
  | answer (status : Nat) (body : String)
  /-- Nothing before the time is up. -/
  | silence
  deriving DecidableEq, Repr

/-- Whether a status code tells of success. -/
def isSuccess (status : Nat) : Bool :=
  200 ≤ status && status < 300

/-- The body that comes with a status code: for two of them there is none. -/
def bodyWith (status : Nat) (body : String) : String :=
  if status = 204 ∨ status = 304 then "" else body

/-! ## Reading elements -/

/-- Reads what is inside of an element. -/
abbrev Inside (α : Type) := List Node → Option α

/-- Reads the elements with a name among those inside of an element, in order. -/
def all (name : String) (read : Inside α) (inside : List Node) : Option (List α) :=
  ((elements inside).filter (·.1 = name)).mapM fun (_, i) => read i

/-- Reads the elements with a name, of which the last counts. -/
def last (name : String) (read : Inside α) (inside : List Node) : Option (Option α) :=
  (all name read inside).map List.getLast?

/-- Checks the elements with a name. -/
def check (name : String) (read : Inside α) (inside : List Node) : Option Unit :=
  (all name read inside).map fun _ => ()

/-- Reads a timestamp. -/
def timestamp? (inside : List Node) : Option Unit := do
  if isTimestamp (← data? inside) then return () else none

/-- Reads a truth value. -/
def truth? (inside : List Node) : Option Bool := do
  match ← data? inside with
  | "true" => return true
  | "false" => return false
  | _ => none

/-! ## Results -/

/-- What is inside of the result of a call. -/
def result? (kind : CallKind) (body : String) : Option (List Node) := do
  let (root, inside) ← Xml.root? body
  if root ≠ kind.name ++ "Response" then none
  let (name, result) ← (elements inside).head?
  if name = kind.name ++ "Result" then return result else none

/-- Checks a tag of a user. -/
def tag? (inside : List Node) : Option Unit := do
  check "Key" data? inside
  check "Value" data? inside

/-- Checks the limit on the permissions of a user. -/
def boundary? (inside : List Node) : Option Unit := do
  check "PermissionsBoundaryType" data? inside
  check "PermissionsBoundaryArn" data? inside

/-- Checks a user. -/
def user? (inside : List Node) : Option Unit := do
  check "Path" data? inside
  check "UserName" data? inside
  check "UserId" data? inside
  check "Arn" data? inside
  check "CreateDate" timestamp? inside
  check "PasswordLastUsed" timestamp? inside
  check "PermissionsBoundary" boundary? inside
  check "Tags" (all "member" tag?) inside

/-- Reads an access key. -/
def accessKey? (inside : List Node) : Option AccessKey := do
  check "UserName" data? inside
  let id ← last "AccessKeyId" data? inside
  check "Status" data? inside
  let secret ← last "SecretAccessKey" data? inside
  check "CreateDate" timestamp? inside
  return ⟨id.getD "", secret.getD ""⟩

/-- Reads what is told about an access key: its identifier, if that is told. -/
def keyMetadata? (inside : List Node) : Option (Option String) := do
  check "UserName" data? inside
  let id ← last "AccessKeyId" data? inside
  check "Status" data? inside
  check "CreateDate" timestamp? inside
  return id

/-- A page of a listing. -/
structure Page where
  /-- The names on the page. -/
  names : List String
  /-- Whether more pages follow. -/
  truncated : Bool
  /-- Where the next page starts. -/
  marker : Option String
  deriving DecidableEq, Repr

/-- The marker to ask for the next page with, where the last request was for the page behind a
marker. The listing goes on only from a page that is marked as truncated: any other page ends it,
even with a marker that has not been sent yet. Behind a truncated page it ends when the marker is
missing, empty or the same as before. -/
def Page.next? (page : Page) (before : Option String) : Option String :=
  if page.truncated then
    page.marker.filter fun marker => marker ≠ "" && some marker ≠ before
  else none

/-- Reads a page, whose members are in an element with the given name. -/
def page? (list : String) (member : Inside (Option String)) (inside : List Node) : Option Page := do
  let names ← last list (all "member" member) inside
  let truncated ← last "IsTruncated" truth? inside
  let marker ← last "Marker" data? inside
  return ⟨(names.getD []).filterMap id, truncated.getD false, marker⟩

/-- The page of policy names in a body. -/
def policiesPage? (body : String) : Option Page := do
  page? "PolicyNames" (fun i => (data? i).map some) (← result? .listUserPolicies body)

/-- The page of access keys in a body. -/
def keysPage? (body : String) : Option Page := do
  page? "AccessKeyMetadata" keyMetadata? (← result? .listAccessKeys body)

/-- The key in a body. A key that is missing reads as one with empty parts. -/
def createdKey? (body : String) : Option AccessKey := do
  let key ← last "AccessKey" accessKey? (← result? .createAccessKey body)
  return key.getD ⟨"", ""⟩

/-! ## Error codes -/

/-- The code among the elements of an error, whose message must be readable as well. -/
def codeIn? (inside : List Node) : Option String := do
  let code ← last "Code" data? inside
  check "Message" data? inside
  code

/-- The error code in a body of the object store. -/
def storeCode? (body : String) : Option String := do
  let (_, inside) ← Xml.root? body
  codeIn? inside

/-- The error code in a body of the identity service. -/
def identityCode? (body : String) : Option String := do
  let (root, inside) ← Xml.root? body
  if root ≠ "ErrorResponse" then none
  -- Of several errors the first counts.
  codeIn? (← (elements inside).lookup "Error")

/-- The error code that a failed call was answered with. Deleting a bucket at a place that is not
there has a code even without a body. -/
def errorCode? (kind : CallKind) (status : Nat) (body : String) : Option String :=
  match kind with
  | .createBucket => storeCode? body
  | .deleteBucket => if status = 404 ∧ body = "" then some "NotFound" else storeCode? body
  | .createUser | .getUser | .deleteUser | .putUserPolicy | .deleteUserPolicy | .listUserPolicies
  | .createAccessKey | .listAccessKeys | .deleteAccessKey => identityCode? body

/-! ## Outcomes -/

/-- The error of a call that was not answered. -/
def unanswered : ProviderError :=
  .withoutCode "the request was not answered"

/-- The error of a call that could not be sent. -/
def unsent : ProviderError :=
  .withoutCode "the request cannot be sent"

/-- The error of a call that was answered with something else than its result. -/
def unreadable : ProviderError :=
  .withoutCode "the response cannot be read"

/-- The error of a call that was refused. -/
def refused (code : Option String) : ProviderError :=
  ⟨code, "the request was refused"⟩

/-- The body of an answer that tells of success. -/
def Reply.success (kind : CallKind) : Reply → Except ProviderError String
  | .silence => .error unanswered
  | .answer status body =>
    let body := bodyWith status body
    if isSuccess status then .ok body else .error (refused (errorCode? kind status body))

/-- The result of a call that is not a listing. -/
def resultIn (body : String) (c : Call) : Option c.Reply :=
  match c with
  | .createBucket .. | .deleteBucket _ | .deleteUser _ | .putUserPolicy .. | .deleteUserPolicy ..
  | .deleteAccessKey .. => some ()
  | .createUser _ => (result? .createUser body).bind (check "User" user?)
  | .getUser _ => (result? .getUser body).bind (check "User" user?)
  | .createAccessKey _ => createdKey? body
  | .listUserPolicies _ => (policiesPage? body).map Page.names
  | .listAccessKeys _ => (keysPage? body).map Page.names

end BucketDriver.Aws
