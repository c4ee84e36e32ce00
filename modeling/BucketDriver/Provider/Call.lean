import BucketDriver.Credentials
import BucketDriver.Provider.Error

/-!
# Provider calls

The eleven calls that a storage provider understands, two to its object store and nine to its
identity service, each with the type of its reply. A provider is a `Handler`: it answers one call
after the other and keeps a state between them.
-/

namespace BucketDriver

/-- A call to a provider. -/
inductive Call where
  | createBucket (bucket : String) (location : Option String)
  | deleteBucket (bucket : String)
  | createUser (user : String)
  | getUser (user : String)
  | deleteUser (user : String)
  | putUserPolicy (user policy document : String)
  | deleteUserPolicy (user policy : String)
  | listUserPolicies (user : String)
  | createAccessKey (user : String)
  | listAccessKeys (user : String)
  | deleteAccessKey (user keyId : String)
  deriving DecidableEq, Repr

/-- The kinds of calls. -/
inductive CallKind where
  | createBucket
  | deleteBucket
  | createUser
  | getUser
  | deleteUser
  | putUserPolicy
  | deleteUserPolicy
  | listUserPolicies
  | createAccessKey
  | listAccessKeys
  | deleteAccessKey
  deriving DecidableEq, Repr

/-- The name of a kind of calls. -/
def CallKind.name : CallKind → String
  | createBucket => "CreateBucket"
  | deleteBucket => "DeleteBucket"
  | createUser => "CreateUser"
  | getUser => "GetUser"
  | deleteUser => "DeleteUser"
  | putUserPolicy => "PutUserPolicy"
  | deleteUserPolicy => "DeleteUserPolicy"
  | listUserPolicies => "ListUserPolicies"
  | createAccessKey => "CreateAccessKey"
  | listAccessKeys => "ListAccessKeys"
  | deleteAccessKey => "DeleteAccessKey"

/-- All kinds of calls. -/
def CallKind.all : List CallKind :=
  [createBucket, deleteBucket, createUser, getUser, deleteUser, putUserPolicy, deleteUserPolicy,
    listUserPolicies, createAccessKey, listAccessKeys, deleteAccessKey]

namespace Call

/-- The kind of a call. -/
def kind : Call → CallKind
  | createBucket .. => .createBucket
  | deleteBucket _ => .deleteBucket
  | createUser _ => .createUser
  | getUser _ => .getUser
  | deleteUser _ => .deleteUser
  | putUserPolicy .. => .putUserPolicy
  | deleteUserPolicy .. => .deleteUserPolicy
  | listUserPolicies _ => .listUserPolicies
  | createAccessKey _ => .createAccessKey
  | listAccessKeys _ => .listAccessKeys
  | deleteAccessKey .. => .deleteAccessKey

/-- What a successful call gives. -/
def Reply : Call → Type
  | listUserPolicies _ | listAccessKeys _ => List String
  | createAccessKey _ => AccessKey
  | _ => Unit

/-- What a call gives: its reply or a provider error. -/
abbrev Result (c : Call) : Type := Except ProviderError c.Reply

end Call

/-- A provider that answers calls and keeps a state. -/
abbrev Handler (σ : Type) := (c : Call) → σ → c.Result × σ

end BucketDriver
