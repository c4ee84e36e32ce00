import BucketDriver.Proofs.Settling
import BucketDriver.Service.Request

/-!
# What an operation is about

Every call is about one bucket or one account, and an operation makes calls about one of them only:
its own (`Request.resource`). Main statement: `Request.attempt_settling`, which also says that it
settles each call by the table of its service.
-/

namespace BucketDriver

open Attempt (Settling)

/-- Something that a provider keeps by name. -/
inductive Resource where
  | bucket (name : String)
  | account (name : String)
  deriving DecidableEq, Repr

/-- What a call is about. -/
def Call.resource : Call → Resource
  | createBucket b _ | deleteBucket b => .bucket b
  | createUser u | getUser u | deleteUser u | putUserPolicy u _ _ | deleteUserPolicy u _
  | listUserPolicies u | createAccessKey u | listAccessKeys u | deleteAccessKey u _ => .account u

/-- The call is about the resource. -/
def Call.About (r : Resource) (c : Call) : Prop :=
  c.resource = r

/-- The error codes of a service. -/
def ProviderService.errors : ProviderService → ErrorTable
  | objectStore => objectStoreErrors
  | identity => identityErrors

namespace Provision

variable {bucket account : String} {p : Parameters}

theorem createBucket_settling :
    Settling (Call.About (.bucket bucket)) objectStoreErrors (createBucket bucket p) :=
  .bind (.settled _ _ rfl) fun _ => .pure _

theorem deleteBucket_settling :
    Settling (Call.About (.bucket bucket)) objectStoreErrors (deleteBucket bucket) :=
  .bind (.settled _ _ rfl) fun _ => .pure _

/-- Deleting keys of an account: by induction on the keys. -/
theorem deleteKeys_settling (a : Action) (t : ErrorTable) (keys : List String) :
    Settling (Call.About (.account account)) t
      (deleteKeys (fun c => do let _ ← Attempt.settled a account t c) account keys) := by
  induction keys with
  | nil => exact .pure _
  | cons key keys ih =>
    have hdelete : Settling (Call.About (.account account)) t
        (do let _ ← Attempt.settled a account t (.deleteAccessKey account key)) :=
      .bind (.settled _ _ rfl) fun _ => .pure _
    exact .bind hdelete fun _ => ih

theorem adopt_settling {taken : Failure} (htaken : taken.code ≠ .ok) :
    Settling (Call.About (.account account)) identityErrors (adopt bucket account taken) := by
  refine .bind (.settled _ _ rfl) fun policies => ?_
  have hreplace : Settling (Call.About (.account account)) identityErrors (do
      let keys : Option (List String) ← granting .listAccessKeys account (.listAccessKeys account)
      deleteKeys (fun c => do let _ ← granting .deleteStaleAccessKey account c) account
        (keys.getD [])) :=
    .bind (.settled _ _ rfl) fun _ => deleteKeys_settling _ _ _
  split
  · exact .bind (.throw htaken) fun _ => hreplace
  · exact hreplace

theorem ensureUser_settling :
    Settling (Call.About (.account account)) identityErrors (ensureUser bucket account) := by
  refine .inspect (.settled _ _ rfl) (fun _ => .pure _) fun failure hfailure => ?_
  dsimp only
  split
  · exact adopt_settling hfailure
  · exact .throw hfailure

theorem grant_settling :
    Settling (Call.About (.account account)) identityErrors (grant bucket account p) := by
  refine .bind ensureUser_settling fun _ => .bind (.settled _ _ rfl) fun _ =>
    .bind (.settled _ _ rfl) fun key => ?_
  cases key with
  | some key => exact .pure _
  | none => exact .throw (by decide)

theorem revoke_settling :
    Settling (Call.About (.account account)) identityErrors (revoke bucket account) := by
  refine .bind (.settled _ _ rfl) fun user => ?_
  split
  · exact .pure _
  · refine .bind (.settled _ _ rfl) fun _ => .bind (.settled _ _ rfl) fun keys => .bind ?_ fun _ =>
      .bind (.settled _ _ rfl) fun _ => .pure _
    exact deleteKeys_settling _ _ _

end Provision

namespace Service.Request

/-- What a request is about. -/
def resource : Request → Resource
  | createBucket name _ => .bucket name
  | deleteBucket bucket _ => .bucket bucket
  | grant _ account _ | revoke _ account _ => .account account

/-- An operation makes calls about its own resource only, and settles each of them by the table of
its service. -/
theorem attempt_settling (q : Request) (p : Parameters) :
    Settling (Call.About q.resource) q.service.errors (q.attempt p) := by
  cases q with
  | createBucket => exact .bind Provision.createBucket_settling fun _ => .pure _
  | deleteBucket => exact .bind Provision.deleteBucket_settling fun _ => .pure _
  | grant => exact .bind Provision.grant_settling fun _ => .pure _
  | revoke => exact .bind Provision.revoke_settling fun _ => .pure _

end Service.Request

end BucketDriver
