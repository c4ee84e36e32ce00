import BucketDriver.Parameters
import BucketDriver.Policy
import BucketDriver.Provider.Program

/-!
# Granting and revoking access

A grant is a user, an inline policy scoped to the bucket, and an access key, made in that order and
not taken back when a later step fails. A user that is already there is adopted only when its inline
policies are none or the bucket's own; its old keys are deleted first, so that a repeated grant
leaves one key. A revocation takes policy, keys and user away, and accepts whatever is gone already.
-/

namespace BucketDriver.Provision

/-- One step of a grant to an account. -/
def granting (step : GrantStep) (account : String) (c : Call) : Attempt (Option c.Reply) :=
  .settled (.grant step) account identityErrors c

/-- One step of a revocation from an account. -/
def revoking (step : RevokeStep) (account : String) (c : Call) : Attempt (Option c.Reply) :=
  .settled (.revoke step) account identityErrors c

/-- Deletes keys of an account, one after the other. -/
def deleteKeys (delete : Call → Attempt Unit) (account : String) : List String → Attempt Unit
  | [] => return ()
  | key :: keys => do
    delete (.deleteAccessKey account key)
    deleteKeys delete account keys

/-- Makes an account that is already there ready for a grant. An account with the policy of another
bucket is refused, with the failure that told that it is there. -/
def adopt (bucket account : String) (taken : Failure) : Attempt Unit := do
  let policies : Option (List String) ←
    granting .listUserPolicies account (.listUserPolicies account)
  -- Only a policy under the bucket's own name leaves the account free for this grant.
  if (policies.getD []).any (· ≠ Policy.name bucket) then throw taken
  let keys : Option (List String) ← granting .listAccessKeys account (.listAccessKeys account)
  deleteKeys (fun c => do let _ ← granting .deleteStaleAccessKey account c) account (keys.getD [])

/-- Makes sure that there is a user for an account. -/
def ensureUser (bucket account : String) : Attempt Unit := do
  -- A failure does not end the grant here, because it may only say that the user is there.
  let created ← liftM (granting .createUser account (.createUser account)).run
  match created with
  | .ok _ => return ()
  | .error failure =>
    if failure.code = .alreadyExists then adopt bucket account failure else throw failure

/-- Gives an account a key for a bucket. -/
def grant (bucket account : String) (p : Parameters) : Attempt Credentials := do
  ensureUser bucket account
  let _ ← granting .putUserPolicy account
    (.putUserPolicy account (Policy.name bucket) (Policy.document bucket))
  let key : Option AccessKey ← granting .createAccessKey account (.createAccessKey account)
  match key with
  | some key => return .ofKey key p
  | none => throw (Action.grant .createAccessKey).failure

/-- Takes a grant away, with its user. -/
def revoke (bucket account : String) : Attempt Unit := do
  let user ← revoking .getUser account (.getUser account)
  -- Without a user there is nothing left to take away.
  if user.isNone then return ()
  let _ ← revoking .deleteUserPolicy account (.deleteUserPolicy account (Policy.name bucket))
  let keys : Option (List String) ← revoking .listAccessKeys account (.listAccessKeys account)
  deleteKeys (fun c => do let _ ← revoking .deleteAccessKey account c) account (keys.getD [])
  let _ ← revoking .deleteUser account (.deleteUser account)

end BucketDriver.Provision
