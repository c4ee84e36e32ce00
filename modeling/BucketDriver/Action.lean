/-!
# Actions

What the driver is doing when it calls the provider: creating or deleting a bucket, or one step of
granting or revoking access to one. The action decides whether an absent resource counts as done
(`Action.toleratesAbsence`) and what the messages about it say.
-/

namespace BucketDriver

/-- The steps of a grant. -/
inductive GrantStep where
  | createUser
  | listUserPolicies
  | listAccessKeys
  | deleteStaleAccessKey
  | putUserPolicy
  | createAccessKey
  deriving DecidableEq, Repr

/-- The steps of a revocation. -/
inductive RevokeStep where
  | getUser
  | deleteUserPolicy
  | listAccessKeys
  | deleteAccessKey
  | deleteUser
  deriving DecidableEq, Repr

/-- What a provider call is made for. -/
inductive Action where
  | createBucket
  | deleteBucket
  | grant (step : GrantStep)
  | revoke (step : RevokeStep)
  deriving DecidableEq, Repr

namespace Action

/-- Deleting something that is already gone counts as done for these. -/
def toleratesAbsence : Action → Bool
  | deleteBucket | revoke _ | grant .deleteStaleAccessKey => true
  | createBucket | grant _ => false

/-- The kind of resource that an action is about. -/
def resourceKind : Action → String
  | createBucket | deleteBucket => "bucket"
  | grant _ | revoke _ => "user"

/-- An action in words. -/
def text : Action → String
  | createBucket => "create bucket"
  | deleteBucket => "delete bucket"
  | grant .createUser => "grant bucket access (create user)"
  | grant .listUserPolicies => "grant bucket access (inspect existing user)"
  | grant .listAccessKeys => "grant bucket access (list access keys)"
  | grant .deleteStaleAccessKey => "grant bucket access (delete stale access key)"
  | grant .putUserPolicy => "grant bucket access (attach policy)"
  | grant .createAccessKey => "grant bucket access (create access key)"
  | revoke .getUser => "revoke bucket access (get user)"
  | revoke .deleteUserPolicy => "revoke bucket access (delete policy)"
  | revoke .listAccessKeys => "revoke bucket access (list access keys)"
  | revoke .deleteAccessKey => "revoke bucket access (delete access key)"
  | revoke .deleteUser => "revoke bucket access (delete user)"

end Action

end BucketDriver
