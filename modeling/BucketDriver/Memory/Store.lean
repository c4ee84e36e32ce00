import BucketDriver.Dict
import BucketDriver.Provider.Call

/-!
# The memory store

A provider that keeps buckets and users in memory. A bucket belongs to the key that created it; a
user has inline policies and at most two access keys, and cannot be deleted while it has any of
either. Faults can be queued per kind of call: the next call of that kind takes the first of them
before it looks at anything else, and fails with its code.

New keys come from a source given from outside; `answer` takes one only for a key that it creates.
-/

namespace BucketDriver.Memory

/-- What is known of a bucket. -/
structure BucketRecord where
  /-- The identifier of the key that created it. -/
  owner : String
  /-- Where it is, if that was asked for. -/
  location : Option String
  deriving DecidableEq, Repr

/-- What is known of a user. -/
structure UserRecord where
  /-- The documents of the inline policies, by name. -/
  policies : Dict String
  /-- The secrets of the access keys, by identifier. -/
  keys : Dict String
  deriving DecidableEq

namespace UserRecord

/-- A user with neither policies nor keys. -/
def new : UserRecord := ⟨.empty, .empty⟩

/-- The user with a policy, in place of one of that name. -/
def withPolicy (u : UserRecord) (policy document : String) : UserRecord :=
  { u with policies := u.policies.insert policy document }

/-- The user without a policy. -/
def withoutPolicy (u : UserRecord) (policy : String) : UserRecord :=
  { u with policies := u.policies.erase policy }

/-- The user with one more key. -/
def withKey (u : UserRecord) (key : AccessKey) : UserRecord :=
  { u with keys := u.keys.insert key.id key.secret }

/-- The user without a key. -/
def withoutKey (u : UserRecord) (keyId : String) : UserRecord :=
  { u with keys := u.keys.erase keyId }

end UserRecord

/-- The contents of the store. -/
structure Store where
  /-- The buckets, by name. -/
  buckets : Dict BucketRecord
  /-- The users, by name. -/
  users : Dict UserRecord
  /-- The codes of the faults still to come, for each kind of call. -/
  faults : CallKind → List String

/-- New keys, one after the other. -/
abbrev KeySource := Nat → AccessKey

/-- A store with the keys it will give out. -/
structure State where
  /-- The store. -/
  store : Store
  /-- The keys to come. -/
  keys : KeySource

/-- The store without contents. -/
def Store.empty : Store := ⟨.empty, .empty, fun _ => []⟩

/-- The most keys that a user may have. -/
def maxKeys : Nat := 2

namespace Store

/-- The store with the faults of one kind of calls replaced. -/
def setFaults (s : Store) (kind : CallKind) (codes : List String) : Store :=
  { s with faults := fun k => if k = kind then codes else s.faults k }

/-- Queues a fault behind those that are to come. -/
def failNext (s : Store) (kind : CallKind) (code : String) : Store :=
  s.setFaults kind (s.faults kind ++ [code])

/-- The store with a bucket's record replaced. -/
def setBucket (s : Store) (bucket : String) (record : BucketRecord) : Store :=
  { s with buckets := s.buckets.insert bucket record }

/-- The store without a bucket. -/
def dropBucket (s : Store) (bucket : String) : Store :=
  { s with buckets := s.buckets.erase bucket }

/-- The store with a user's record replaced. -/
def setUser (s : Store) (user : String) (record : UserRecord) : Store :=
  { s with users := s.users.insert user record }

/-- The store without a user. -/
def dropUser (s : Store) (user : String) : Store :=
  { s with users := s.users.erase user }

/-- Whether a bucket exists. -/
def bucketExists (s : Store) (bucket : String) : Bool :=
  s.buckets.contains bucket

/-- The location of a bucket, if it has one. -/
def bucketLocation (s : Store) (bucket : String) : Option String :=
  (s.buckets.get? bucket).bind (·.location)

/-- Whether a user exists. -/
def userExists (s : Store) (user : String) : Bool :=
  s.users.contains user

/-- The document of a user's policy. -/
def userPolicy (s : Store) (user policy : String) : Option String :=
  (s.users.get? user).bind (·.policies.get? policy)

/-- The identifiers of a user's keys; none for a user that does not exist. -/
def accessKeyIds (s : Store) (user : String) : List String :=
  ((s.users.get? user).map (·.keys.keys)).getD []

end Store

/-- The error of a fault. -/
def injected (code : String) (kind : CallKind) : ProviderError :=
  .withCode code ("injected " ++ code ++ " for " ++ kind.name)

/-- The error of a call for a user that does not exist. -/
def noSuchUser (user : String) : ProviderError :=
  .withCode "NoSuchEntity" ("the user with name " ++ user ++ " cannot be found")

/-- The error of creating a bucket that exists. -/
def bucketTaken (existing : BucketRecord) (caller bucket : String) : ProviderError :=
  .withCode (if existing.owner = caller then "BucketAlreadyOwnedByYou" else "BucketAlreadyExists")
    ("bucket " ++ bucket ++ " already exists")

/-- Answers a call that no fault is queued for, on behalf of the key of the caller. -/
def perform (caller : String) (c : Call) (s : State) : c.Result × State :=
  let store := s.store
  match c with
  | .createBucket bucket location =>
    match store.buckets.get? bucket with
    | some existing => (.error (bucketTaken existing caller bucket), s)
    | none =>
      (.ok (), { s with store := store.setBucket bucket ⟨caller, location⟩ })
  | .deleteBucket bucket =>
    match store.buckets.get? bucket with
    | some _ => (.ok (), { s with store := store.dropBucket bucket })
    | none =>
      (.error (.withCode "NoSuchBucket"
        ("the specified bucket " ++ bucket ++ " does not exist")), s)
  | .createUser user =>
    match store.users.get? user with
    | some _ =>
      (.error (.withCode "EntityAlreadyExists" ("user with name " ++ user ++ " already exists")), s)
    | none => (.ok (), { s with store := store.setUser user .new })
  | .getUser user =>
    match store.users.get? user with
    | some _ => (.ok (), s)
    | none => (.error (noSuchUser user), s)
  | .deleteUser user =>
    match store.users.get? user with
    | none => (.error (noSuchUser user), s)
    | some record =>
      -- A user with policies or keys stays.
      if record.policies.isEmpty && record.keys.isEmpty then
        (.ok (), { s with store := store.dropUser user })
      else
        (.error (.withCode "DeleteConflict"
          ("user " ++ user ++ " still has attached policies or access keys")), s)
  | .putUserPolicy user policy document =>
    match store.users.get? user with
    | none => (.error (noSuchUser user), s)
    | some record =>
      (.ok (), { s with store := store.setUser user (record.withPolicy policy document) })
  | .deleteUserPolicy user policy =>
    match store.users.get? user with
    | none => (.error (noSuchUser user), s)
    | some record =>
      if record.policies.contains policy then
        (.ok (), { s with store := store.setUser user (record.withoutPolicy policy) })
      else
        (.error (.withCode "NoSuchEntity"
          ("policy " ++ policy ++ " is not attached to user " ++ user)), s)
  | .listUserPolicies user =>
    match store.users.get? user with
    | none => (.error (noSuchUser user), s)
    | some record => (.ok record.policies.keys, s)
  | .createAccessKey user =>
    match store.users.get? user with
    | none => (.error (noSuchUser user), s)
    | some record =>
      if maxKeys ≤ record.keys.size then
        (.error (.withCode "LimitExceeded"
          ("cannot exceed quota for AccessKeysPerUser: " ++ Decimal.natText maxKeys)), s)
      else
        -- Only here is a new key used up.
        let key := s.keys 0
        (.ok key, ⟨store.setUser user (record.withKey key), fun n => s.keys (n + 1)⟩)
  | .listAccessKeys user =>
    match store.users.get? user with
    | none => (.error (noSuchUser user), s)
    | some record => (.ok record.keys.keys, s)
  | .deleteAccessKey user keyId =>
    match store.users.get? user with
    | none => (.error (noSuchUser user), s)
    | some record =>
      if record.keys.contains keyId then
        (.ok (), { s with store := store.setUser user (record.withoutKey keyId) })
      else
        (.error (.withCode "NoSuchEntity" ("access key " ++ keyId ++ " does not exist")), s)

/-- Answers a call on behalf of the key of the caller: with the first fault queued for its kind,
which is then gone, or by performing it. -/
def answer (caller : String) : Handler State := fun c s =>
  match s.store.faults c.kind with
  | code :: rest =>
    (.error (injected code c.kind), { s with store := s.store.setFaults c.kind rest })
  | [] => perform caller c s

end BucketDriver.Memory
