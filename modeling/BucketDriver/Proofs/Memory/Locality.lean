import BucketDriver.Proofs.Memory.Account
import BucketDriver.Proofs.Service.Resource

/-!
# Calls and what they are about

What a call to the memory store reads and writes lies under what it is about. It leaves everything
else, with any faults queued (`answer_sameAt`), and without faults its result and what it leaves
under its own resource depend on nothing else (`answer_agree`). Stores that are the same everywhere
are equal (`Store.ext_sameAt`), so states can be compared one resource at a time.
-/

namespace BucketDriver.Memory

namespace Store

variable {s s' s'' : Store} {r : Resource}

/-- Two stores have the same under a resource. -/
def SameAt (s s' : Store) : Resource → Prop
  | .bucket name => s'.buckets.get? name = s.buckets.get? name
  | .account name => s'.users.get? name = s.users.get? name

theorem SameAt.refl (s : Store) (r : Resource) : s.SameAt s r := by
  cases r <;> rfl

theorem SameAt.trans (h : s.SameAt s' r) (h' : s'.SameAt s'' r) : s.SameAt s'' r := by
  cases r with
  | bucket name => exact Eq.trans h' h
  | account name => exact Eq.trans h' h

theorem SameAt.symm (h : s.SameAt s' r) : s'.SameAt s r := by
  cases r with
  | bucket name => exact Eq.symm h
  | account name => exact Eq.symm h

/-- Stores with the same under every resource and with the same faults are equal. -/
theorem ext_sameAt (h : ∀ r, s.SameAt s' r) (hfaults : s'.faults = s.faults) : s' = s := by
  obtain ⟨buckets, users, faults⟩ := s
  obtain ⟨buckets', users', faults'⟩ := s'
  have hbuckets : buckets' = buckets := Dict.ext_get? fun name => h (.bucket name)
  have husers : users' = users := Dict.ext_get? fun name => h (.account name)
  subst hbuckets husers hfaults
  rfl

end Store

/-- What a call can do to what it is about. -/
inductive Write : Resource → Type where
  | keep (r : Resource) : Write r
  | setBucket (name : String) (record : BucketRecord) : Write (.bucket name)
  | dropBucket (name : String) : Write (.bucket name)
  | setUser (name : String) (record : UserRecord) : Write (.account name)
  | dropUser (name : String) : Write (.account name)

namespace Write

variable {r other : Resource} {s s' : Store}

/-- The store after it. -/
def apply : {r : Resource} → Write r → Store → Store
  | _, keep _, s => s
  | _, setBucket name record, s => s.setBucket name record
  | _, dropBucket name, s => s.dropBucket name
  | _, setUser name record, s => s.setUser name record
  | _, dropUser name, s => s.dropUser name

/-- The queues of faults are left. -/
@[simp] theorem faults_apply (w : Write r) (s : Store) : (w.apply s).faults = s.faults := by
  cases w <;> rfl

/-- What lies under other resources is left. -/
theorem apply_sameAt (w : Write r) (s : Store) (hother : other ≠ r) :
    s.SameAt (w.apply s) other := by
  cases w with
  | keep => exact .refl s other
  | setBucket name record =>
    cases other with
    | bucket n => exact (Dict.get?_insert _ _ _ _).trans (if_neg fun heq => hother (by rw [heq]))
    | account u => rfl
  | dropBucket name =>
    cases other with
    | bucket n => exact (Dict.get?_erase _ _ _).trans (if_neg fun heq => hother (by rw [heq]))
    | account u => rfl
  | setUser name record =>
    cases other with
    | bucket n => rfl
    | account u => exact Store.get?_setUser.trans (if_neg fun heq => hother (by rw [heq]))
  | dropUser name =>
    cases other with
    | bucket n => rfl
    | account u => exact Store.get?_dropUser.trans (if_neg fun heq => hother (by rw [heq]))

/-- Stores that are the same under the resource stay so. -/
theorem sameAt_apply (w : Write r) (h : s.SameAt s' r) : (w.apply s).SameAt (w.apply s') r := by
  cases w with
  | keep => exact h
  | setBucket name record =>
    exact (Dict.get?_insert_self _ _ _).trans (Dict.get?_insert_self _ _ _).symm
  | dropBucket name => exact (Dict.get?_erase_self _ _).trans (Dict.get?_erase_self _ _).symm
  | setUser name record => exact Store.get?_setUser_self.trans Store.get?_setUser_self.symm
  | dropUser name => exact Store.get?_dropUser_self.trans Store.get?_dropUser_self.symm

end Write

variable {caller : String} {c : Call} {r other : Resource} {s s' : State}

/-- A call for which no fault is queued writes at most what it is about, and what it writes there,
its result and the keys that it draws depend on what lies there and on the keys to come alone. -/
theorem perform_writes (caller : String) (hsame : s.store.SameAt s'.store c.resource)
    (hkeys : s'.keys = s.keys) :
    ∃ w : Write c.resource, (perform caller c s).2.store = w.apply s.store ∧
      (perform caller c s').2.store = w.apply s'.store ∧
      (perform caller c s').1 = (perform caller c s).1 ∧
      (perform caller c s').2.keys = (perform caller c s).2.keys := by
  have hlookup : ∀ name, c.resource = .bucket name →
      s'.store.buckets.get? name = s.store.buckets.get? name := by
    intro name hc
    rw [hc] at hsame
    exact hsame
  have hlookup' : ∀ name, c.resource = .account name →
      s'.store.users.get? name = s.store.users.get? name := by
    intro name hc
    rw [hc] at hsame
    exact hsame
  -- Every call looks up what it is about, and goes on by what it finds.
  cases c with
  | createBucket name location =>
    simp only [perform, hlookup name rfl]
    cases s.store.buckets.get? name with
    | none => exact ⟨.setBucket name ⟨caller, location⟩, rfl, rfl, rfl, hkeys⟩
    | some record => exact ⟨.keep _, rfl, rfl, rfl, hkeys⟩
  | deleteBucket name =>
    simp only [perform, hlookup name rfl]
    cases s.store.buckets.get? name with
    | none => exact ⟨.keep _, rfl, rfl, rfl, hkeys⟩
    | some record => exact ⟨.dropBucket name, rfl, rfl, rfl, hkeys⟩
  | createUser user =>
    simp only [perform, hlookup' user rfl]
    cases s.store.users.get? user with
    | none => exact ⟨.setUser user .new, rfl, rfl, rfl, hkeys⟩
    | some record => exact ⟨.keep _, rfl, rfl, rfl, hkeys⟩
  | getUser user | listUserPolicies user | listAccessKeys user =>
    simp only [perform, hlookup' user rfl]
    cases s.store.users.get? user with
    | none => exact ⟨.keep _, rfl, rfl, rfl, hkeys⟩
    | some record => exact ⟨.keep _, rfl, rfl, rfl, hkeys⟩
  | deleteUser user =>
    simp only [perform, hlookup' user rfl]
    cases s.store.users.get? user with
    | none => exact ⟨.keep _, rfl, rfl, rfl, hkeys⟩
    | some record =>
      dsimp only
      split
      · exact ⟨.dropUser user, rfl, rfl, rfl, hkeys⟩
      · exact ⟨.keep _, rfl, rfl, rfl, hkeys⟩
  | putUserPolicy user policy document =>
    simp only [perform, hlookup' user rfl]
    cases s.store.users.get? user with
    | none => exact ⟨.keep _, rfl, rfl, rfl, hkeys⟩
    | some record => exact ⟨.setUser user (record.withPolicy policy document), rfl, rfl, rfl, hkeys⟩
  | deleteUserPolicy user policy =>
    simp only [perform, hlookup' user rfl]
    cases s.store.users.get? user with
    | none => exact ⟨.keep _, rfl, rfl, rfl, hkeys⟩
    | some record =>
      dsimp only
      split
      · exact ⟨.setUser user (record.withoutPolicy policy), rfl, rfl, rfl, hkeys⟩
      · exact ⟨.keep _, rfl, rfl, rfl, hkeys⟩
  | createAccessKey user =>
    simp only [perform, hlookup' user rfl, hkeys]
    cases s.store.users.get? user with
    | none => exact ⟨.keep _, rfl, rfl, rfl, hkeys⟩
    | some record =>
      dsimp only
      split
      · exact ⟨.keep _, rfl, rfl, rfl, hkeys⟩
      · exact ⟨.setUser user (record.withKey (s.keys 0)), rfl, rfl, rfl, rfl⟩
  | deleteAccessKey user key =>
    simp only [perform, hlookup' user rfl]
    cases s.store.users.get? user with
    | none => exact ⟨.keep _, rfl, rfl, rfl, hkeys⟩
    | some record =>
      dsimp only
      split
      · exact ⟨.setUser user (record.withoutKey key), rfl, rfl, rfl, hkeys⟩
      · exact ⟨.keep _, rfl, rfl, rfl, hkeys⟩

/-- A call leaves what it is not about, with any faults queued. -/
theorem answer_sameAt (hc : c.About r) (hother : other ≠ r) :
    s.store.SameAt (answer caller c s).2.store other := by
  obtain rfl : c.resource = r := hc
  rcases answer_cases caller c s with ⟨code, s', ⟨rest, -, rfl⟩, hans⟩ | hans
  · rw [hans]
    cases other <;> rfl
  · obtain ⟨w, hstore, -⟩ := perform_writes caller (.refl s.store c.resource) rfl
    rw [hans, hstore]
    exact w.apply_sameAt s.store hother

/-- Without faults a call is performed. -/
theorem answer_of_faultFree (h : s.store.FaultFree) : answer caller c s = perform caller c s :=
  answer_of_none (h c.kind)

/-- Two states without faults, with the same under a resource and the same keys to come. -/
structure Agree (r : Resource) (s s' : State) : Prop where
  /-- What lies under the resource is the same. -/
  same : s.store.SameAt s'.store r
  /-- The keys to come are the same. -/
  keys : s'.keys = s.keys
  /-- No fault is queued in the one. -/
  left : s.store.FaultFree
  /-- Nor in the other. -/
  right : s'.store.FaultFree

/-- A call about the resource has the same result in both, and they agree afterwards. -/
theorem answer_agree (hc : c.About r) (h : Agree r s s') :
    (answer caller c s).1 = (answer caller c s').1 ∧
      Agree r (answer caller c s).2 (answer caller c s').2 := by
  obtain rfl : c.resource = r := hc
  obtain ⟨w, hstore, hstore', hresult, hkeys⟩ := perform_writes caller h.same h.keys
  rw [answer_of_faultFree h.left, answer_of_faultFree h.right]
  refine ⟨hresult.symm, ?_, hkeys, ?_, ?_⟩
  · rw [hstore, hstore']
    exact w.sameAt_apply h.same
  · rw [Store.FaultFree, hstore, w.faults_apply]
    exact h.left
  · rw [Store.FaultFree, hstore', w.faults_apply]
    exact h.right

end BucketDriver.Memory
