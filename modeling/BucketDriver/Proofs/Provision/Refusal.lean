import BucketDriver.Proofs.Memory.KeyLedger
import BucketDriver.Proofs.Provision.Grant

/-!
# What a failed grant leaves behind

A grant takes nothing back when one of its calls fails, so what it has done by then stays. `Bounded`
says how little that can be: no user is gone, no key is new, and the account's policies are those of
before, with the bucket's own put in place or not. An account with the policy of another bucket is
refused before anything is written, whatever faults there are (`refused_of_not_freeFor`). Both come
from what `Refused` says of the ways in which a grant fails: `failed_grant_bounded`.
-/

namespace BucketDriver.Memory

/-- The documents of a user's inline policies, by name; none for a user that does not exist. -/
def Store.policiesOf (s : Store) (user : String) : Dict String :=
  ((s.users.get? user).map (·.policies)).getD .empty

namespace Store

variable {s s' : Store} {user : String}

/-- What there is of a user's policies is in the record of the user. -/
theorem policiesOf_eq (s : Store) (user : String) :
    s.policiesOf user = ((s.users.get? user).getD .new).policies := by
  unfold policiesOf
  cases s.users.get? user <;> rfl

/-- What there is of a user's keys is in the record of the user. -/
theorem keysOf_eq (s : Store) (user : String) :
    s.keysOf user = ((s.users.get? user).getD .new).keys := by
  unfold keysOf
  cases s.users.get? user <;> rfl

end Store

/-- Where nothing but one user differs, and that user neither, the users are the same. -/
theorem Confined.users_eq {user : String} {s s' : Store} (h : Confined user s s')
    (huser : s'.users.get? user = s.users.get? user) : s'.users = s.users := by
  refine Dict.ext_get? fun v => ?_
  by_cases hv : v = user
  · rw [hv, huser]
  · exact h.others v hv

end BucketDriver.Memory

namespace BucketDriver.Provision

open Memory (State Store UserRecord answer)

/-- The most that a failed grant of a bucket to an account can have changed. -/
structure Bounded (bucket account : String) (s s' : Store) : Prop where
  /-- No user is gone. -/
  users : ∀ user, s.userExists user = true → s'.userExists user = true
  /-- Nobody has a key that they did not have before. -/
  keys : ∀ user, s'.keysOf user ⊆ s.keysOf user
  /-- The account has the policies of before, or also the bucket's own. -/
  policies : s'.policiesOf account = s.policiesOf account ∨
    s'.policiesOf account =
      (s.policiesOf account).insert (Policy.name bucket) (Policy.document bucket)

variable {caller bucket account : String} {s s' : State} {p : Parameters} {f : Failure}

/-- An account is not free for a bucket when it has a policy of another name. -/
theorem not_freeFor_iff :
    ¬ FreeFor bucket (s.store.users.get? account) ↔
      ∃ name ∈ (s.store.policiesOf account).keys, name ≠ Policy.name bucket := by
  rw [Store.policiesOf_eq]
  cases s.store.users.get? account with
  | none =>
    refine iff_of_false (fun hfree => hfree fun r hr => nomatch hr) ?_
    rintro ⟨name, hname, -⟩
    cases hname
  | some r => simp [FreeFor]

namespace Refused

/-- A failed grant leaves the account as it was, or one with a part of its keys, and with its
policies or also the bucket's own. -/
theorem account_cases (h : Refused bucket account s s' f) :
    s'.store.users.get? account = s.store.users.get? account ∨
      ∃ r r', Ready bucket (s.store.users.get? account) r ∧
        s'.store.users.get? account = some r' ∧ r'.keys = r.keys ∧
        (r' = r ∨ r' = attached bucket r) := by
  rcases h.record with (hsame | ⟨r, hready, hu⟩) | ⟨r, hready, hu, -⟩
  · exact .inl hsame
  · exact .inr ⟨r, r, hready, hu, rfl, .inl rfl⟩
  · exact .inr ⟨r, attached bucket r, hready, hu, rfl, .inr rfl⟩

/-- No user is gone after a failed grant. -/
theorem userExists (h : Refused bucket account s s' f) {user : String}
    (huser : s.store.userExists user = true) : s'.store.userExists user = true := by
  unfold Store.userExists Dict.contains at huser ⊢
  by_cases hu : user = account
  · subst hu
    rcases h.account_cases with hsame | ⟨r, r', -, hnew, -⟩
    · rw [hsame]
      exact huser
    · rw [hnew]
      rfl
  · rw [h.others user hu]
    exact huser

/-- No key is new after a failed grant. -/
theorem keysOf_subset (h : Refused bucket account s s' f) (user : String) :
    s'.store.keysOf user ⊆ s.store.keysOf user := by
  rw [Store.keysOf_eq, Store.keysOf_eq]
  by_cases hu : user = account
  · subst hu
    rcases h.account_cases with hsame | ⟨r, r', hready, hnew, hkeys, -⟩
    · rw [hsame]
      exact Dict.subset_refl _
    · rw [hnew, Option.getD_some, hkeys]
      exact hready.keys
  · rw [h.others user hu]
    exact Dict.subset_refl _

/-- After a failed grant the account has its policies, or also the bucket's own. -/
theorem policiesOf_cases (h : Refused bucket account s s' f) :
    s'.store.policiesOf account = s.store.policiesOf account ∨
      s'.store.policiesOf account =
        (s.store.policiesOf account).insert (Policy.name bucket) (Policy.document bucket) := by
  rw [Store.policiesOf_eq, Store.policiesOf_eq]
  rcases h.account_cases with hsame | ⟨r, r', hready, hnew, -, rfl | rfl⟩
  · exact .inl (by rw [hsame])
  · refine .inl ?_
    rw [hnew]
    exact hready.policies
  · refine .inr ?_
    rw [hnew, ← hready.policies]
    rfl

theorem bounded (h : Refused bucket account s s' f) : Bounded bucket account s.store s'.store :=
  ⟨fun _ huser => h.userExists huser, h.keysOf_subset, h.policiesOf_cases⟩

/-- An account that is not free is left as it was: a grant makes nothing of it ready. -/
theorem users_eq (h : Refused bucket account s s' f)
    (hfree : ¬ FreeFor bucket (s.store.users.get? account)) : s'.store.users = s.store.users := by
  rcases h.account_cases with hsame | ⟨r, r', hready, -⟩
  · exact h.toConfined.users_eq hsame
  · exact absurd hready.free hfree

end Refused

/-- A grant fails for an account that is not free for the bucket, and leaves all users and buckets
as they were, with any faults queued. -/
theorem refused_of_not_freeFor (hfree : ¬ FreeFor bucket (s.store.users.get? account)) :
    ∃ f s', Program.run (answer caller) (grant bucket account p).run s = (.error f, s') ∧
      s'.store.users = s.store.users ∧ s'.store.buckets = s.store.buckets := by
  -- A grant ends in one of two ways, and only a free account can be granted anything.
  rcases hrun : Program.run (answer caller) (grant bucket account p).run s with ⟨f | c, s'⟩
  · have hrefused := grant_ensures.of_run_error hrun
    exact ⟨f, s', rfl, hrefused.users_eq hfree, hrefused.buckets⟩
  · have hgranted := grant_ensures.of_run_ok hrun
    obtain ⟨r, hready, -⟩ := hgranted.record
    exact absurd hready.free hfree

/-- A failed grant does bounded damage. From any state, with any faults queued: when a grant fails,
no user is gone, nobody has a new key, so the account has a part of its keys, and the account's
policies are those of before or those with the bucket's own put in place. And when the account had
an inline policy of another name, a grant fails in any case and leaves all users and all buckets
exactly as they were. -/
theorem failed_grant_bounded :
    (∀ f s', Program.run (answer caller) (grant bucket account p).run s = (.error f, s') →
      Bounded bucket account s.store s'.store) ∧
    ((∃ name ∈ (s.store.policiesOf account).keys, name ≠ Policy.name bucket) →
      ∃ f s', Program.run (answer caller) (grant bucket account p).run s = (.error f, s') ∧
        s'.store.users = s.store.users ∧ s'.store.buckets = s.store.buckets) := by
  refine ⟨fun f s' hrun => ?_, fun hforeign => refused_of_not_freeFor (not_freeFor_iff.2 hforeign)⟩
  have hrefused := grant_ensures.of_run_error hrun
  exact hrefused.bounded

/-- A state with an account `u` that has an old policy of the bucket `b` and two keys, with a fault
that says of the first key that it is gone, and one that keeps a new key from being created. -/
def interrupted : State :=
  ⟨⟨.empty,
      .ofList [("u", ⟨.ofList [(Policy.name "b", "")], .ofList [("k1", "s1"), ("k2", "s2")]⟩)],
      fun kind => match kind with
        | .deleteAccessKey => ["NoSuchEntity"]
        | .createAccessKey => ["Throttling"]
        | _ => []⟩,
    fun n => ⟨"new" ++ n.repr, "secret"⟩⟩

/-- A state with an account `u` that has the policies of two buckets, and with a fault that says
that the account is there. -/
def contested : State :=
  ⟨⟨.empty,
      .ofList [("u", ⟨.ofList [(Policy.name "a", ""), (Policy.name "b", "")], .ofList [("k", "s")]⟩)],
      fun kind => if kind = .createUser then ["EntityAlreadyExists"] else []⟩,
    fun n => ⟨"new" ++ n.repr, "secret"⟩⟩

/-- A grant that is broken off between two keys and its own leaves one of the keys and the policy,
and one for an account with the policy of another bucket leaves everything. -/
theorem failed_grant_bounded_interrupted :
    (∃ f s', Program.run (answer "AK") (grant "b" "u" sample).run interrupted = (.error f, s') ∧
      (s'.store.keysOf "u").entries = [("k1", "s1")] ∧
      (s'.store.policiesOf "u").entries = [(Policy.name "b", Policy.document "b")] ∧
      Bounded "b" "u" interrupted.store s'.store) ∧
    (∃ name ∈ (contested.store.policiesOf "u").keys, name ≠ Policy.name "b") ∧
    ∃ f s', Program.run (answer "AK") (grant "b" "u" sample).run contested = (.error f, s') ∧
      s'.store.users = contested.store.users ∧ s'.store.buckets = contested.store.buckets := by
  have hrun : ∃ f s', Program.run (answer "AK") (grant "b" "u" sample).run interrupted =
      (.error f, s') ∧ (s'.store.keysOf "u").entries = [("k1", "s1")] ∧
      (s'.store.policiesOf "u").entries = [(Policy.name "b", Policy.document "b")] :=
    ⟨_, _, rfl, rfl, rfl⟩
  have hforeign : ∃ name ∈ (contested.store.policiesOf "u").keys, name ≠ Policy.name "b" :=
    ⟨Policy.name "a", List.mem_cons_self, by decide⟩
  obtain ⟨f, s', hrun, hkeys, hpolicies⟩ := hrun
  exact ⟨⟨f, s', hrun, hkeys, hpolicies, failed_grant_bounded.1 f s' hrun⟩, hforeign,
    failed_grant_bounded.2 hforeign⟩

end BucketDriver.Provision
