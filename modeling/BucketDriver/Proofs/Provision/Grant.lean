import BucketDriver.Proofs.Provision.Keys

/-!
# What a grant leaves of an account

A grant makes an account ready, gives it the bucket's policy and draws a key. An account is ready
(`Ready`) when it was free for the bucket before (`FreeFor`: it holds no inline policy but the
bucket's own) and since then has lost nothing but keys. `grant_ensures` is the specification of a
grant against the memory store with any faults queued: what the account is when the grant succeeds,
what it can be when it fails, and that it fails without a fault only when the account is not free.

The main result about success is `grant_ok_effect`: no grant is reported that is not there.
-/

namespace BucketDriver.Provision

open Attempt (Ensures)
open Memory (State UserRecord SameBut Confined Faulted answer)
open Memory.Store (TookOnly TookNone TookNoAbsence)

/-- The calls that a grant makes. -/
def grantKinds : List CallKind :=
  [.createUser, .listUserPolicies, .listAccessKeys, .deleteAccessKey, .putUserPolicy,
    .createAccessKey]

/-- An account, if it exists, holds no inline policy but the bucket's own. -/
def FreeFor (bucket : String) (before : Option UserRecord) : Prop :=
  ∀ r, before = some r → ∀ name ∈ r.policies.keys, name = Policy.name bucket

/-- A record is that of an account made ready for a grant: the account was free for the bucket, and
has lost nothing but keys; an account that did not exist has neither policies nor keys. -/
structure Ready (bucket : String) (before : Option UserRecord) (r : UserRecord) : Prop where
  /-- The account was free for the bucket. -/
  free : FreeFor bucket before
  /-- The policies are the same. -/
  policies : r.policies = (before.getD .new).policies
  /-- No key is new. -/
  keys : r.keys ⊆ (before.getD .new).keys

/-- The account with the policy of a bucket. -/
def attached (bucket : String) (r : UserRecord) : UserRecord :=
  r.withPolicy (Policy.name bucket) (Policy.document bucket)

variable {caller bucket account : String} {s : State} {p : Parameters}

/-- A ready account holds no inline policy but the bucket's own. -/
theorem Ready.free_self {before : Option UserRecord} {r : UserRecord} (h : Ready bucket before r) :
    FreeFor bucket (some r) := by
  rintro _ ⟨⟩ name hname
  rw [h.policies] at hname
  cases before with
  | none => cases hname
  | some old => exact h.free old rfl name hname

/-- With the policy attached, a ready account holds that policy and no other. -/
theorem Ready.attached_policies {before : Option UserRecord} {r : UserRecord}
    (h : Ready bucket before r) :
    (attached bucket r).policies.entries = [(Policy.name bucket, Policy.document bucket)] := by
  have hsole := Dict.insert_eq_insert_empty (v := Policy.document bucket) (h.free_self r rfl)
  unfold attached UserRecord.withPolicy
  dsimp only
  rw [hsole]
  rfl

/-- An account is free for a bucket when none of its listed policies has another name. -/
theorem freeFor_some_iff {r : UserRecord} :
    FreeFor bucket (some r) ↔ ¬ r.policies.keys.any (· ≠ Policy.name bucket) = true := by
  simp [FreeFor]

/-- What is left of an account that a grant was refused or could not get ready. -/
def Kept (bucket account : String) (s s' : State) : Prop :=
  s'.store.users.get? account = s.store.users.get? account ∨
    ∃ r, Ready bucket (s.store.users.get? account) r ∧ s'.store.users.get? account = some r

/-- A call of a grant that takes a fault leaves the account. -/
theorem kept_of_faulted {kind : CallKind} {code : String} {s' : State}
    (h : Faulted kind code s s') : Kept bucket account s s' :=
  .inl (by rw [h.users])

/-- An account that is there is made ready, or is left with a part of its keys. Without faults only
an account that is not there or not free is refused. -/
theorem adopt_ensures (taken : Failure) :
    Ensures (answer caller) (adopt bucket account taken) s
      (fun _ s' => SameBut account s s' ∧ ∃ r, Ready bucket (s.store.users.get? account) r ∧
        s'.store.users.get? account = some r ∧
        (TookNoAbsence [.deleteAccessKey] s.store s'.store → r.keys = .empty))
      (fun f s' => SameBut account s s' ∧ Kept bucket account s s' ∧
        (TookNone grantKinds s.store s'.store → s.store.users.get? account = none ∨
          ¬ FreeFor bucket (s.store.users.get? account) ∧ f = taken)) := by
  unfold adopt granting
  refine Ensures.bind (Memory.listUserPolicies_ensures rfl) ?_ ?_
  · rintro policies s₁ ⟨old, hold, rfl, rfl⟩
    dsimp only [Option.getD_some]
    split
    case isTrue hany =>
      refine Ensures.throw_bind_iff.2 ⟨.refl account s₁, .inl rfl, fun _ => .inr ⟨?_, rfl⟩⟩
      rw [hold]
      exact fun hfree => freeFor_some_iff.1 hfree hany
    case isFalse hany =>
      have hfree : FreeFor bucket (s₁.store.users.get? account) := by
        rw [hold]
        exact freeFor_some_iff.2 hany
      have hready : ∀ kept, kept ⊆ old.keys →
          Ready bucket (s₁.store.users.get? account) { old with keys := kept } := by
        intro kept hkept
        refine ⟨hfree, ?_, ?_⟩ <;> rw [hold]
        · rfl
        · exact hkept
      refine Ensures.bind (Memory.listAccessKeys_ensures rfl) ?_ ?_
      · rintro keys s₂ ⟨_, hold', rfl, rfl⟩
        obtain rfl : old = _ := Option.some.inj (hold.symm.trans hold')
        dsimp only [Option.getD_some]
        refine (deleteKeys_ensures rfl _ old hold).mono ?_ ?_
        · rintro - s' ⟨hsame, kept, hkept, hu, hgone⟩
          refine ⟨hsame, _, hready kept hkept, hu, fun htook => ?_⟩
          exact Dict.eq_empty_of_subset hkept (hgone htook)
        · rintro f s' ⟨hsame, kept, hkept, hu, htook⟩
          refine ⟨hsame, .inr ⟨_, hready kept hkept, hu⟩, fun hnone => ?_⟩
          exact absurd (hnone.of_subset (by decide)) htook
      · rintro f s' (⟨rfl, hnone⟩ | ⟨code, hfault⟩)
        · exact ⟨.refl account s', .inl rfl, fun _ => .inl hnone⟩
        · exact ⟨.of_faulted account hfault, kept_of_faulted hfault,
            fun hnone => (hfault.of_tookOnly (by decide) hnone).elim⟩
  · rintro f s' (⟨rfl, hnone⟩ | ⟨code, hfault⟩)
    · exact ⟨.refl account s', .inl rfl, fun _ => .inl hnone⟩
    · exact ⟨.of_faulted account hfault, kept_of_faulted hfault,
        fun hnone => (hfault.of_tookOnly (by decide) hnone).elim⟩

/-- A user is created, or one that is there is adopted: the account is made ready, or is left with a
part of its keys. Without faults only an account that is not free is refused, because it is there.
-/
theorem ensureUser_ensures :
    Ensures (answer caller) (ensureUser bucket account) s
      (fun _ s' => SameBut account s s' ∧ ∃ r, Ready bucket (s.store.users.get? account) r ∧
        s'.store.users.get? account = some r ∧
        (TookNoAbsence [.deleteAccessKey] s.store s'.store → r.keys = .empty))
      (fun f s' => SameBut account s s' ∧ Kept bucket account s s' ∧
        (TookNone grantKinds s.store s'.store →
          ¬ FreeFor bucket (s.store.users.get? account) ∧ f.code = .alreadyExists)) := by
  unfold ensureUser granting
  refine Ensures.bind_run (Memory.createUser_ensures rfl) ?_ ?_
  · rintro - s₁ ⟨hnone, rfl⟩
    refine Ensures.pure_iff.2 ⟨.setUser _ _ _, .new, ⟨?_, ?_, ?_⟩, ?_, fun _ => rfl⟩
    · rw [hnone]
      intro r hr
      cases hr
    · rw [hnone]
      rfl
    · exact Dict.empty_subset _
    · exact Memory.Store.get?_setUser_self
  · rintro f s₁ (⟨rfl, ⟨old, hold⟩, hcode⟩ | ⟨code, hfault⟩)
    · dsimp only
      rw [if_pos hcode]
      refine (adopt_ensures f).mono (fun _ s' h => h) ?_
      rintro f' s' ⟨hsame, hkept, hwhy⟩
      refine ⟨hsame, hkept, fun htook => ?_⟩
      rcases hwhy htook with hnone | ⟨hfree, rfl⟩
      · rw [hold] at hnone
        cases hnone
      · exact ⟨hfree, hcode⟩
    · have hsame₁ := SameBut.of_faulted account hfault
      dsimp only
      split
      case isTrue hcode =>
        -- The fault claims that the user is there, and the listing tells whether it is.
        refine (adopt_ensures f).mono ?_ ?_
        · rintro - s' ⟨hsame, r, hready, hu, hgone⟩
          rw [hfault.users] at hready
          refine ⟨hsame₁.trans hsame, r, hready, hu, fun htook => ?_⟩
          exact hgone (htook.right hsame₁.spends hsame.spends)
        · rintro f' s' ⟨hsame, hkept, -⟩
          rw [Kept, hfault.users] at hkept
          refine ⟨hsame₁.trans hsame, hkept, fun htook => ?_⟩
          have hleft := htook.left hsame₁.spends hsame.spends
          exact (hfault.of_tookOnly (by decide) hleft).elim
      case isFalse =>
        refine Ensures.throw_iff.2 ⟨hsame₁, kept_of_faulted hfault, fun htook => ?_⟩
        exact (hfault.of_tookOnly (by decide) htook).elim

/-- What a successful grant makes of an account, and what credentials it gives: a ready account gets
the bucket's policy and the next key of the source. -/
structure Granted (bucket account : String) (p : Parameters) (s s' : State) (c : Credentials) :
    Prop extends Confined account s.store s'.store where
  /-- The credentials are of the next key. -/
  credentials : c = .ofKey (s.keys 0) p
  /-- One key was drawn. -/
  keys : s'.keys = fun n => s.keys (n + 1)
  /-- The account has the policy and the key, and no key of before unless a fault said so. -/
  record : ∃ r, Ready bucket (s.store.users.get? account) r ∧
    s'.store.users.get? account = some ((attached bucket r).withKey (s.keys 0)) ∧
    (TookNoAbsence [.deleteAccessKey] s.store s'.store → r.keys = .empty)

/-- What a failed grant can leave of an account: a part of its keys, or also the bucket's policy. -/
structure Refused (bucket account : String) (s s' : State) (f : Failure) : Prop
    extends SameBut account s s' where
  /-- The account is left, or was made ready, or also has the policy, and then no key of before
  unless a fault said so. -/
  record : Kept bucket account s s' ∨ ∃ r, Ready bucket (s.store.users.get? account) r ∧
    s'.store.users.get? account = some (attached bucket r) ∧
    (TookNoAbsence [.deleteAccessKey] s.store s'.store → r.keys = .empty)
  /-- Without faults only an account that is not free is refused, because it is there. -/
  cause : TookNone grantKinds s.store s'.store →
    ¬ FreeFor bucket (s.store.users.get? account) ∧ f.code = .alreadyExists

/-- The last step of a grant, from an account with the policy attached. -/
theorem createKey_ensures {s₂ : State} {r : UserRecord} (hsame : SameBut account s s₂)
    (hready : Ready bucket (s.store.users.get? account) r)
    (hu : s₂.store.users.get? account = some (attached bucket r))
    (hgone : TookNoAbsence [.deleteAccessKey] s.store s₂.store → r.keys = .empty) :
    Ensures (answer caller) (do
        let key : Option AccessKey ← granting .createAccessKey account (.createAccessKey account)
        match key with
        | some key => return Credentials.ofKey key p
        | none => throw (Action.grant .createAccessKey).failure) s₂
      (fun c s' => Granted bucket account p s s' c) (fun f s' => Refused bucket account s s' f) := by
  unfold granting
  refine Ensures.bind (Memory.createAccessKey_ensures rfl) ?_ ?_
  · rintro - s₃ ⟨rfl, r', hr', rfl⟩
    obtain rfl : attached bucket r = r' := Option.some.inj (hu.symm.trans hr')
    have hconf := Confined.setUser account s₂.store ((attached bucket r).withKey (s₂.keys 0))
    refine Ensures.pure_iff.2 ⟨hsame.toConfined.trans hconf, ?_, ?_, r, hready, ?_, fun htook => ?_⟩
    · rw [hsame.keys]
    · dsimp only
      rw [hsame.keys]
    · rw [← hsame.keys]
      exact Memory.Store.get?_setUser_self
    · exact hgone (htook.left hsame.spends hconf.spends)
  · rintro f s' (⟨rfl, hfull⟩ | ⟨code, hfault⟩)
    · refine ⟨hsame, .inr ⟨r, hready, hu, hgone⟩, fun htook => ?_⟩
      -- Without faults no key was left, so there was room for one.
      have hsize := hfull _ hu
      have hempty : (attached bucket r).keys = .empty :=
        hgone (TookOnly.of_none (htook.of_subset (by decide)))
      rw [hempty] at hsize
      exact absurd hsize (by decide)
    · have hsame' := SameBut.of_faulted account hfault
      refine ⟨hsame.trans hsame', .inr ⟨r, hready, ?_, fun htook => ?_⟩, fun htook => ?_⟩
      · rw [hfault.users]
        exact hu
      · exact hgone (htook.left hsame.spends hsame'.spends)
      · have hright := htook.right hsame.spends hsame'.spends
        exact (hfault.of_tookOnly (by decide) hright).elim

/-- The specification of a grant, with any faults queued. -/
theorem grant_ensures :
    Ensures (answer caller) (grant bucket account p) s
      (fun c s' => Granted bucket account p s s' c)
      (fun f s' => Refused bucket account s s' f) := by
  unfold grant
  refine Ensures.bind ensureUser_ensures ?_ ?_
  · rintro - s₁ ⟨hsame₁, r, hready, hu₁, hgone⟩
    unfold granting
    refine Ensures.bind (Memory.putUserPolicy_ensures rfl) ?_ ?_
    · rintro - s₂ ⟨r', hr', -, rfl⟩
      obtain rfl : r = r' := Option.some.inj (hu₁.symm.trans hr')
      have hput := SameBut.setUser account s₁ (attached bucket r)
      refine createKey_ensures (hsame₁.trans hput) hready Memory.Store.get?_setUser_self ?_
      exact fun htook => hgone (htook.left hsame₁.spends hput.spends)
    · rintro f s' (⟨rfl, hnone⟩ | ⟨code, hfault⟩)
      · rw [hu₁] at hnone
        cases hnone
      · have hsame := SameBut.of_faulted account hfault
        refine ⟨hsame₁.trans hsame, .inl (.inr ⟨r, hready, ?_⟩), fun htook => ?_⟩
        · rw [hfault.users]
          exact hu₁
        · have hright := htook.right hsame₁.spends hsame.spends
          exact (hfault.of_tookOnly (by decide) hright).elim
  · rintro f s' ⟨hsame, hkept, hcause⟩
    exact ⟨hsame, .inl hkept, hcause⟩

/-- No grant is reported that is not there. From any state, with any faults queued: when a grant
gives credentials, the account exists, holds the policy of the bucket and no other, and has the key
of the credentials, which are for the endpoint and the region of the parameters. It has no other key
unless a fault said that an old one was gone. -/
theorem grant_ok_effect {s' : State} {c : Credentials}
    (hrun : Program.run (answer caller) (grant bucket account p).run s = (.ok c, s')) :
    ∃ r, s'.store.users.get? account = some r ∧
      r.policies.entries = [(Policy.name bucket, Policy.document bucket)] ∧
      r.keys.get? c.key.id = some c.key.secret ∧
      c.endpoint = p.endpoint ∧ c.region = p.region ∧
      ((∀ code ∈ s.store.taken s'.store .deleteAccessKey, ¬ IsAbsenceCode code) →
        r.keys.entries = [(c.key.id, c.key.secret)]) := by
  have hgranted := grant_ensures.of_run_ok hrun
  obtain rfl := hgranted.credentials
  obtain ⟨r, hready, hu, hgone⟩ := hgranted.record
  refine ⟨_, hu, hready.attached_policies, Dict.get?_insert_self _ _ _, rfl, rfl, fun htook => ?_⟩
  have hempty : r.keys = .empty := by
    refine hgone fun kind hkind code hcode => ?_
    obtain rfl := List.mem_singleton.1 hkind
    exact htook code hcode
  show ((attached bucket r).keys.insert _ _).entries = _
  have hkeys : (attached bucket r).keys = .empty := hempty
  rw [hkeys]
  rfl

/-- Parameters of a provider for single runs. -/
def sample : Parameters :=
  ⟨"AK", "SK", "http://s3", "r", none, none, false⟩

/-- A state with an account `u` that has the policy of the bucket `b` and as many keys as it may
have, and with a fault that says so before anything is looked at. -/
def crowded : State :=
  ⟨⟨.empty,
      .ofList [("u", ⟨.ofList [(Policy.name "b", "")], .ofList [("k1", "s1"), ("k2", "s2")]⟩)],
      fun kind => if kind = .createUser then ["EntityAlreadyExists"] else []⟩,
    fun n => ⟨"new" ++ n.repr, "secret"⟩⟩

/-- The account with too many keys is left with the new one. -/
theorem grant_ok_effect_crowded :
    ∃ c s' r, Program.run (answer "AK") (grant "b" "u" sample).run crowded = (.ok c, s') ∧
      s'.store.users.get? "u" = some r ∧ r.keys.entries = [(c.key.id, c.key.secret)] := by
  have hrun : Program.run (answer "AK") (grant "b" "u" sample).run crowded =
      (.ok (.ofKey (crowded.keys 0) sample), _) := rfl
  obtain ⟨r, hu, -, -, -, -, hkeys⟩ := grant_ok_effect hrun
  exact ⟨_, _, r, hrun, hu, hkeys (by decide)⟩

end BucketDriver.Provision
