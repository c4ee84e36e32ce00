import BucketDriver.Proofs.Provision.Grant

/-!
# What a revocation leaves of an account

A revocation takes the bucket's policy, then every key, then the user. `revoke_ensures` is its
specification against the memory store with any faults queued: what can remain of the account
(`Remains`), when success means that the user is gone, and that without a fault it fails only for an
account with the policy of another bucket, whose keys are then gone all the same
(`RevokeFailed.cause`).

The main result is `revoke_outcome_iff`: what success and failure say about the account.
-/

namespace BucketDriver.Provision

open Attempt (Ensures)
open Memory (State UserRecord SameBut Faulted answer)
open Memory.Store (TookOnly TookNone TookNoAbsence)

/-- The calls that a revocation makes. -/
def revokeKinds : List CallKind :=
  [.getUser, .deleteUserPolicy, .listAccessKeys, .deleteAccessKey, .deleteUser]

/-- A record without some keys, and perhaps without the bucket's policy. -/
structure Stripped (bucket : String) (old new : UserRecord) : Prop where
  /-- No policy but the bucket's is missing. -/
  policies : new.policies = old.policies ∨ new.policies = old.policies.erase (Policy.name bucket)
  /-- No key is new. -/
  keys : new.keys ⊆ old.keys

/-- What is left of a record when a revocation has taken all that it takes. -/
def bare (bucket : String) (old : UserRecord) : UserRecord :=
  ⟨old.policies.erase (Policy.name bucket), .empty⟩

/-- If the account is there afterwards it was there before, and is stripped at most. -/
def Remains (bucket : String) (before after : Option UserRecord) : Prop :=
  ∀ new, after = some new → ∃ old, before = some old ∧ Stripped bucket old new

/-- What a successful revocation makes of an account. -/
structure Revoked (bucket account : String) (s s' : State) : Prop
    extends SameBut account s s' where
  /-- What remains was there before. -/
  record : Remains bucket (s.store.users.get? account) (s'.store.users.get? account)
  /-- Nothing remains unless a fault said so, and the account was free for the bucket. -/
  gone : TookNoAbsence revokeKinds s.store s'.store →
    s'.store.users.get? account = none ∧ FreeFor bucket (s.store.users.get? account)

/-- What a failed revocation makes of an account. -/
structure RevokeFailed (bucket account : String) (s s' : State) (f : Failure) : Prop
    extends SameBut account s s' where
  /-- What remains was there before. -/
  record : Remains bucket (s.store.users.get? account) (s'.store.users.get? account)
  /-- The user remains. -/
  stays : ∀ old, s.store.users.get? account = some old →
    ∃ new, s'.store.users.get? account = some new
  /-- Without faults only an account that is not free is left, without its keys. -/
  cause : TookNone revokeKinds s.store s'.store →
    ∃ old, s.store.users.get? account = some old ∧ ¬ FreeFor bucket (some old) ∧
      f.code = .failedPrecondition ∧ s'.store.users.get? account = some (bare bucket old)

variable {caller bucket account : String} {s : State}

theorem Stripped.refl (bucket : String) (r : UserRecord) : Stripped bucket r r :=
  ⟨.inl rfl, Dict.subset_refl _⟩

theorem Remains.refl (bucket : String) (before : Option UserRecord) :
    Remains bucket before before :=
  fun new hnew => ⟨new, hnew, .refl bucket new⟩

/-- Nothing is left of an account exactly when it was free for the bucket. -/
theorem bare_eq_new_iff {old : UserRecord} :
    bare bucket old = .new ↔ FreeFor bucket (some old) := by
  have herase := Dict.erase_eq_empty_iff (d := old.policies) (n := Policy.name bucket)
  simp [bare, UserRecord.new, FreeFor, herase]

/-- In the middle of a revocation: the account, which was there, has been stripped so far. -/
structure Midway (bucket account : String) (s s₁ : State) (old r : UserRecord) : Prop
    extends SameBut account s s₁ where
  /-- The record at the start. -/
  before : s.store.users.get? account = some old
  /-- The record now. -/
  now : s₁.store.users.get? account = some r
  /-- What has become of it. -/
  stripped : Stripped bucket old r

namespace Midway

variable {s₁ s₂ : State} {old r : UserRecord}

/-- What remains now was there before. -/
theorem remains (h : Midway bucket account s s₁ old r) :
    Remains bucket (s.store.users.get? account) (s₁.store.users.get? account) := by
  rw [h.before, h.now]
  rintro _ ⟨⟩
  exact ⟨old, rfl, h.stripped⟩

/-- A call that takes a fault does not get on with the account. -/
theorem of_faulted {kind : CallKind} {code : String} (h : Midway bucket account s s₁ old r)
    (hfault : Faulted kind code s₁ s₂) : Midway bucket account s s₂ old r := by
  refine ⟨h.toSameBut.trans (.of_faulted account hfault), h.before, ?_, h.stripped⟩
  rw [hfault.users]
  exact h.now

/-- The revocation fails when something other than absence is reported. -/
theorem failed {kind : CallKind} {code : String} {f : Failure}
    (h : Midway bucket account s s₁ old r) (hfault : Faulted kind code s₁ s₂)
    (hkind : kind ∈ revokeKinds) : RevokeFailed bucket account s s₂ f := by
  have h₂ := h.of_faulted hfault
  refine ⟨h₂.toSameBut, h₂.remains, fun _ _ => ⟨r, h₂.now⟩, fun htook => ?_⟩
  have hright := htook.right h.spends hfault.spends
  exact (hfault.of_tookOnly hkind hright).elim

/-- Keys are deleted. -/
theorem withKeys {kept : Dict String} (h : Midway bucket account s s₁ old r)
    (hsame : SameBut account s₁ s₂) (hkept : kept ⊆ r.keys)
    (hu : s₂.store.users.get? account = some { r with keys := kept }) :
    Midway bucket account s s₂ old { r with keys := kept } where
  toSameBut := h.toSameBut.trans hsame
  before := h.before
  now := hu
  stripped := ⟨h.stripped.policies, Dict.subset_trans hkept h.stripped.keys⟩

end Midway

/-- The last step of a revocation, from a stripped account. -/
theorem removeUser_ensures {s₁ : State} {old r : UserRecord} (hmid : Midway bucket account s s₁ old r)
    (hbare : TookNoAbsence revokeKinds s.store s₁.store → r = bare bucket old) :
    Ensures (answer caller) (do let _ ← revoking .deleteUser account (.deleteUser account)) s₁
      (fun _ s' => Revoked bucket account s s')
      (fun f s' => RevokeFailed bucket account s s' f) := by
  unfold revoking
  refine Ensures.bind (Memory.deleteUser_ensures hmid.now rfl) ?_ ?_
  · rintro - s₂ (⟨hnew, rfl⟩ | ⟨code, hfault, hcode⟩)
    · have hsame₂ := SameBut.dropUser account s₁
      have hgone : (s₁.store.dropUser account).users.get? account = none :=
        Memory.Store.get?_dropUser_self
      refine Ensures.pure_iff.2 ⟨hmid.toSameBut.trans hsame₂, ?_, fun htook => ⟨hgone, ?_⟩⟩
      · rw [hgone]
        intro new h
        cases h
      · rw [hmid.before, ← bare_eq_new_iff, ← hbare (htook.left hmid.spends hsame₂.spends)]
        exact hnew
    · have hmid₂ := hmid.of_faulted hfault
      refine Ensures.pure_iff.2 ⟨hmid₂.toSameBut, hmid₂.remains, fun htook => ?_⟩
      have hright := htook.right hmid.spends hfault.spends
      exact absurd hcode (hfault.of_tookOnly (by decide) hright)
  · rintro f s' (⟨hne, rfl, hcode⟩ | ⟨code, hfault, -⟩)
    · refine ⟨hmid.toSameBut, hmid.remains, fun _ _ => ⟨r, hmid.now⟩, fun htook => ?_⟩
      obtain rfl := hbare (TookOnly.of_none htook)
      exact ⟨old, hmid.before, fun hfree => hne (bare_eq_new_iff.2 hfree), hcode, hmid.now⟩
    · exact hmid.failed hfault (by decide)

/-- The steps of a revocation after the bucket's policy was taken. -/
theorem removeKeys_ensures {s₁ : State} {old r : UserRecord} (hmid : Midway bucket account s s₁ old r)
    (hpolicies : TookNoAbsence revokeKinds s.store s₁.store →
      r.policies = old.policies.erase (Policy.name bucket)) :
    Ensures (answer caller) (do
        let keys : Option (List String) ← revoking .listAccessKeys account (.listAccessKeys account)
        deleteKeys (fun c => do let _ ← revoking .deleteAccessKey account c) account (keys.getD [])
        let _ ← revoking .deleteUser account (.deleteUser account)) s₁
      (fun _ s' => Revoked bucket account s s')
      (fun f s' => RevokeFailed bucket account s s' f) := by
  refine Ensures.bind (Memory.listAccessKeys_ensures_of_tolerant hmid.now rfl) ?_ ?_
  · intro keys s₂ hkeys
    -- Either all keys are listed, or a fault of absence was taken and none are.
    have hmid₂ : Midway bucket account s s₂ old r ∧ s₁.store.Spends s₂.store ∧
        (TookNoAbsence revokeKinds s.store s₂.store → keys.getD [] = r.keys.keys) := by
      rcases hkeys with ⟨rfl, rfl⟩ | ⟨rfl, code, hfault, hcode⟩
      · exact ⟨hmid, .refl _, fun _ => rfl⟩
      · refine ⟨hmid.of_faulted hfault, hfault.spends, fun htook => ?_⟩
        have hright := htook.right hmid.spends hfault.spends
        exact absurd hcode (hfault.of_tookOnly (by decide) hright)
    obtain ⟨hmid₂, hspends₂, hall⟩ := hmid₂
    refine Ensures.bind (deleteKeys_ensures rfl (keys.getD []) r hmid₂.now) ?_ ?_
    · rintro - s₃ ⟨hsame₃, kept, hkept, hu₃, hgone⟩
      have hmid₃ := hmid₂.withKeys hsame₃ hkept hu₃
      refine removeUser_ensures hmid₃ fun htook => ?_
      have hleft := htook.left hmid₂.spends hsame₃.spends
      have hright := htook.right hmid₂.spends hsame₃.spends
      have hempty : kept = .empty := by
        refine Dict.eq_empty_of_subset hkept ?_
        rw [← hall hleft]
        exact hgone (hright.of_subset (by decide))
      rw [bare, hpolicies (hleft.left hmid.spends hspends₂), hempty]
    · rintro f s₃ ⟨hsame₃, kept, hkept, hu₃, htook⟩
      have hmid₃ := hmid₂.withKeys hsame₃ hkept hu₃
      refine ⟨hmid₃.toSameBut, hmid₃.remains, fun _ _ => ⟨_, hu₃⟩, fun hnone => ?_⟩
      have hright := hnone.right hmid₂.spends hsame₃.spends
      exact absurd (hright.of_subset (by decide)) htook
  · rintro f s' ⟨code, hfault, -⟩
    exact hmid.failed hfault (by decide)

/-- The specification of a revocation, with any faults queued. -/
theorem revoke_ensures :
    Ensures (answer caller) (revoke bucket account) s
      (fun _ s' => Revoked bucket account s s')
      (fun f s' => RevokeFailed bucket account s s' f) := by
  unfold revoke
  refine Ensures.bind (Memory.getUser_ensures rfl) ?_ ?_
  · rintro user s₁ (⟨huser, rfl, old, hold⟩ | ⟨huser, ⟨rfl, hnone⟩ | ⟨code, hfault, hcode⟩⟩)
    · rw [huser, if_neg Bool.false_ne_true]
      have hmid : Midway bucket account s₁ s₁ old old :=
        ⟨.refl account s₁, hold, hold, .refl bucket old⟩
      refine Ensures.bind (Memory.deleteUserPolicy_ensures hold rfl) ?_ ?_
      · rintro - s₂ (rfl | ⟨code, hfault, hcode⟩)
        · have hmid₂ : Midway bucket account s₁ _ old (old.withoutPolicy (Policy.name bucket)) :=
            ⟨.setUser account s₁ _, hold, Memory.Store.get?_setUser_self, .inr rfl,
              Dict.subset_refl _⟩
          exact removeKeys_ensures hmid₂ fun _ => rfl
        · refine removeKeys_ensures (hmid.of_faulted hfault) fun htook => ?_
          exact absurd hcode (hfault.of_tookOnly (by decide) htook)
      · rintro f s' ⟨code, hfault, -⟩
        exact hmid.failed hfault (by decide)
    · rw [huser, if_pos rfl]
      refine Ensures.pure_iff.2 ⟨.refl account s₁, .refl bucket _, fun _ => ⟨hnone, ?_⟩⟩
      rw [hnone]
      intro r hr
      cases hr
    · rw [huser, if_pos rfl]
      refine Ensures.pure_iff.2 ⟨.of_faulted account hfault, ?_, fun htook => ?_⟩
      · rw [hfault.users]
        exact .refl bucket _
      · exact absurd hcode (hfault.of_tookOnly (by decide) htook)
  · rintro f s' ⟨code, hfault, -⟩
    refine ⟨.of_faulted account hfault, ?_, fun old hold => ⟨old, ?_⟩, fun htook => ?_⟩
    · rw [hfault.users]
      exact .refl bucket _
    · rw [hfault.users]
      exact hold
    · exact (hfault.of_tookOnly (by decide) htook).elim

/-- A user does not exist exactly when look-up finds nothing. -/
theorem userExists_eq_false_iff {store : Memory.Store} :
    store.userExists account = false ↔ store.users.get? account = none :=
  Dict.contains_eq_false_iff

/-- A failed revocation neither makes a user nor takes one away. -/
theorem RevokeFailed.userExists_eq {s' : State} {f : Failure}
    (h : RevokeFailed bucket account s s' f) :
    s'.store.userExists account = s.store.userExists account := by
  cases hold : s.store.users.get? account with
  | some old =>
    obtain ⟨new, hnew⟩ := h.stays old hold
    simp [Memory.Store.userExists, Dict.contains, hold, hnew]
  | none =>
    have hnone : s'.store.users.get? account = none := by
      cases hnew : s'.store.users.get? account with
      | none => rfl
      | some new =>
        obtain ⟨old, hold', -⟩ := h.record new hnew
        rw [hold] at hold'
        cases hold'
    rw [userExists_eq_false_iff.2 hold, userExists_eq_false_iff.2 hnone]

/-- A revocation reports success exactly when nothing is left. When no queued fault of its calls
says that something is absent, the account is gone after a success and is there after a failure
exactly when it was there before. When no fault of its calls is queued at all, success, the absence
of the account afterwards and its having been absent or without the policy of another bucket before
are the same, and otherwise the failure is a failed precondition. -/
theorem revoke_outcome_iff {res : Except Failure Unit} {s' : State}
    (hrun : Program.run (answer caller) (revoke bucket account).run s = (res, s')) :
    ((∀ kind ∈ revokeKinds, ∀ code ∈ s.store.faults kind, ¬ IsAbsenceCode code) →
      (∀ u, res = .ok u → s'.store.userExists account = false) ∧
      (∀ f, res = .error f →
        (s'.store.userExists account = true ↔ s.store.userExists account = true))) ∧
    ((∀ kind ∈ revokeKinds, s.store.faults kind = []) →
      ((∃ u, res = .ok u) ↔ s'.store.userExists account = false) ∧
      (s'.store.userExists account = false ↔ FreeFor bucket (s.store.users.get? account)) ∧
      (¬ FreeFor bucket (s.store.users.get? account) →
        ∃ f, res = .error f ∧ f.code = .failedPrecondition)) := by
  constructor
  · intro hqueued
    constructor
    · rintro u rfl
      have hrevoked := revoke_ensures.of_run_ok hrun
      exact userExists_eq_false_iff.2 (hrevoked.gone (.of_queued hqueued)).1
    · rintro f rfl
      have hfailed := revoke_ensures.of_run_error hrun
      rw [hfailed.userExists_eq]
  · intro hqueued
    have htook : TookNone revokeKinds s.store s'.store := by
      refine .of_queued fun kind hkind code hcode => ?_
      rw [hqueued kind hkind] at hcode
      cases hcode
    cases res with
    | ok u =>
      have hrevoked := revoke_ensures.of_run_ok hrun
      obtain ⟨hgone, hfree⟩ := hrevoked.gone (.of_none htook)
      have hexists := userExists_eq_false_iff.2 hgone
      exact ⟨iff_of_true ⟨u, rfl⟩ hexists, iff_of_true hexists hfree, fun h => absurd hfree h⟩
    | error f =>
      have hfailed := revoke_ensures.of_run_error hrun
      obtain ⟨old, hold, hfree, hcode, hnew⟩ := hfailed.cause htook
      have hexists : ¬ s'.store.userExists account = false := by
        rw [userExists_eq_false_iff, hnew]
        rintro ⟨⟩
      rw [hold]
      refine ⟨iff_of_false ?_ hexists, iff_of_false hexists hfree, fun _ => ⟨f, rfl, hcode⟩⟩
      rintro ⟨u, ⟨⟩⟩

/-- An account `u` with the policy of the bucket `a` and a key. -/
def foreign : State :=
  ⟨⟨.empty, .ofList [("u", ⟨.ofList [(Policy.name "a", "")], .ofList [("k", "s")]⟩)],
    fun _ => []⟩, fun n => ⟨"new" ++ n.repr, "secret"⟩⟩

/-- Taking the bucket `b` from the account with the policy of the bucket `a` is a failed
precondition, and the account stays. -/
theorem revoke_outcome_iff_foreign :
    ∃ f s', Program.run (answer "AK") (revoke "b" "u").run foreign = (.error f, s') ∧
      f.code = .failedPrecondition ∧ s'.store.userExists "u" = true := by
  have hrun : Program.run (answer "AK") (revoke "b" "u").run foreign = (_, _) := rfl
  obtain ⟨hstays, hcause⟩ := revoke_outcome_iff hrun
  have hfree : ¬ FreeFor "b" (foreign.store.users.get? "u") := by
    intro hfree
    exact absurd (hfree _ rfl _ List.mem_cons_self) (by decide)
  obtain ⟨f, hf, hcode⟩ := (hcause fun _ _ => rfl).2.2 hfree
  refine ⟨f, _, Prod.ext hf rfl, hcode, ?_⟩
  exact ((hstays fun _ _ _ hcode => nomatch hcode).2 f hf).2 (by decide)

end BucketDriver.Provision
