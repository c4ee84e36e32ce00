import BucketDriver.Proofs.Provision.Retry
import BucketDriver.Proofs.Race.Grant
import BucketDriver.Proofs.Race.Revoke

/-!
# A grant and a revocation at the same time

A grant and a revocation of the same bucket and account take turns, without faults. The invariant
(`Crossed`) rests on one observation: when the revocation succeeds, in the turn that ends it, there
is no user. From then on only the grant goes on, and what it still does it does to an account of its
own making (`Renews`), so it fails, or it ends as a grant does that begins after the revocation.

The main result is `crossing_serial`: two successes leave the account as one after the other would.
-/

namespace BucketDriver.Provision

open Memory (State UserRecord answer)

/-- The two parties. -/
inductive Side where
  /-- The one that grants. -/
  | grant
  /-- The one that revokes. -/
  | revoke
deriving DecidableEq

namespace Side

/-- What a party ends with. -/
abbrev Result : Side → Type
  | grant => Except Failure Credentials
  | revoke => Except Failure Unit

/-- How far a party has come. -/
abbrev Phase : Side → Type
  | grant => GrantPhase
  | revoke => RevokePhase

/-- What is left of a party. -/
def program (bucket account : String) (p : Parameters) : (side : Side) → side.Phase →
    Program side.Result
  | grant, φ => GrantPhase.program bucket account p φ
  | revoke, φ => RevokePhase.program bucket account φ

/-- How a party begins. -/
def first : (side : Side) → side.Phase
  | grant => .creating
  | revoke => .looking

end Side

/-- A grant and a revocation of the same bucket and account, before either has begun. -/
def crossing (bucket account : String) (p : Parameters) (s : State) : Race Side.Result State where
  programs
    | .grant => (grant bucket account p).run
    | .revoke => (revoke bucket account).run
  state := s

/-- The state that an attempt made on its own ends in. -/
def after {α : Type} (caller : String) (x : Attempt α) (s : State) : State :=
  (Program.run (answer caller) x.run s).2

/-- The account that a grant makes where there was none. -/
def renewed (bucket : String) (key : AccessKey) : UserRecord :=
  (attached bucket .new).withKey key

variable {caller bucket account : String} {p : Parameters} {s s' : State}

/-! ## One after the other -/

/-- Where there was no account, there is nothing but what a grant makes of it. -/
theorem Ready.eq_new {r : UserRecord} (h : Ready bucket none r) : r = .new := by
  obtain ⟨policies, keys⟩ := r
  have hpolicies : policies = .empty := h.policies
  have hkeys : keys = .empty := Dict.eq_empty_of_subset h.keys fun id hid => by cases hid
  rw [hpolicies, hkeys]
  rfl

/-- A revocation that meets no faults leaves nothing of an account that is free, and draws no key.
-/
theorem revoke_of_freeFor (hs : s.store.FaultFree)
    (hfree : FreeFor bucket (s.store.users.get? account)) :
    (after caller (revoke bucket account) s).store.users.get? account = none ∧
      (after caller (revoke bucket account) s).keys = s.keys ∧
      (after caller (revoke bucket account) s).store.FaultFree := by
  unfold after
  refine Attempt.Ensures.run (P := fun _ s' => s'.store.users.get? account = none ∧
    s'.keys = s.keys ∧ s'.store.FaultFree) (revoke_ensures.mono ?_ ?_)
  · intro u s' hrevoked
    exact ⟨(hrevoked.gone (.of_faultFree hs)).1, hrevoked.keys, hs.of_spends hrevoked.spends⟩
  · intro f s' hfailed
    obtain ⟨old, hold, hnot, -⟩ := hfailed.cause (.of_faultFree hs)
    rw [hold] at hfree
    exact absurd hfree hnot

/-- A grant that meets no faults leaves an account that is free for the bucket free for it. -/
theorem grant_of_freeFor (hs : s.store.FaultFree)
    (hfree : FreeFor bucket (s.store.users.get? account)) :
    FreeFor bucket ((after caller (grant bucket account p) s).store.users.get? account) ∧
      (after caller (grant bucket account p) s).store.FaultFree := by
  unfold after
  refine Attempt.Ensures.run (P := fun _ s' => FreeFor bucket (s'.store.users.get? account) ∧
    s'.store.FaultFree) (grant_ensures.mono ?_ ?_)
  · exact fun c s' hgranted => ⟨hgranted.freeFor, hs.of_spends hgranted.spends⟩
  · exact fun f s' hrefused => ⟨hrefused.freeFor hfree, hs.of_spends hrefused.spends⟩

/-- A grant that meets no faults makes the account where there was none. -/
theorem grant_of_absent (hs : s.store.FaultFree) (hu : s.store.users.get? account = none) :
    (after caller (grant bucket account p) s).store.users.get? account =
      some (renewed bucket (s.keys 0)) := by
  unfold after
  refine Attempt.Ensures.run (P := fun _ s' => s'.store.users.get? account =
    some (renewed bucket (s.keys 0))) (grant_ensures.mono ?_ ?_)
  · intro c s' hgranted
    obtain ⟨r, hready, hr, -⟩ := hgranted.record
    rw [hu] at hready
    rw [hr, hready.eq_new]
    rfl
  · intro f s' hrefused
    have hnot := (hrefused.cause (.of_faultFree hs)).1
    rw [hu] at hnot
    exact absurd (fun r hr => by cases hr) hnot

/-- A grant and then a revocation leave nothing of an account that is free. -/
theorem revoke_after_grant {first second : String} (hs : s.store.FaultFree)
    (hfree : FreeFor bucket (s.store.users.get? account)) :
    (after second (revoke bucket account)
      (after first (grant bucket account p) s)).store.users.get? account = none := by
  obtain ⟨hfree', hs'⟩ := @grant_of_freeFor first bucket account p s hs hfree
  exact (revoke_of_freeFor hs' hfree').1

/-- A revocation and then a grant make an account that is free anew. -/
theorem grant_after_revoke {first second : String} (hs : s.store.FaultFree)
    (hfree : FreeFor bucket (s.store.users.get? account)) :
    (after second (grant bucket account p)
      (after first (revoke bucket account) s)).store.users.get? account =
        some (renewed bucket (s.keys 0)) := by
  obtain ⟨hu, hkeys, hs'⟩ := @revoke_of_freeFor first bucket account s hs hfree
  rw [grant_of_absent hs' hu, hkeys]

/-! ## The invariant -/

/-- A grant has made the account itself, where there was none, and has come so far with it. -/
inductive Renews (bucket : String) (p : Parameters) (key : AccessKey) :
    GrantPhase → Option UserRecord → Prop where
  /-- The user is created. -/
  | created : Renews bucket p key (.clearing []) (some .new)
  /-- The policy is attached. -/
  | attached : Renews bucket p key .drawing (some (attached bucket .new))
  /-- The key is drawn. -/
  | granted : Renews bucket p key (.ended (.ok (.ofKey key p))) (some (renewed bucket key))

/-- A grant has drawn the first key of a source, or all keys are still to come. -/
def GrantPhase.Draws (p : Parameters) (source keys : Nat → AccessKey) : GrantPhase → Prop
  | .ended (.ok c) => c = .ofKey (source 0) p
  | _ => keys = source

/-- What holds throughout. -/
structure Crossed (bucket account : String) (p : Parameters) (source : Nat → AccessKey)
    (φ : (side : Side) → side.Phase) (s : State) : Prop where
  /-- No faults are queued. -/
  faultFree : s.store.FaultFree
  /-- The grant draws the first key of the source, and nobody else draws one. -/
  draws : GrantPhase.Draws p source s.keys (φ .grant)
  /-- When the revocation has succeeded there is no user, or the grant has made it since. -/
  revoked : φ .revoke = .ended (.ok ()) → s.store.users.get? account = none ∨
    Renews bucket p (source 0) (φ .grant) (s.store.users.get? account)

variable {source : Nat → AccessKey}

/-- A turn of a grant draws the first key of the source, or none. -/
theorem GrantTurn.draws {φ next : GrantPhase} (h : GrantTurn bucket account p s φ next s')
    (hφ : φ.Draws p source s.keys) : next.Draws p source s'.keys := by
  cases h with
  | drawn hu =>
    have hkeys : s.keys = source := hφ
    rw [← hkeys]
    rfl
  | lost hu hneeds =>
    cases φ with
    | ended result => cases hneeds
    | _ => exact hφ
  | _ => exact hφ

/-- A grant whose turn finds no account fails, or begins to make one. -/
theorem GrantTurn.renews_of_absent {key : AccessKey} {φ next : GrantPhase}
    (h : GrantTurn bucket account p s φ next s') (hnone : s.store.users.get? account = none) :
    s'.store.users.get? account = none ∨
      Renews bucket p key next (s'.store.users.get? account) := by
  cases h with
  | created =>
    right
    rw [Memory.Store.get?_setUser_self]
    exact .created
  | lost | skipped | ended => exact .inl hnone
  | found hr | admitted hr | refused hr | listed hr | cleared hr | attached hr | drawn hr
  | full hr =>
    rw [hnone] at hr
    cases hr

/-- A grant goes on with the account that it has made itself, which has room for a key. -/
theorem GrantTurn.renews {φ next : GrantPhase} (h : GrantTurn bucket account p s φ next s')
    (hφ : φ.Draws p source s.keys)
    (hrenews : Renews bucket p (source 0) φ (s.store.users.get? account)) :
    Renews bucket p (source 0) next (s'.store.users.get? account) := by
  generalize hrecord : s.store.users.get? account = record at hrenews
  cases hrenews with
  | created =>
    cases h with
    | attached hr =>
      obtain rfl := Option.some.inj (hrecord.symm.trans hr)
      rw [Memory.Store.get?_setUser_self]
      exact .attached
    | lost hnone => cases hrecord.symm.trans hnone
  | attached =>
    cases h with
    | drawn hr =>
      obtain rfl := Option.some.inj (hrecord.symm.trans hr)
      have hkeys : s.keys = source := hφ
      rw [Memory.Store.get?_setUser_self, ← hkeys]
      exact .granted
    | full hr hfull =>
      obtain rfl := Option.some.inj (hrecord.symm.trans hr)
      have hfull : Memory.maxKeys ≤ Dict.size (.empty : Dict String) := hfull
      exact absurd hfull (by decide)
    | lost hnone => cases hrecord.symm.trans hnone
  | granted =>
    obtain ⟨rfl, rfl⟩ := h.of_ended
    rw [hrecord]
    exact .granted

/-- A turn of a revocation draws no key. -/
theorem RevokeTurn.keys {φ next : RevokePhase} (h : RevokeTurn bucket account s φ next s') :
    s'.keys = s.keys := by
  cases h <;> rfl

/-- In the turn in which a revocation succeeds there is no user afterwards. -/
theorem RevokeTurn.absent_of_ok {φ : RevokePhase}
    (h : RevokeTurn bucket account s φ (.ended (.ok ())) s') :
    s'.store.users.get? account = none ∨ φ = .ended (.ok ()) ∧ s' = s := by
  generalize hnext : RevokePhase.ended (.ok ()) = next at h
  cases h with
  | gone hu => exact .inl hu
  | removed => exact .inl Memory.Store.get?_dropUser_self
  | ended => exact .inr ⟨rfl, rfl⟩
  | _ => cases hnext

namespace Crossed

variable {φ : (side : Side) → side.Phase}

/-- Every turn of the grant preserves the invariant. -/
theorem of_grantTurn {next : GrantPhase} (h : Crossed bucket account p source φ s)
    (hturn : GrantTurn bucket account p s (φ .grant) next s') :
    Crossed bucket account p source (Function.update φ .grant next) s' where
  faultFree := hturn.faultFree h.faultFree
  draws := by
    rw [Function.update_self]
    exact hturn.draws h.draws
  revoked hrevoked := by
    rw [Function.update_of_ne (by decide)] at hrevoked
    rw [Function.update_self]
    rcases h.revoked hrevoked with hnone | hrenews
    · exact hturn.renews_of_absent hnone
    · exact .inr (hturn.renews h.draws hrenews)

/-- Every turn of the revocation preserves the invariant. -/
theorem of_revokeTurn {next : RevokePhase} (h : Crossed bucket account p source φ s)
    (hturn : RevokeTurn bucket account s (φ .revoke) next s') :
    Crossed bucket account p source (Function.update φ .revoke next) s' where
  faultFree := hturn.faultFree h.faultFree
  draws := by
    rw [Function.update_of_ne (by decide), hturn.keys]
    exact h.draws
  revoked hrevoked := by
    rw [Function.update_self] at hrevoked
    subst hrevoked
    rw [Function.update_of_ne (by decide)]
    rcases hturn.absent_of_ok with hnone | ⟨hended, rfl⟩
    · exact .inl hnone
    · exact h.revoked hended

/-- Every turn preserves the invariant. -/
theorem step (callers : Side → String) (φ : (side : Side) → side.Phase) (s : State) (side : Side)
    (h : Crossed bucket account p source φ s) :
    ∃ next s', (side.program bucket account p (φ side)).step (answer (callers side)) s =
      (side.program bucket account p next, s') ∧
      Crossed bucket account p source (Function.update φ side next) s' := by
  cases side with
  | grant =>
    have hsteps : GrantPhase.Steps (callers .grant) bucket account p s (φ .grant) :=
      GrantPhase.steps _ h.faultFree
    obtain ⟨next, s', hstep, hturn⟩ := hsteps
    exact ⟨next, s', hstep, h.of_grantTurn hturn⟩
  | revoke =>
    have hsteps : RevokePhase.Steps (callers .revoke) bucket account s (φ .revoke) :=
      RevokePhase.steps _ h.faultFree
    obtain ⟨next, s', hstep, hturn⟩ := hsteps
    exact ⟨next, s', hstep, h.of_revokeTurn hturn⟩

end Crossed

/-! ## The result -/

/-- A grant and a revocation of the same bucket and account race, from any state without faults in
which the account is free for the bucket. When both succeed, the account is as one after the other
leaves it: there is none, as after the grant and then the revocation, or it has the bucket's policy
and the key of the grant and nothing else, as after the revocation and then the grant. When the
revocation succeeds and the grant fails, there is no account. -/
theorem crossing_serial {callers : Side → String} (hs : s.store.FaultFree)
    (hfree : FreeFor bucket (s.store.users.get? account)) {turns : List Side}
    {r : Race Side.Result State}
    (hrun : (crossing bucket account p s).run (fun side => answer (callers side)) turns = r)
    (hrevoked : r.programs .revoke = .done (.ok ())) :
    (∀ c, r.programs .grant = .done (.ok c) →
      (r.state.store.users.get? account = none ∧
        (after (callers .revoke) (revoke bucket account) (after (callers .grant)
          (grant bucket account p) s)).store.users.get? account = none) ∨
      ∃ u, r.state.store.users.get? account = some u ∧
        u.policies.entries = [(Policy.name bucket, Policy.document bucket)] ∧
        u.keys.entries = [(c.key.id, c.key.secret)] ∧
        (after (callers .grant) (grant bucket account p) (after (callers .revoke)
          (revoke bucket account) s)).store.users.get? account = some u) ∧
    (∀ f, r.programs .grant = .done (.error f) → r.state.store.users.get? account = none) := by
  have hstart : crossing bucket account p s =
      Race.ofPhases (Side.program bucket account p) Side.first s := by
    unfold crossing Race.ofPhases
    congr 1
    funext side
    cases side <;> rfl
  have hinv : Crossed bucket account p s.keys Side.first s :=
    ⟨hs, rfl, fun hended => by cases hended⟩
  obtain ⟨φ, s', hφ, hinv⟩ := Race.run_invariant (Crossed.step callers) hinv turns
  rw [hstart, hφ] at hrun
  subst hrun
  have hrevoked : φ .revoke = .ended (.ok ()) := RevokePhase.program_eq_done_iff.1 hrevoked
  constructor
  · intro c hgranted
    have hgranted : φ .grant = .ended (.ok c) := GrantPhase.program_eq_done_iff.1 hgranted
    rcases hinv.revoked hrevoked with hnone | hrenews
    · exact .inl ⟨hnone, revoke_after_grant hs hfree⟩
    · rw [hgranted] at hrenews
      generalize hu : s'.store.users.get? account = record at hrenews
      cases hrenews
      exact .inr ⟨_, hu, rfl, rfl, grant_after_revoke hs hfree⟩
  · intro f hfailed
    have hfailed : φ .grant = .ended (.error f) := GrantPhase.program_eq_done_iff.1 hfailed
    rcases hinv.revoked hrevoked with hnone | hrenews
    · exact hnone
    · rw [hfailed] at hrenews
      cases hrenews

/-- The grant deletes the old key and attaches the policy before the revocation gets there, and the
revocation takes the policy before the grant draws its key. -/
def interleaved : List Side :=
  [.revoke, .grant, .grant, .grant, .grant, .grant, .revoke, .grant, .revoke, .revoke, .revoke]

/-- The revocation deletes the user that the grant has found and looked at. -/
def overtaken : List Side :=
  [.revoke, .grant, .revoke, .revoke, .grant, .revoke, .revoke, .grant]

/-- In the one order of turns both succeed, in the other only the revocation does, and neither
leaves anything of the account. -/
theorem crossing_serial_shared :
    (∃ c r, (crossing "b" "u" sample shared).run (fun _ => answer "AK") interleaved = r ∧
      r.programs .revoke = .done (.ok ()) ∧ r.programs .grant = .done (.ok c) ∧
      r.state.store.users.get? "u" = none) ∧
    ∃ f r, (crossing "b" "u" sample shared).run (fun _ => answer "AK") overtaken = r ∧
      r.programs .revoke = .done (.ok ()) ∧ r.programs .grant = .done (.error f) ∧
      r.state.store.users.get? "u" = none := by
  constructor
  · have hrun : (crossing "b" "u" sample shared).run (fun _ => answer "AK") interleaved = _ := rfl
    obtain ⟨hboth, -⟩ := crossing_serial (fun _ => rfl) shared_freeFor hrun rfl
    refine ⟨.ofKey (shared.keys 0) sample, _, hrun, rfl, rfl, ?_⟩
    rcases hboth (.ofKey (shared.keys 0) sample) rfl with ⟨hnone, -⟩ | ⟨_, hu, -⟩
    · exact hnone
    · cases hu
  · have hrun : (crossing "b" "u" sample shared).run (fun _ => answer "AK") overtaken = _ := rfl
    obtain ⟨-, hfailed⟩ := crossing_serial (fun _ => rfl) shared_freeFor hrun rfl
    exact ⟨_, _, hrun, rfl, rfl, hfailed _ rfl⟩

end BucketDriver.Provision
