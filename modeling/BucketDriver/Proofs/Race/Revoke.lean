import BucketDriver.Proofs.Provision.Revoke
import BucketDriver.Proofs.Race.Basic

/-!
# A revocation, call by call

A revocation that takes turns with others is described by the call that it makes next
(`RevokePhase`), and what is left of it in each phase is a program of its own
(`RevokePhase.program`). `RevokeTurn` says once what a turn of a revocation can do when no faults
are queued, one constructor per way in which a call ends, and `RevokePhase.steps` that every turn
does one of these.
-/

namespace BucketDriver.Provision

open Attempt (Ensures)
open Memory (State UserRecord Faulted answer)

/-! ## What is left of a revocation -/

/-- The end of a revocation: the user is deleted. -/
def remove (account : String) : Attempt Unit := do
  let _ ← revoking .deleteUser account (.deleteUser account)

/-- A revocation with keys to be deleted. -/
def dismantle (account : String) (keys : List String) : Attempt Unit := do
  deleteKeys (fun c => do let _ ← revoking .deleteAccessKey account c) account keys
  remove account

/-- A revocation from an account without the bucket's policy: the keys are listed. -/
def unlock (account : String) : Attempt Unit := do
  let keys : Option (List String) ← revoking .listAccessKeys account (.listAccessKeys account)
  dismantle account (keys.getD [])

/-- A revocation from an account that is there: the bucket's policy is taken. -/
def strip (bucket account : String) : Attempt Unit := do
  let _ ← revoking .deleteUserPolicy account (.deleteUserPolicy account (Policy.name bucket))
  unlock account

/-- How far a revocation has come. -/
inductive RevokePhase where
  /-- The user is looked for next. -/
  | looking
  /-- The user is there, and the bucket's policy is taken next. -/
  | stripping
  /-- The keys are listed next. -/
  | listing
  /-- Keys are to be deleted, the first one next, and after the last one the user. -/
  | clearing (keys : List String)
  /-- The revocation has ended. -/
  | ended (result : Except Failure Unit)

/-- What is left of a revocation. -/
def RevokePhase.program (bucket account : String) :
    RevokePhase → Program (Except Failure Unit)
  | looking => (revoke bucket account).run
  | stripping => (strip bucket account).run
  | listing => (unlock account).run
  | clearing keys => (dismantle account keys).run
  | ended result => .done result

/-- A revocation begins by looking for the user. -/
theorem revoke_eq (bucket account : String) :
    revoke bucket account = (revoking .getUser account (.getUser account) >>= fun user =>
      if user.isNone then pure () else strip bucket account) := rfl

/-- Deleting keys begins with the first one. -/
theorem dismantle_cons (account key : String) (keys : List String) :
    dismantle account (key :: keys) =
      (revoking .deleteAccessKey account (.deleteAccessKey account key) >>= fun _ =>
        dismantle account keys) := by
  unfold dismantle
  rw [deleteKeys]
  refine (bind_assoc _ _ _).trans ?_
  exact bind_assoc _ _ _

variable {caller bucket account : String} {s : State}

namespace RevokePhase

/-- A revocation has ended exactly when nothing is left of it. -/
theorem program_eq_done_iff {φ : RevokePhase} {result : Except Failure Unit} :
    φ.program bucket account = .done result ↔ φ = .ended result := by
  constructor
  · intro h
    cases φ with
    | ended result' => exact congrArg ended (Program.done.inj h)
    | clearing keys =>
      cases keys with
      | nil => cases h
      | cons key keys =>
        have hdismantle : (clearing (key :: keys)).program bucket account = _ :=
          congrArg ExceptT.run (dismantle_cons account key keys)
        rw [hdismantle] at h
        cases h
    | looking => cases h
    | stripping => cases h
    | listing => cases h
  · rintro rfl
    rfl

end RevokePhase

/-! ## One turn -/

namespace RevokePhase

/-- The phase after a turn that finds the user gone: what the call was to take away counts as taken.
-/
def afterGone : RevokePhase → RevokePhase
  | looking | clearing [] => ended (.ok ())
  | stripping => listing
  | listing => clearing []
  | clearing (_ :: keys) => clearing keys
  | ended result => ended result

end RevokePhase

/-- What a turn of a revocation does when no faults are queued. -/
inductive RevokeTurn (bucket account : String) (s : State) :
    RevokePhase → RevokePhase → State → Prop where
  /-- The user is gone, and nothing is left to take away. -/
  | gone {φ : RevokePhase} (hu : s.store.users.get? account = none) :
      RevokeTurn bucket account s φ φ.afterGone s
  /-- The user is there. -/
  | found {r : UserRecord} (hu : s.store.users.get? account = some r) :
      RevokeTurn bucket account s .looking .stripping s
  /-- The bucket's policy is taken, if it is attached. -/
  | stripped {r : UserRecord} (hu : s.store.users.get? account = some r) :
      RevokeTurn bucket account s .stripping .listing
        { s with store := s.store.setUser account (r.withoutPolicy (Policy.name bucket)) }
  /-- All keys of the account are to be deleted. -/
  | listed {r : UserRecord} (hu : s.store.users.get? account = some r) :
      RevokeTurn bucket account s .listing (.clearing r.keys.keys) s
  /-- A key is deleted, if it is still there. -/
  | cleared {r : UserRecord} {key : String} {keys : List String}
      (hu : s.store.users.get? account = some r) :
      RevokeTurn bucket account s (.clearing (key :: keys)) (.clearing keys)
        { s with store := s.store.setUser account (r.withoutKey key) }
  /-- A user with nothing is deleted, and the revocation has succeeded. -/
  | removed (hu : s.store.users.get? account = some .new) :
      RevokeTurn bucket account s (.clearing []) (.ended (.ok ()))
        { s with store := s.store.dropUser account }
  /-- A user with policies or keys stays. -/
  | kept {r : UserRecord} {f : Failure} (hu : s.store.users.get? account = some r)
      (hr : r ≠ .new) : RevokeTurn bucket account s (.clearing []) (.ended (.error f)) s
  /-- The revocation has ended before. -/
  | ended {result : Except Failure Unit} :
      RevokeTurn bucket account s (.ended result) (.ended result) s

/-- A revocation in a phase takes a turn. -/
def RevokePhase.Steps (caller bucket account : String) (s : State) (φ : RevokePhase) : Prop :=
  ∃ next s', (φ.program bucket account).step (answer caller) s =
    (next.program bucket account, s') ∧ RevokeTurn bucket account s φ next s'

namespace RevokePhase

/-- A revocation whose next call is for one of its steps: where the call ends well the revocation
goes on in another phase, and where it fails the revocation has failed. -/
theorem Steps.of_call {φ : RevokePhase} {step : RevokeStep} {c : Call}
    {f : Option c.Reply → Attempt Unit} {ok : Option c.Reply → State → Prop}
    {err : Failure → State → Prop}
    (hprogram : φ.program bucket account = (revoking step account c >>= f).run)
    (hcall : Ensures (answer caller) (.settled (.revoke step) account identityErrors c) s ok err)
    (hok : ∀ v s', ok v s' → ∃ next, (f v).run = next.program bucket account ∧
      RevokeTurn bucket account s φ next s')
    (herr : ∀ e s', err e s' → RevokeTurn bucket account s φ (.ended (.error e)) s') :
    φ.Steps caller bucket account s := by
  unfold Steps
  rw [hprogram]
  exact hcall.step_phase hok fun e s' he => ⟨.ended (.error e), rfl, herr e s' he⟩

/-- A revocation whose next call fails because the user is gone goes on as if it had not failed. -/
theorem Steps.of_gone {φ : RevokePhase} {step : RevokeStep} {c : Call}
    {f : Option c.Reply → Attempt Unit} (hs : s.store.FaultFree)
    (hu : s.store.users.get? account = none)
    (hprogram : φ.program bucket account = (revoking step account c >>= f).run)
    (hnone : Memory.perform caller c s = (.error (Memory.noSuchUser account), s))
    (hf : (f none).run = φ.afterGone.program bucket account) :
    φ.Steps caller bucket account s := by
  refine .of_call hprogram (Memory.ensures_of_gone rfl hnone) ?_ ?_
  · rintro _ s' (⟨rfl, rfl⟩ | ⟨code, hfault, -⟩)
    · exact ⟨φ.afterGone, hf, .gone hu⟩
    · exact hfault.elim hs
  · rintro _ s' ⟨code, hfault, -⟩
    exact hfault.elim hs

theorem looking_steps (hs : s.store.FaultFree) : looking.Steps caller bucket account s := by
  refine .of_call (congrArg ExceptT.run (revoke_eq bucket account))
    (Memory.getUser_ensures rfl) ?_ ?_
  · rintro user s' (⟨huser, rfl, r, hu⟩ | ⟨huser, ⟨rfl, hu⟩ | ⟨code, hfault, -⟩⟩)
    · exact ⟨stripping, by rw [huser, if_neg Bool.false_ne_true]; rfl, .found hu⟩
    · exact ⟨ended (.ok ()), by rw [huser, if_pos rfl]; rfl, .gone hu⟩
    · exact hfault.elim hs
  · rintro _ s' ⟨code, hfault, -⟩
    exact hfault.elim hs

theorem stripping_steps (hs : s.store.FaultFree) : stripping.Steps caller bucket account s := by
  cases hu : s.store.users.get? account with
  | none => exact .of_gone hs hu rfl (by simp only [Memory.perform, hu]) rfl
  | some r =>
    refine .of_call rfl (Memory.deleteUserPolicy_ensures hu rfl) ?_ ?_
    · rintro _ s' (rfl | ⟨code, hfault, -⟩)
      · exact ⟨listing, rfl, .stripped hu⟩
      · exact hfault.elim hs
    · rintro _ s' ⟨code, hfault, -⟩
      exact hfault.elim hs

theorem listing_steps (hs : s.store.FaultFree) : listing.Steps caller bucket account s := by
  cases hu : s.store.users.get? account with
  | none => exact .of_gone hs hu rfl (by simp only [Memory.perform, hu]) rfl
  | some r =>
    refine .of_call rfl (Memory.listAccessKeys_ensures_of_tolerant hu rfl) ?_ ?_
    · rintro _ s' (⟨rfl, rfl⟩ | ⟨-, code, hfault, -⟩)
      · exact ⟨clearing r.keys.keys, rfl, .listed hu⟩
      · exact hfault.elim hs
    · rintro _ s' ⟨code, hfault, -⟩
      exact hfault.elim hs

theorem clearing_cons_steps (hs : s.store.FaultFree) (key : String) (keys : List String) :
    (clearing (key :: keys)).Steps caller bucket account s := by
  have hdismantle : (clearing (key :: keys)).program bucket account = _ :=
    congrArg ExceptT.run (dismantle_cons account key keys)
  cases hu : s.store.users.get? account with
  | none => exact .of_gone hs hu hdismantle (by simp only [Memory.perform, hu]) rfl
  | some r =>
    refine .of_call hdismantle (Memory.deleteAccessKey_ensures hu rfl) ?_ ?_
    · rintro _ s' (rfl | ⟨code, hfault, -⟩)
      · exact ⟨clearing keys, rfl, .cleared hu⟩
      · exact hfault.elim hs
    · rintro _ s' ⟨code, hfault, -⟩
      exact hfault.elim hs

theorem clearing_nil_steps (hs : s.store.FaultFree) :
    (clearing []).Steps caller bucket account s := by
  cases hu : s.store.users.get? account with
  | none => exact .of_gone hs hu rfl (by simp only [Memory.perform, hu]) rfl
  | some r =>
    refine .of_call rfl (Memory.deleteUser_ensures hu rfl) ?_ ?_
    · rintro _ s' (⟨rfl, rfl⟩ | ⟨code, hfault, -⟩)
      · exact ⟨ended (.ok ()), rfl, .removed hu⟩
      · exact hfault.elim hs
    · rintro _ s' (⟨hr, rfl, -⟩ | ⟨code, hfault, -⟩)
      · exact .kept hu hr
      · exact hfault.elim hs

/-- Without faults queued, every turn of a revocation is one of those described. -/
theorem steps (φ : RevokePhase) (hs : s.store.FaultFree) : φ.Steps caller bucket account s := by
  cases φ with
  | looking => exact looking_steps hs
  | stripping => exact stripping_steps hs
  | listing => exact listing_steps hs
  | clearing keys =>
    cases keys with
    | nil => exact clearing_nil_steps hs
    | cons key keys => exact clearing_cons_steps hs key keys
  | ended result => exact ⟨.ended result, s, rfl, .ended⟩

end RevokePhase

/-- A turn of a revocation queues no faults. -/
theorem RevokeTurn.faultFree {φ next : RevokePhase} {s' : State}
    (h : RevokeTurn bucket account s φ next s') (hs : s.store.FaultFree) : s'.store.FaultFree := by
  cases h <;> exact hs

end BucketDriver.Provision
