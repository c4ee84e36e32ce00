import BucketDriver.Proofs.Provision.Grant
import BucketDriver.Proofs.Race.Basic

/-!
# A grant, call by call

A grant that takes turns with others is described by the call that it makes next (`GrantPhase`), and
what is left of it in each phase is a program of its own (`GrantPhase.program`). `GrantTurn` says
once what a turn of a grant can do when no faults are queued, one constructor per way in which a
call ends, and `GrantPhase.step` that every turn does one of these.
-/

namespace BucketDriver.Provision

open Attempt (Ensures)
open Memory (State UserRecord Faulted answer maxKeys)
open Memory.Store (FaultFree)

/-! ## What is left of a grant -/

/-- The end of a grant: a key is drawn. -/
def draw (account : String) (p : Parameters) : Attempt Credentials := do
  let key : Option AccessKey ← granting .createAccessKey account (.createAccessKey account)
  match key with
  | some key => return .ofKey key p
  | none => throw (Action.grant .createAccessKey).failure

/-- A grant to an account that is ready: the policy is attached. -/
def attach (bucket account : String) (p : Parameters) : Attempt Credentials := do
  let _ ← granting .putUserPolicy account
    (.putUserPolicy account (Policy.name bucket) (Policy.document bucket))
  draw account p

/-- A grant to an account with keys to be deleted. -/
def clear (bucket account : String) (p : Parameters) (keys : List String) :
    Attempt Credentials := do
  deleteKeys (fun c => do let _ ← granting .deleteStaleAccessKey account c) account keys
  attach bucket account p

/-- A grant to an account that is free for the bucket: the keys are listed. -/
def takeOver (bucket account : String) (p : Parameters) : Attempt Credentials := do
  let keys : Option (List String) ← granting .listAccessKeys account (.listAccessKeys account)
  clear bucket account p (keys.getD [])

/-- A grant to an account that is there: its policies are listed. -/
def check (bucket account : String) (p : Parameters) (taken : Failure) :
    Attempt Credentials := do
  let policies : Option (List String) ←
    granting .listUserPolicies account (.listUserPolicies account)
  if (policies.getD []).any (· ≠ Policy.name bucket) then throw taken
  takeOver bucket account p

/-- How far a grant has come. -/
inductive GrantPhase where
  /-- The user is created next. -/
  | creating
  /-- The user is there, as a failure has told, and its policies are listed next. -/
  | checking (taken : Failure)
  /-- The account is free for the bucket, and its keys are listed next. -/
  | listing
  /-- Keys are to be deleted, the first one next, and after the last one the policy is attached. -/
  | clearing (keys : List String)
  /-- The policy is attached, and a key is drawn next. -/
  | drawing
  /-- The grant has ended. -/
  | ended (result : Except Failure Credentials)

namespace GrantPhase

/-- What is left of a grant. -/
def program (bucket account : String) (p : Parameters) :
    GrantPhase → Program (Except Failure Credentials)
  | creating => (grant bucket account p).run
  | checking taken => (check bucket account p taken).run
  | listing => (takeOver bucket account p).run
  | clearing keys => (clear bucket account p keys).run
  | drawing => (draw account p).run
  | ended result => .done result

/-- The call that a grant makes next. -/
def call? (bucket account : String) : GrantPhase → Option Call
  | creating => some (.createUser account)
  | checking _ => some (.listUserPolicies account)
  | listing => some (.listAccessKeys account)
  | clearing (key :: _) => some (.deleteAccessKey account key)
  | clearing [] => some (.putUserPolicy account (Policy.name bucket) (Policy.document bucket))
  | drawing => some (.createAccessKey account)
  | ended _ => none

/-- Whether the next call is one that fails when the user is not there. -/
def needsUser : GrantPhase → Bool
  | checking _ | listing | clearing [] | drawing => true
  | creating | clearing (_ :: _) | ended _ => false

end GrantPhase

/-- Adopting an account and attaching the policy is checking it first. -/
theorem adopt_bind_attach (bucket account : String) (p : Parameters) (taken : Failure) :
    (adopt bucket account taken >>= fun _ => attach bucket account p) =
      check bucket account p taken := by
  unfold adopt check
  refine (bind_assoc _ _ _).trans ?_
  refine congrArg (granting .listUserPolicies account (.listUserPolicies account) >>= ·) ?_
  funext policies
  dsimp only
  split
  case isTrue => rfl
  case isFalse => exact bind_assoc _ _ _

/-- A grant begins by creating the user. -/
theorem grant_eq (bucket account : String) (p : Parameters) :
    grant bucket account p =
      (liftM (granting .createUser account (.createUser account)).run >>= fun created =>
        match created with
        | .ok _ => attach bucket account p
        | .error failure =>
          if failure.code = .alreadyExists then check bucket account p failure
          else throw failure) := by
  have hgrant : grant bucket account p =
      (ensureUser bucket account >>= fun _ => attach bucket account p) := rfl
  rw [hgrant, ensureUser]
  refine (bind_assoc _ _ _).trans ?_
  refine congrArg (liftM (granting .createUser account (.createUser account)).run >>= ·) ?_
  funext created
  rcases created with failure | _
  · dsimp only
    split
    case isTrue => exact adopt_bind_attach bucket account p failure
    case isFalse => rfl
  · rfl

/-- Deleting keys begins with the first one. -/
theorem clear_cons (bucket account : String) (p : Parameters) (key : String) (keys : List String) :
    clear bucket account p (key :: keys) =
      (granting .deleteStaleAccessKey account (.deleteAccessKey account key) >>= fun _ =>
        clear bucket account p keys) := by
  unfold clear
  rw [deleteKeys]
  refine (bind_assoc _ _ _).trans ?_
  exact bind_assoc _ _ _

variable {caller bucket account : String} {p : Parameters} {s : State}

namespace GrantPhase

/-- The phase tells the next call. -/
theorem next?_program (φ : GrantPhase) :
    (φ.program bucket account p).next? = φ.call? bucket account := by
  cases φ with
  | creating =>
    have hgrant : creating.program bucket account p = _ := congrArg ExceptT.run (grant_eq _ _ _)
    rw [hgrant]
    rfl
  | clearing keys =>
    cases keys with
    | nil => rfl
    | cons key keys =>
      have hclear : (clearing (key :: keys)).program bucket account p = _ :=
        congrArg ExceptT.run (clear_cons bucket account p key keys)
      rw [hclear]
      rfl
  | _ => rfl

/-- A grant has ended exactly when nothing is left of it. -/
theorem program_eq_done_iff {φ : GrantPhase} {result : Except Failure Credentials} :
    φ.program bucket account p = .done result ↔ φ = .ended result := by
  constructor
  · intro h
    have hcall : none = φ.call? bucket account := by
      rw [← next?_program φ, h]
      rfl
    cases φ with
    | ended result' => exact congrArg ended (Program.done.inj h)
    | clearing keys => cases keys <;> cases hcall
    | _ => cases hcall
  · rintro rfl
    rfl

end GrantPhase

/-! ## One turn -/

/-- What a turn of a grant does when no faults are queued. -/
inductive GrantTurn (bucket account : String) (p : Parameters) (s : State) :
    GrantPhase → GrantPhase → State → Prop where
  /-- The user was not there and is created. -/
  | created (hu : s.store.users.get? account = none) :
      GrantTurn bucket account p s .creating (.clearing [])
        { s with store := s.store.setUser account .new }
  /-- The user is there. -/
  | found {r : UserRecord} {taken : Failure} (hu : s.store.users.get? account = some r) :
      GrantTurn bucket account p s .creating (.checking taken) s
  /-- The account is free for the bucket. -/
  | admitted {r : UserRecord} {taken : Failure} (hu : s.store.users.get? account = some r)
      (hfree : FreeFor bucket (some r)) :
      GrantTurn bucket account p s (.checking taken) .listing s
  /-- The account is not free for the bucket. -/
  | refused {r : UserRecord} {taken : Failure} (hu : s.store.users.get? account = some r)
      (hfree : ¬ FreeFor bucket (some r)) :
      GrantTurn bucket account p s (.checking taken) (.ended (.error taken)) s
  /-- All keys of the account are to be deleted. -/
  | listed {r : UserRecord} (hu : s.store.users.get? account = some r) :
      GrantTurn bucket account p s .listing (.clearing r.keys.keys) s
  /-- A key is deleted, if it is still there. -/
  | cleared {r : UserRecord} {key : String} {keys : List String}
      (hu : s.store.users.get? account = some r) :
      GrantTurn bucket account p s (.clearing (key :: keys)) (.clearing keys)
        { s with store := s.store.setUser account (r.withoutKey key) }
  /-- A key of a user that is gone counts as deleted. -/
  | skipped {key : String} {keys : List String} (hu : s.store.users.get? account = none) :
      GrantTurn bucket account p s (.clearing (key :: keys)) (.clearing keys) s
  /-- The policy is attached. -/
  | attached {r : UserRecord} (hu : s.store.users.get? account = some r) :
      GrantTurn bucket account p s (.clearing []) .drawing
        { s with store := s.store.setUser account (attached bucket r) }
  /-- A key is drawn, and the grant has succeeded. -/
  | drawn {r : UserRecord} (hu : s.store.users.get? account = some r) :
      GrantTurn bucket account p s .drawing (.ended (.ok (.ofKey (s.keys 0) p)))
        ⟨s.store.setUser account (r.withKey (s.keys 0)), fun n => s.keys (n + 1)⟩
  /-- There is no room for a key. -/
  | full {r : UserRecord} {f : Failure} (hu : s.store.users.get? account = some r)
      (hfull : maxKeys ≤ r.keys.size) :
      GrantTurn bucket account p s .drawing (.ended (.error f)) s
  /-- The user is gone, and the grant fails. -/
  | lost {φ : GrantPhase} {f : Failure} (hu : s.store.users.get? account = none)
      (hφ : φ.needsUser = true) : GrantTurn bucket account p s φ (.ended (.error f)) s
  /-- The grant has ended before. -/
  | ended {result : Except Failure Credentials} :
      GrantTurn bucket account p s (.ended result) (.ended result) s

/-- A grant in a phase takes a turn. -/
def GrantPhase.Steps (caller bucket account : String) (p : Parameters) (s : State)
    (φ : GrantPhase) : Prop :=
  ∃ next s', (φ.program bucket account p).step (answer caller) s =
    (next.program bucket account p, s') ∧ GrantTurn bucket account p s φ next s'

namespace GrantPhase

/-- A grant whose next call is for one of its steps: where the call ends well the grant goes on in
another phase, and where it fails the grant has failed. -/
theorem Steps.of_call {φ : GrantPhase} {step : GrantStep} {c : Call}
    {f : Option c.Reply → Attempt Credentials} {ok : Option c.Reply → State → Prop}
    {err : Failure → State → Prop}
    (hprogram : φ.program bucket account p = (granting step account c >>= f).run)
    (hcall : Ensures (answer caller) (.settled (.grant step) account identityErrors c) s ok err)
    (hok : ∀ v s', ok v s' → ∃ next, (f v).run = next.program bucket account p ∧
      GrantTurn bucket account p s φ next s')
    (herr : ∀ e s', err e s' → GrantTurn bucket account p s φ (.ended (.error e)) s') :
    φ.Steps caller bucket account p s := by
  unfold Steps
  rw [hprogram]
  exact hcall.step_phase hok fun e s' he => ⟨.ended (.error e), rfl, herr e s' he⟩

/-- Without faults queued, a call for a user fails when the user is gone. -/
theorem lost_of_failed {φ : GrantPhase} {kind : CallKind} {e : Failure} {s' : State}
    (hs : s.store.FaultFree) (hφ : φ.needsUser = true)
    (h : (s' = s ∧ s.store.users.get? account = none) ∨ ∃ code, Faulted kind code s s') :
    GrantTurn bucket account p s φ (.ended (.error e)) s' := by
  rcases h with ⟨rfl, hu⟩ | ⟨code, hfault⟩
  · exact .lost hu hφ
  · exact hfault.elim hs

theorem creating_steps (hs : s.store.FaultFree) : creating.Steps caller bucket account p s := by
  have hcall := @Memory.createUser_ensures caller account account (.grant .createUser) s rfl
  have hgrant : creating.program bucket account p = _ := congrArg ExceptT.run (grant_eq _ _ _)
  unfold Steps
  rw [hgrant, granting]
  rcases hcall.step_bind_run _ with ⟨v, s', ⟨hu, rfl⟩, hstep⟩ | ⟨e, s', hfailed, hstep⟩
  · exact ⟨.clearing [], _, hstep, .created hu⟩
  · rcases hfailed with ⟨rfl, ⟨r, hu⟩, hcode⟩ | ⟨code, hfault⟩
    · refine ⟨.checking e, s', hstep.trans ?_, .found hu⟩
      dsimp only
      rw [if_pos hcode]
      rfl
    · exact hfault.elim hs

theorem checking_steps (hs : s.store.FaultFree) (taken : Failure) :
    (checking taken).Steps caller bucket account p s := by
  refine .of_call rfl (Memory.listUserPolicies_ensures rfl) ?_ fun _ _ => lost_of_failed hs rfl
  rintro _ s' ⟨r, hu, rfl, rfl⟩
  dsimp only [Option.getD_some]
  split
  case isTrue hany =>
    exact ⟨.ended (.error taken), rfl, .refused hu fun hfree => freeFor_some_iff.1 hfree hany⟩
  case isFalse hany => exact ⟨.listing, rfl, .admitted hu (freeFor_some_iff.2 hany)⟩

theorem listing_steps (hs : s.store.FaultFree) : listing.Steps caller bucket account p s := by
  refine .of_call rfl (Memory.listAccessKeys_ensures rfl) ?_ fun _ _ => lost_of_failed hs rfl
  rintro _ s' ⟨r, hu, rfl, rfl⟩
  exact ⟨.clearing r.keys.keys, rfl, .listed hu⟩

theorem clearing_cons_steps (hs : s.store.FaultFree) (key : String) (keys : List String) :
    (clearing (key :: keys)).Steps caller bucket account p s := by
  have hclear : (clearing (key :: keys)).program bucket account p = _ :=
    congrArg ExceptT.run (clear_cons bucket account p key keys)
  cases hu : s.store.users.get? account with
  | none =>
    have hnone : Memory.perform caller (.deleteAccessKey account key) s =
        (.error (Memory.noSuchUser account), s) := by
      simp only [Memory.perform, hu]
    refine .of_call hclear (Memory.ensures_of_gone rfl hnone) ?_ ?_
    · rintro _ s' (⟨-, rfl⟩ | ⟨code, hfault, -⟩)
      · exact ⟨.clearing keys, rfl, .skipped hu⟩
      · exact hfault.elim hs
    · rintro _ s' ⟨code, hfault, -⟩
      exact hfault.elim hs
  | some r =>
    refine .of_call hclear (Memory.deleteAccessKey_ensures hu rfl) ?_ ?_
    · rintro _ s' (rfl | ⟨code, hfault, -⟩)
      · exact ⟨.clearing keys, rfl, .cleared hu⟩
      · exact hfault.elim hs
    · rintro _ s' ⟨code, hfault, -⟩
      exact hfault.elim hs

theorem clearing_nil_steps (hs : s.store.FaultFree) :
    (clearing []).Steps caller bucket account p s := by
  refine .of_call rfl (Memory.putUserPolicy_ensures rfl) ?_ fun _ _ => lost_of_failed hs rfl
  rintro _ s' ⟨r, hu, -, rfl⟩
  exact ⟨.drawing, rfl, .attached hu⟩

theorem drawing_steps (hs : s.store.FaultFree) : drawing.Steps caller bucket account p s := by
  refine .of_call rfl (Memory.createAccessKey_ensures rfl) ?_ ?_
  · rintro _ s' ⟨rfl, r, hu, rfl⟩
    exact ⟨.ended (.ok (.ofKey (s.keys 0) p)), rfl, .drawn hu⟩
  · rintro e s' (⟨rfl, hfull⟩ | ⟨code, hfault⟩)
    · cases hu : s'.store.users.get? account with
      | none => exact .lost hu rfl
      | some r => exact .full hu (hfull r hu)
    · exact hfault.elim hs

/-- Without faults queued, every turn of a grant is one of those described. -/
theorem steps (φ : GrantPhase) (hs : s.store.FaultFree) : φ.Steps caller bucket account p s := by
  cases φ with
  | creating => exact creating_steps hs
  | checking taken => exact checking_steps hs taken
  | listing => exact listing_steps hs
  | clearing keys =>
    cases keys with
    | nil => exact clearing_nil_steps hs
    | cons key keys => exact clearing_cons_steps hs key keys
  | drawing => exact drawing_steps hs
  | ended result => exact ⟨.ended result, s, rfl, .ended⟩

end GrantPhase

/-- A turn of a grant queues no faults. -/
theorem GrantTurn.faultFree {φ next : GrantPhase} {s' : State}
    (h : GrantTurn bucket account p s φ next s') (hs : s.store.FaultFree) : s'.store.FaultFree := by
  cases h <;> exact hs

/-- A grant that has ended does nothing at its turn. -/
theorem GrantTurn.of_ended {result : Except Failure Credentials} {next : GrantPhase} {s' : State}
    (h : GrantTurn bucket account p s (.ended result) next s') : next = .ended result ∧ s' = s := by
  cases h with
  | ended => exact ⟨rfl, rfl⟩
  | lost hu hneeds => cases hneeds

/-! ## Grants for one account -/

section

variable {ι : Type} [DecidableEq ι] {callers buckets : ι → String} {params : ι → Parameters}

/-- Grants for buckets to one account, before any has begun. -/
def grants (buckets : ι → String) (account : String) (params : ι → Parameters) (s : State) :
    Race (fun _ : ι => Except Failure Credentials) State :=
  ⟨fun i => (grant (buckets i) account (params i)).run, s⟩

/-- The race of grants that have come so far. -/
abbrev grantsAt (buckets : ι → String) (account : String) (params : ι → Parameters)
    (φ : ι → GrantPhase) (s : State) : Race (fun _ : ι => Except Failure Credentials) State :=
  .ofPhases (fun i => GrantPhase.program (buckets i) account (params i)) φ s

/-- A grant that has ended stays so, whoever takes a turn. -/
theorem GrantTurn.update_of_ended {φ : ι → GrantPhase} {i j : ι} {next : GrantPhase} {s' : State}
    {result : Except Failure Credentials} (h : GrantTurn bucket account p s (φ i) next s')
    (hj : φ j = .ended result) : Function.update φ i next j = .ended result := by
  by_cases hji : j = i
  · rw [← hji, hj] at h
    rw [hji, Function.update_self, h.of_ended.1]
  · rw [Function.update_of_ne hji, hj]

/-- What every turn of a grant preserves holds throughout a race of grants without faults, if the
race is of some kind at all times. -/
theorem grants_invariant {P : Race (fun _ : ι => Except Failure Credentials) State → Prop}
    {I : (ι → GrantPhase) → State → Prop}
    (hstep : ∀ φ s i next s', P (grantsAt buckets account params φ s) → I φ s →
      GrantTurn (buckets i) account (params i) s (φ i) next s' → I (Function.update φ i next) s')
    {φ : ι → GrantPhase} (hs : s.store.FaultFree) (hI : I φ s) {turns : List ι}
    (hP : ∀ before, before <+: turns →
      P ((grantsAt buckets account params φ s).run (fun i => answer (callers i)) before)) :
    ∃ φ' s', (grantsAt buckets account params φ s).run (fun i => answer (callers i)) turns =
      grantsAt buckets account params φ' s' ∧ s'.store.FaultFree ∧ I φ' s' := by
  refine Race.run_invariant_of (I := fun φ s => s.store.FaultFree ∧ I φ s) ?_ ⟨hs, hI⟩ hP
  rintro φ s i hPs ⟨hs, hI⟩
  obtain ⟨next, s', hturn, hgrant⟩ := GrantPhase.steps (φ i) hs
  exact ⟨next, s', hturn, hgrant.faultFree hs, hstep φ s i next s' hPs hI hgrant⟩

end

/-- A state for single runs, with an account `u` that has the policy of the bucket `b` and a key. -/
def shared : State :=
  ⟨⟨.empty, .ofList [("u", ⟨.ofList [(Policy.name "b", "")], .ofList [("k", "s")]⟩)],
    fun _ => []⟩, fun n => ⟨"new" ++ n.repr, "secret"⟩⟩

theorem shared_freeFor : FreeFor "b" (shared.store.users.get? "u") := by
  rintro _ ⟨⟩ name hname
  obtain rfl := List.mem_singleton.1 hname
  rfl

end BucketDriver.Provision
