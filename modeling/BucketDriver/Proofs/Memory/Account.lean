import BucketDriver.Proofs.Attempt
import BucketDriver.Proofs.Dictionary
import BucketDriver.Proofs.Memory.Faults

/-!
# Calls about one account

The calls of grants and revocations all name one user. `SameBut` says what such a call leaves alone:
the buckets, the other users, the keys to come and all but the front of the queues of faults. For
each call made for an action there is then one specification (`createUser_ensures` and so on) that
says how the call ends and in which state, faults included: a call that takes a fault does nothing
else (`Faulted`), and its error counts as success only where the action tolerates absence and the
code says so.
-/

namespace BucketDriver.Memory

open Attempt (Ensures)

namespace Store

variable {s : Store} {user user' : String} {record : UserRecord}

theorem get?_setUser :
    (s.setUser user record).users.get? user' =
      if user' = user then some record else s.users.get? user' :=
  Dict.get?_insert _ _ _ _

@[simp] theorem get?_setUser_self : (s.setUser user record).users.get? user = some record :=
  Dict.get?_insert_self _ _ _

theorem get?_dropUser :
    (s.dropUser user).users.get? user' = if user' = user then none else s.users.get? user' :=
  Dict.get?_erase _ _ _

@[simp] theorem get?_dropUser_self : (s.dropUser user).users.get? user = none :=
  Dict.get?_erase_self _ _

/-- Replacing a user's record by itself changes nothing. -/
theorem setUser_eq_self (h : s.users.get? user = some record) : s.setUser user record = s := by
  unfold setUser
  rw [Dict.insert_eq_self h]

end Store

/-- Nothing but one user and the queues of faults differs, and the queues only by faults taken. -/
structure Confined (user : String) (s s' : Store) : Prop where
  /-- The buckets are the same. -/
  buckets : s'.buckets = s.buckets
  /-- The other users are the same. -/
  others : ∀ v, v ≠ user → s'.users.get? v = s.users.get? v
  /-- The queues of faults are rests. -/
  spends : s.Spends s'

namespace Confined

variable {user : String} {s s₁ s₂ : Store}

theorem refl (user : String) (s : Store) : Confined user s s :=
  ⟨rfl, fun _ _ => rfl, Store.Spends.refl s⟩

theorem trans (h₁ : Confined user s s₁) (h₂ : Confined user s₁ s₂) : Confined user s s₂ where
  buckets := h₂.buckets.trans h₁.buckets
  others v hv := (h₂.others v hv).trans (h₁.others v hv)
  spends := h₁.spends.trans h₂.spends

theorem setUser (user : String) (s : Store) (record : UserRecord) :
    Confined user s (s.setUser user record) where
  buckets := rfl
  others v hv := by rw [Store.get?_setUser, if_neg hv]
  spends := Store.Spends.refl s

theorem dropUser (user : String) (s : Store) : Confined user s (s.dropUser user) where
  buckets := rfl
  others v hv := by rw [Store.get?_dropUser, if_neg hv]
  spends := Store.Spends.refl s

end Confined

/-- Nothing but one user and the queues of faults differs, and no key was drawn. -/
structure SameBut (user : String) (s s' : State) : Prop extends Confined user s.store s'.store where
  /-- The keys to come are the same. -/
  keys : s'.keys = s.keys

namespace SameBut

variable {user : String} {s s₁ s₂ : State}

theorem refl (user : String) (s : State) : SameBut user s s :=
  ⟨.refl user s.store, rfl⟩

theorem trans (h₁ : SameBut user s s₁) (h₂ : SameBut user s₁ s₂) : SameBut user s s₂ :=
  ⟨h₁.toConfined.trans h₂.toConfined, h₂.keys.trans h₁.keys⟩

theorem setUser (user : String) (s : State) (record : UserRecord) :
    SameBut user s { s with store := s.store.setUser user record } :=
  ⟨.setUser user s.store record, rfl⟩

theorem dropUser (user : String) (s : State) :
    SameBut user s { s with store := s.store.dropUser user } :=
  ⟨.dropUser user s.store, rfl⟩

theorem of_faulted {kind : CallKind} {code : String} (user : String)
    (h : Faulted kind code s s₁) : SameBut user s s₁ :=
  ⟨⟨h.buckets, fun v _ => by rw [h.users], h.spends⟩, h.keys⟩

end SameBut

/-! ## How a call ends -/

variable {caller user resource : String} {a : Action} {s : State}

/-- With a fault in its queue a call takes the first one and does nothing else. -/
theorem answer_of_queued {c : Call} {code : String} {rest : List String}
    (h : s.store.faults c.kind = code :: rest) :
    answer caller c s =
      (.error (injected code c.kind), { s with store := s.store.setFaults c.kind rest }) := by
  unfold answer
  rw [h]

/-- Without one it performs what it is called for. -/
theorem answer_of_none {c : Call} (h : s.store.faults c.kind = []) :
    answer caller c s = perform caller c s := by
  unfold answer
  rw [h]

/-- A call takes the first fault of its queue, or performs what it is called for. -/
theorem answer_cases (caller : String) (c : Call) (s : State) :
    (∃ code s', Faulted c.kind code s s' ∧
      answer caller c s = (.error (injected code c.kind), s')) ∨
    answer caller c s = perform caller c s := by
  cases hqueue : s.store.faults c.kind with
  | nil => exact .inr (answer_of_none hqueue)
  | cons code rest => exact .inl ⟨code, _, ⟨rest, hqueue, rfl⟩, answer_of_queued hqueue⟩

/-- The error of a fault says that a resource is absent exactly when the fault's code does. -/
theorem isAbsence_injected_iff {code : String} {kind : CallKind} :
    (injected code kind).IsAbsence ↔ IsAbsenceCode code :=
  ProviderError.isAbsence_withCode_iff

section

variable {c : Call} {ok : Option c.Reply → State → Prop} {err : Failure → State → Prop}

/-- A call for an action that does not tolerate absence fails by every fault. -/
theorem ensures_of_strict (ha : a.toleratesAbsence = false)
    (hfault : ∀ code s' f, Faulted c.kind code s s' → err f s')
    (hperform : Ensures (perform caller) (.settled a resource identityErrors c) s ok err) :
    Ensures (answer caller) (.settled a resource identityErrors c) s ok err := by
  rcases answer_cases caller c s with ⟨code, s', hf, hans⟩ | hans
  · obtain ⟨f, he⟩ := settle_of_not_tolerates ha
    exact Ensures.settled_error hans he (hfault code s' f hf)
  · rw [Ensures.settled_iff] at hperform ⊢
    rw [hans]
    exact hperform

/-- A call for an action that tolerates absence ends well by a fault that says that something is
absent, and fails by every other. -/
theorem ensures_of_tolerant (ha : a.toleratesAbsence = true)
    (habsent : ∀ code s', Faulted c.kind code s s' → IsAbsenceCode code → ok none s')
    (hfault : ∀ code s' f, Faulted c.kind code s s' → ¬ IsAbsenceCode code → err f s')
    (hperform : Ensures (perform caller) (.settled a resource identityErrors c) s ok err) :
    Ensures (answer caller) (.settled a resource identityErrors c) s ok err := by
  rcases answer_cases caller c s with ⟨code, s', hf, hans⟩ | hans
  · by_cases hcode : IsAbsenceCode code
    · exact Ensures.settled_none hans (settle_of_isAbsence ha (isAbsence_injected_iff.2 hcode))
        (habsent code s' hf hcode)
    · have he : ¬ (injected code c.kind).IsAbsence := fun h => hcode (isAbsence_injected_iff.1 h)
      obtain ⟨f, he⟩ := settle_identity_error fun h => he h.2
      exact Ensures.settled_error hans he (hfault code s' f hf hcode)
  · rw [Ensures.settled_iff] at hperform ⊢
    rw [hans]
    exact hperform

/-- A call that looks for a user first, for an action that does not tolerate absence: it ends well
when there is one, and fails when there is none, or by a fault. -/
theorem ensures_of_found {v : UserRecord → c.Reply} {after : UserRecord → State}
    (ha : a.toleratesAbsence = false)
    (hnone : s.store.users.get? user = none →
      perform caller c s = (.error (noSuchUser user), s))
    (hsome : ∀ r, s.store.users.get? user = some r → perform caller c s = (.ok (v r), after r)) :
    Ensures (answer caller) (.settled a resource identityErrors c) s
      (fun w s' => ∃ r, s.store.users.get? user = some r ∧ w = some (v r) ∧ s' = after r)
      (fun _ s' => (s' = s ∧ s.store.users.get? user = none) ∨
        ∃ code, Faulted c.kind code s s') := by
  refine ensures_of_strict ha (fun code s' f hfault => .inr ⟨code, hfault⟩) ?_
  cases hu : s.store.users.get? user with
  | none =>
    obtain ⟨f, he⟩ := settle_of_not_tolerates ha
    exact Ensures.settled_error (hnone hu) he (.inl ⟨rfl, rfl⟩)
  | some r => exact Ensures.settled_ok (hsome r hu) ⟨r, rfl, rfl, rfl⟩

/-- A call that takes something away, for an action that tolerates absence: afterwards it is away,
whether it was there or not, unless a fault says that it is absent. -/
theorem ensures_of_removed {after : State} (ha : a.toleratesAbsence = true)
    (hperform : (∃ v, perform caller c s = (.ok v, after)) ∨ after = s ∧
      ∃ detail, perform caller c s = (.error (.withCode "NoSuchEntity" detail), s)) :
    Ensures (answer caller) (.settled a resource identityErrors c) s
      (fun _ s' => s' = after ∨ ∃ code, Faulted c.kind code s s' ∧ IsAbsenceCode code)
      (fun _ s' => ∃ code, Faulted c.kind code s s' ∧ ¬ IsAbsenceCode code) := by
  refine ensures_of_tolerant ha (fun code s' hfault hcode => .inr ⟨code, hfault, hcode⟩)
    (fun code s' f hfault hcode => ⟨code, hfault, hcode⟩) ?_
  rcases hperform with ⟨v, hans⟩ | ⟨hsame, detail, hans⟩
  · exact Ensures.settled_ok hans (.inl rfl)
  · have he : (ProviderError.withCode "NoSuchEntity" detail).IsAbsence :=
      ProviderError.isAbsence_withCode_iff.2 (by decide)
    exact Ensures.settled_none hans (settle_of_isAbsence ha he) (.inl hsame.symm)

end

/-! ## Calls of a grant -/

/-- Creating a user succeeds when there is none, and then the user has nothing. It fails with
`alreadyExists` when there is one, or by a fault. -/
theorem createUser_ensures (ha : a.toleratesAbsence = false) :
    Ensures (answer caller) (.settled a resource identityErrors (.createUser user)) s
      (fun _ s' => s.store.users.get? user = none ∧
        s' = { s with store := s.store.setUser user .new })
      (fun f s' => (s' = s ∧ (∃ r, s.store.users.get? user = some r) ∧ f.code = .alreadyExists) ∨
        ∃ code, Faulted .createUser code s s') := by
  refine ensures_of_strict ha (fun code s' f hfault => .inr ⟨code, hfault⟩) ?_
  cases hu : s.store.users.get? user with
  | none =>
    have hans : perform caller (.createUser user) s =
        (.ok (), { s with store := s.store.setUser user .new }) := by
      simp only [perform, hu]
    exact Ensures.settled_ok hans ⟨rfl, rfl⟩
  | some r =>
    have hans : perform caller (.createUser user) s = (.error (.withCode "EntityAlreadyExists"
        ("user with name " ++ user ++ " already exists")), s) := by
      simp only [perform, hu]
    exact Ensures.settled_error hans (settle_of_get? (by decide) (by decide) rfl (by decide))
      (.inl ⟨rfl, ⟨r, rfl⟩, rfl⟩)

/-- The policies of a user are listed when there is one. -/
theorem listUserPolicies_ensures (ha : a.toleratesAbsence = false) :
    Ensures (answer caller) (.settled a resource identityErrors (.listUserPolicies user)) s
      (fun v s' => ∃ r, s.store.users.get? user = some r ∧ v = some r.policies.keys ∧ s' = s)
      (fun _ s' => (s' = s ∧ s.store.users.get? user = none) ∨
        ∃ code, Faulted .listUserPolicies code s s') := by
  apply ensures_of_found ha
  · intro hu
    simp only [perform, hu]
  · intro r hu
    simp only [perform, hu]

/-- A policy is put in place when there is a user. -/
theorem putUserPolicy_ensures {policy document : String} (ha : a.toleratesAbsence = false) :
    Ensures (answer caller)
      (.settled a resource identityErrors (.putUserPolicy user policy document)) s
      (fun v s' => ∃ r, s.store.users.get? user = some r ∧ v = some () ∧
        s' = { s with store := s.store.setUser user (r.withPolicy policy document) })
      (fun _ s' => (s' = s ∧ s.store.users.get? user = none) ∨
        ∃ code, Faulted .putUserPolicy code s s') := by
  apply ensures_of_found ha
  · intro hu
    simp only [perform, hu]
  · intro r hu
    simp only [perform, hu]

/-- The keys of a user are listed when there is one. -/
theorem listAccessKeys_ensures (ha : a.toleratesAbsence = false) :
    Ensures (answer caller) (.settled a resource identityErrors (.listAccessKeys user)) s
      (fun v s' => ∃ r, s.store.users.get? user = some r ∧ v = some r.keys.keys ∧ s' = s)
      (fun _ s' => (s' = s ∧ s.store.users.get? user = none) ∨
        ∃ code, Faulted .listAccessKeys code s s') := by
  apply ensures_of_found ha
  · intro hu
    simp only [perform, hu]
  · intro r hu
    simp only [perform, hu]

/-- A user with fewer keys than the most it may have gets the next key of the source. -/
theorem createAccessKey_ensures (ha : a.toleratesAbsence = false) :
    Ensures (answer caller) (.settled a resource identityErrors (.createAccessKey user)) s
      (fun v s' => v = some (s.keys 0) ∧ ∃ r, s.store.users.get? user = some r ∧
        s' = ⟨s.store.setUser user (r.withKey (s.keys 0)), fun n => s.keys (n + 1)⟩)
      (fun _ s' => (s' = s ∧ ∀ r, s.store.users.get? user = some r → maxKeys ≤ r.keys.size) ∨
        ∃ code, Faulted .createAccessKey code s s') := by
  refine ensures_of_strict ha (fun code s' f hfault => .inr ⟨code, hfault⟩) ?_
  cases hu : s.store.users.get? user with
  | none =>
    have hans : perform caller (.createAccessKey user) s = (.error (noSuchUser user), s) := by
      simp only [perform, hu]
    obtain ⟨f, he⟩ := settle_of_not_tolerates ha
    exact Ensures.settled_error hans he (.inl ⟨rfl, fun r hr => nomatch hr⟩)
  | some r =>
    by_cases hsize : maxKeys ≤ r.keys.size
    · have hans : perform caller (.createAccessKey user) s = (.error (.withCode "LimitExceeded"
          ("cannot exceed quota for AccessKeysPerUser: " ++ Decimal.natText maxKeys)), s) := by
        simp only [perform, hu, if_pos hsize]
      obtain ⟨f, he⟩ := settle_of_not_tolerates ha
      refine Ensures.settled_error hans he (.inl ⟨rfl, ?_⟩)
      rintro _ ⟨⟩
      exact hsize
    · have hans : perform caller (.createAccessKey user) s = (.ok (s.keys 0),
          ⟨s.store.setUser user (r.withKey (s.keys 0)), fun n => s.keys (n + 1)⟩) := by
        simp only [perform, hu, if_neg hsize]
      exact Ensures.settled_ok hans ⟨rfl, r, rfl, rfl⟩

/-! ## Calls of a revocation -/

/-- Looking for a user succeeds with a value when there is one and without when there is none, or
by a fault that says so. -/
theorem getUser_ensures (ha : a.toleratesAbsence = true) :
    Ensures (answer caller) (.settled a resource identityErrors (.getUser user)) s
      (fun v s' => (v.isNone = false ∧ s' = s ∧ ∃ r, s.store.users.get? user = some r) ∨
        v.isNone = true ∧ ((s' = s ∧ s.store.users.get? user = none) ∨
          ∃ code, Faulted .getUser code s s' ∧ IsAbsenceCode code))
      (fun _ s' => ∃ code, Faulted .getUser code s s' ∧ ¬ IsAbsenceCode code) := by
  refine ensures_of_tolerant ha (fun code s' hfault hcode => .inr ⟨rfl, .inr ⟨code, hfault, hcode⟩⟩)
    (fun code s' f hfault hcode => ⟨code, hfault, hcode⟩) ?_
  cases hu : s.store.users.get? user with
  | none =>
    have hans : perform caller (.getUser user) s = (.error (noSuchUser user), s) := by
      simp only [perform, hu]
    have he : (noSuchUser user).IsAbsence := ProviderError.isAbsence_withCode_iff.2 (by decide)
    exact Ensures.settled_none hans (settle_of_isAbsence ha he) (.inr ⟨rfl, .inl ⟨rfl, rfl⟩⟩)
  | some r =>
    have hans : perform caller (.getUser user) s = (.ok (), s) := by
      simp only [perform, hu]
    exact Ensures.settled_ok hans (.inl ⟨rfl, rfl, r, rfl⟩)

/-- A call about a user that is not there counts as success where the action tolerates absence. -/
theorem ensures_of_gone {c : Call} (ha : a.toleratesAbsence = true)
    (hnone : perform caller c s = (.error (noSuchUser user), s)) :
    Ensures (answer caller) (.settled a resource identityErrors c) s
      (fun v s' => (v = none ∧ s' = s) ∨ ∃ code, Faulted c.kind code s s' ∧ IsAbsenceCode code)
      (fun _ s' => ∃ code, Faulted c.kind code s s' ∧ ¬ IsAbsenceCode code) := by
  refine ensures_of_tolerant ha (fun code s' hfault hcode => .inr ⟨code, hfault, hcode⟩)
    (fun code s' f hfault hcode => ⟨code, hfault, hcode⟩) ?_
  have he : (noSuchUser user).IsAbsence := ProviderError.isAbsence_withCode_iff.2 (by decide)
  exact Ensures.settled_none hnone (settle_of_isAbsence ha he) (.inl ⟨rfl, rfl⟩)

/-! The other calls of a revocation come after the user was found, so they are specified for a user
that exists. -/

section

variable {record : UserRecord} (hu : s.store.users.get? user = some record)
include hu

/-- The user is without the policy afterwards, whether it had it or not, unless a fault says that
the policy is absent. -/
theorem deleteUserPolicy_ensures {policy : String} (ha : a.toleratesAbsence = true) :
    Ensures (answer caller) (.settled a resource identityErrors (.deleteUserPolicy user policy)) s
      (fun _ s' => s' = { s with store := s.store.setUser user (record.withoutPolicy policy) } ∨
        ∃ code, Faulted .deleteUserPolicy code s s' ∧ IsAbsenceCode code)
      (fun _ s' => ∃ code, Faulted .deleteUserPolicy code s s' ∧ ¬ IsAbsenceCode code) := by
  refine ensures_of_removed ha ?_
  cases hc : record.policies.contains policy with
  | true =>
    exact .inl ⟨(), by simp only [perform, hu, hc, if_true]⟩
  | false =>
    have hsame : record.withoutPolicy policy = record := by
      unfold UserRecord.withoutPolicy
      rw [Dict.erase_eq_self (Dict.contains_eq_false_iff.1 hc)]
    have hans : perform caller (.deleteUserPolicy user policy) s = (.error (.withCode "NoSuchEntity"
        ("policy " ++ policy ++ " is not attached to user " ++ user)), s) := by
      simp only [perform, hu, hc, Bool.false_eq_true, if_false]
    exact .inr ⟨by rw [hsame, Store.setUser_eq_self hu], _, hans⟩

/-- The keys of the user are listed, unless a fault says that the user is absent. -/
theorem listAccessKeys_ensures_of_tolerant (ha : a.toleratesAbsence = true) :
    Ensures (answer caller) (.settled a resource identityErrors (.listAccessKeys user)) s
      (fun v s' => (s' = s ∧ v = some record.keys.keys) ∨
        v = none ∧ ∃ code, Faulted .listAccessKeys code s s' ∧ IsAbsenceCode code)
      (fun _ s' => ∃ code, Faulted .listAccessKeys code s s' ∧ ¬ IsAbsenceCode code) := by
  refine ensures_of_tolerant ha (fun code s' hfault hcode => .inr ⟨rfl, code, hfault, hcode⟩)
    (fun code s' f hfault hcode => ⟨code, hfault, hcode⟩) ?_
  have hans : perform caller (.listAccessKeys user) s = (.ok record.keys.keys, s) := by
    simp only [perform, hu]
  exact Ensures.settled_ok hans (.inl ⟨rfl, rfl⟩)

/-- The user is without the key afterwards, whether it had it or not, unless a fault says that the
key is absent. -/
theorem deleteAccessKey_ensures {keyId : String} (ha : a.toleratesAbsence = true) :
    Ensures (answer caller) (.settled a resource identityErrors (.deleteAccessKey user keyId)) s
      (fun _ s' => s' = { s with store := s.store.setUser user (record.withoutKey keyId) } ∨
        ∃ code, Faulted .deleteAccessKey code s s' ∧ IsAbsenceCode code)
      (fun _ s' => ∃ code, Faulted .deleteAccessKey code s s' ∧ ¬ IsAbsenceCode code) := by
  refine ensures_of_removed ha ?_
  cases hc : record.keys.contains keyId with
  | true =>
    exact .inl ⟨(), by simp only [perform, hu, hc, if_true]⟩
  | false =>
    have hsame : record.withoutKey keyId = record := by
      unfold UserRecord.withoutKey
      rw [Dict.erase_eq_self (Dict.contains_eq_false_iff.1 hc)]
    have hans : perform caller (.deleteAccessKey user keyId) s =
        (.error (.withCode "NoSuchEntity" ("access key " ++ keyId ++ " does not exist")), s) := by
      simp only [perform, hu, hc, Bool.false_eq_true, if_false]
    exact .inr ⟨by rw [hsame, Store.setUser_eq_self hu], _, hans⟩

/-- A user with neither policies nor keys is gone afterwards, and any other stays, with the failure
`failedPrecondition`; a fault leaves the user in any case. -/
theorem deleteUser_ensures (ha : a.toleratesAbsence = true) :
    Ensures (answer caller) (.settled a resource identityErrors (.deleteUser user)) s
      (fun _ s' => (record = .new ∧ s' = { s with store := s.store.dropUser user }) ∨
        ∃ code, Faulted .deleteUser code s s' ∧ IsAbsenceCode code)
      (fun f s' => (record ≠ .new ∧ s' = s ∧ f.code = .failedPrecondition) ∨
        ∃ code, Faulted .deleteUser code s s' ∧ ¬ IsAbsenceCode code) := by
  refine ensures_of_tolerant ha (fun code s' hfault hcode => .inr ⟨code, hfault, hcode⟩)
    (fun code s' f hfault hcode => .inr ⟨code, hfault, hcode⟩) ?_
  have hnew : (record.policies.isEmpty && record.keys.isEmpty) = true ↔ record = .new := by
    obtain ⟨policies, keys⟩ := record
    simp [Dict.isEmpty_iff, UserRecord.new]
  by_cases hr : record = .new
  · have hans : perform caller (.deleteUser user) s =
        (.ok (), { s with store := s.store.dropUser user }) := by
      simp only [perform, hu, if_pos (hnew.2 hr)]
    exact Ensures.settled_ok hans (.inl ⟨hr, rfl⟩)
  · have hans : perform caller (.deleteUser user) s = (.error (.withCode "DeleteConflict"
        ("user " ++ user ++ " still has attached policies or access keys")), s) := by
      simp only [perform, hu, if_neg (fun h => hr (hnew.1 h))]
    exact Ensures.settled_error hans (settle_of_get? (by decide) (by decide) rfl (by decide))
      (.inl ⟨hr, rfl, rfl⟩)

end

end BucketDriver.Memory
