import BucketDriver.Proofs.Service.History
import Mathlib.Data.List.Forall2

/-!
# Without faults the store is two maps

To somebody who sees only whether operations succeed, the store is a registry: it maps the names of
buckets to owners and locations, and accounts to the buckets that they are bound to. `Registry.step`
says what each operation does to a registry and how it ends. `Represents` relates a registry to a
state of the store: the same buckets, and for each account exactly the user that belongs to it.

`Represents.step` is the square of one operation, one lemma an operation, and
`runs_refine_registry` that of any number of them, from the empty store.
-/

namespace BucketDriver.Service

open Attempt (Ensures)
open Memory (State Store UserRecord BucketRecord KeySource Confined)
open Memory.Store (FaultFree TookOnly)
open Provision (FreeFor attached bare Granted Refused Revoked RevokeFailed)

/-! ## The registry -/

/-- What the store comes to when no faults are queued. -/
structure Registry where
  /-- The buckets, by name: the owner, and the location if one was asked for. -/
  buckets : Dict BucketRecord
  /-- The bucket that an account is bound to. -/
  accounts : Dict String

/-- How an operation ends: with success, or with the code of its failure. -/
abbrev Ending := Except Code Unit

namespace Registry

/-- The registry without entries. -/
def empty : Registry := ⟨.empty, .empty⟩

/-- Whether an account is unbound, or bound to the given bucket. -/
def isFreeFor (m : Registry) (bucket account : String) : Bool :=
  (m.accounts.get? account).all (· = bucket)

/-- A new bucket belongs to its creator, who may create it again; to anybody else it is taken. -/
def createBucket (m : Registry) (bucket : String) (p : Parameters) : Ending × Registry :=
  match m.buckets.get? bucket with
  | none =>
    let location := if p.region = "us-east-1" then none else some p.region
    (.ok (), { m with buckets := m.buckets.insert bucket ⟨p.accessKeyId, location⟩ })
  | some r => (if r.owner = p.accessKeyId then .ok () else .error .alreadyExists, m)

/-- A bucket is gone after its deletion, whoever deletes it. -/
def deleteBucket (m : Registry) (bucket : String) : Ending × Registry :=
  (.ok (), { m with buckets := m.buckets.erase bucket })

/-- An account that is unbound or bound to the bucket is bound to it. -/
def grant (m : Registry) (bucket account : String) : Ending × Registry :=
  if m.isFreeFor bucket account then
    (.ok (), { m with accounts := m.accounts.insert account bucket })
  else (.error .alreadyExists, m)

/-- An account that is unbound or bound to the bucket is unbound. -/
def revoke (m : Registry) (bucket account : String) : Ending × Registry :=
  if m.isFreeFor bucket account then
    (.ok (), { m with accounts := m.accounts.erase account })
  else (.error .failedPrecondition, m)

/-- What an operation does to a registry, and how it ends. -/
def step (o : Operation) (m : Registry) : Ending × Registry :=
  match o.request with
  | .createBucket bucket _ => m.createBucket bucket o.parameters
  | .deleteBucket bucket _ => m.deleteBucket bucket
  | .grant bucket account _ => m.grant bucket account
  | .revoke bucket account _ => m.revoke bucket account

end Registry

/-- The ending of an operation, without what it gives. -/
def endingOf (res : Except Failure Response) : Ending :=
  (res.map fun _ => ()).mapError (·.code)

/-! ## What a registry stands for -/

/-- A user's record belongs to the bucket that an account is bound to: there is one exactly when the
account is bound, with the bucket's policy and no other, and with one key at most. -/
def Belongs : Option String → Option UserRecord → Prop
  | none, none => True
  | some bucket, some r =>
    r.policies.entries = [(Policy.name bucket, Policy.document bucket)] ∧ r.keys.size ≤ 1
  | _, _ => False

/-- A registry stands for a state without faults that has its buckets, and the users of its accounts
and no others. -/
structure Represents (m : Registry) (s : State) : Prop where
  /-- No faults are queued. -/
  faultFree : s.store.FaultFree
  /-- The buckets are the same, with their owners and locations. -/
  buckets : s.store.buckets = m.buckets
  /-- Each account has the user that belongs to it. -/
  accounts : ∀ account, Belongs (m.accounts.get? account) (s.store.users.get? account)

variable {m : Registry} {s s' : State} {bucket account : String} {p : Parameters}

/-- A record belongs to a bound account only, and the account is free for its bucket alone. -/
theorem Belongs.freeFor_iff {bound : Option String} {before : Option UserRecord}
    (h : Belongs bound before) : bound.all (· = bucket) = true ↔ FreeFor bucket before := by
  match bound, before, h with
  | none, none, _ => simp [FreeFor]
  | some b, some r, ⟨hpolicies, _⟩ =>
    have hkeys : r.policies.keys = [Policy.name b] := by
      unfold Dict.keys
      rw [hpolicies]
      rfl
    simp [FreeFor, hkeys]

/-- A record that belongs to an account is bound to a bucket. -/
theorem Belongs.exists_bound {bound : Option String} {r : UserRecord}
    (h : Belongs bound (some r)) : ∃ b, bound = some b ∧
      r.policies.entries = [(Policy.name b, Policy.document b)] := by
  match bound, h with
  | some b, ⟨hpolicies, _⟩ => exact ⟨b, rfl, hpolicies⟩

namespace Represents

/-- An account is free in the registry exactly when it is in the store. -/
theorem freeFor_iff (h : Represents m s) :
    m.isFreeFor bucket account = true ↔ FreeFor bucket (s.store.users.get? account) :=
  (h.accounts account).freeFor_iff

/-- Where only one account differs, it is enough to look at that account. -/
theorem of_confined {m' : Registry} (h : Represents m s)
    (hconf : Confined account s.store s'.store) (hbuckets : m'.buckets = m.buckets)
    (hothers : ∀ a, a ≠ account → m'.accounts.get? a = m.accounts.get? a)
    (haccount : Belongs (m'.accounts.get? account) (s'.store.users.get? account)) :
    Represents m' s' := by
  refine ⟨h.faultFree.of_spends hconf.spends, ?_, fun a => ?_⟩
  · rw [hconf.buckets, hbuckets, h.buckets]
  · by_cases ha : a = account
    · rw [ha]
      exact haccount
    · rw [hothers a ha, hconf.others a ha]
      exact h.accounts a

/-! ## One operation -/

/-- A grant that succeeds binds the account, which was free. -/
theorem granted {c : Credentials} (h : Represents m s) (hg : Granted bucket account p s s' c) :
    (m.grant bucket account).1 = .ok () ∧ Represents (m.grant bucket account).2 s' := by
  obtain ⟨r, hready, hu, hgone⟩ := hg.record
  have hfree : m.isFreeFor bucket account = true := h.freeFor_iff.2 hready.free
  have hkeys : r.keys = .empty := hgone (.of_faultFree h.faultFree)
  have hbelongs : Belongs (some bucket) (some ((attached bucket r).withKey (s.keys 0))) := by
    refine ⟨hready.attached_policies, ?_⟩
    have hnew : ((attached bucket r).withKey (s.keys 0)).keys =
        Dict.empty.insert (s.keys 0).id (s.keys 0).secret := by
      show r.keys.insert _ _ = _
      rw [hkeys]
    rw [hnew]
    exact Nat.le_refl 1
  rw [Registry.grant, if_pos hfree]
  refine ⟨rfl, h.of_confined hg.toConfined rfl (fun a ha => ?_) ?_⟩
  · rw [Dict.get?_insert, if_neg ha]
  · rw [Dict.get?_insert_self, hu]
    exact hbelongs

/-- A grant that fails has met an account bound to another bucket, and leaves it. -/
theorem refused {f : Failure} (h : Represents m s) (hr : Refused bucket account s s' f) :
    (m.grant bucket account).1 = .error f.code ∧ Represents (m.grant bucket account).2 s' := by
  obtain ⟨hfree, hcode⟩ := hr.cause (.of_faultFree h.faultFree)
  have hbound : ¬ m.isFreeFor bucket account = true := fun hm => hfree (h.freeFor_iff.1 hm)
  have hsame : s'.store.users.get? account = s.store.users.get? account := by
    -- Whatever else a failed grant can leave was free for the bucket before.
    rcases hr.record with (hsame | ⟨r, hready, -⟩) | ⟨r, hready, -⟩
    · exact hsame
    · exact absurd hready.free hfree
    · exact absurd hready.free hfree
  rw [Registry.grant, if_neg hbound]
  refine ⟨by rw [hcode], h.of_confined hr.toConfined rfl (fun _ _ => rfl) ?_⟩
  rw [hsame]
  exact h.accounts account

/-- A revocation that succeeds unbinds the account, which was free. -/
theorem revoked (h : Represents m s) (hr : Revoked bucket account s s') :
    (m.revoke bucket account).1 = .ok () ∧ Represents (m.revoke bucket account).2 s' := by
  obtain ⟨hgone, hfree⟩ := hr.gone (.of_faultFree h.faultFree)
  rw [Registry.revoke, if_pos (h.freeFor_iff.2 hfree)]
  refine ⟨rfl, h.of_confined hr.toConfined rfl (fun a ha => ?_) ?_⟩
  · rw [Dict.get?_erase, if_neg ha]
  · rw [Dict.get?_erase_self, hgone]
    trivial

/-- A revocation that fails has met an account bound to another bucket. It takes the keys of the
account, but neither the user nor the policy. -/
theorem revokeFailed {f : Failure} (h : Represents m s)
    (hr : RevokeFailed bucket account s s' f) :
    (m.revoke bucket account).1 = .error f.code ∧ Represents (m.revoke bucket account).2 s' := by
  obtain ⟨old, hold, hfree, hcode, hbare⟩ := hr.cause (.of_faultFree h.faultFree)
  have hbound : ¬ m.isFreeFor bucket account = true := by
    rw [h.freeFor_iff, hold]
    exact hfree
  have hbelongs := h.accounts account
  rw [hold] at hbelongs
  obtain ⟨b, hb, hpolicies⟩ := hbelongs.exists_bound
  have hne : Policy.name bucket ≠ Policy.name b := by
    intro hname
    apply hbound
    simp [Registry.isFreeFor, hb, Policy.name_inj.1 hname]
  -- The policy that the revocation is for is not there, so the policies stay.
  have hmissing : old.policies.get? (Policy.name bucket) = none := by
    unfold Dict.get?
    rw [hpolicies, Dict.valueOf, if_neg hne]
    rfl
  rw [Registry.revoke, if_neg hbound]
  refine ⟨by rw [hcode], h.of_confined hr.toConfined rfl (fun _ _ => rfl) ?_⟩
  rw [hb, hbare, bare, Dict.erase_eq_self hmissing]
  exact ⟨hpolicies, Nat.zero_le 1⟩

/-- Where only buckets differ, the accounts have their users still. -/
theorem of_buckets {m' : Registry} {store : Store} (h : Represents m s)
    (hfaults : store.faults = s.store.faults) (husers : store.users = s.store.users)
    (haccounts : m'.accounts = m.accounts) (hbuckets : store.buckets = m'.buckets) :
    Represents m' { s with store } := by
  refine ⟨fun kind => ?_, hbuckets, fun account => ?_⟩
  · show store.faults kind = []
    rw [hfaults]
    exact h.faultFree kind
  · show Belongs (m'.accounts.get? account) (store.users.get? account)
    rw [husers, haccounts]
    exact h.accounts account

/-- The creation of a bucket ends as in the registry. -/
theorem createBucket (h : Represents m s) (bucket : String) (p : Parameters) :
    Ensures (Memory.answer p.accessKeyId) (Provision.createBucket bucket p) s
      (fun _ s' => (m.createBucket bucket p).1 = .ok () ∧
        Represents (m.createBucket bucket p).2 s')
      (fun f s' => (m.createBucket bucket p).1 = .error f.code ∧
        Represents (m.createBucket bucket p).2 s') := by
  refine Provision.createBucket_effect.mono ?_ ?_
  · rintro _ s' ⟨-, ⟨hb, rfl⟩ | ⟨rfl, r, hb, howner⟩ | ⟨code, hfault, -⟩⟩
    -- The bucket is new, or the caller's already; a fault there is none.
    · rw [h.buckets] at hb
      have hlocation : Provision.location? p =
          if p.region = "us-east-1" then none else some p.region := by
        unfold Provision.location? Parameters.isDefaultRegion defaultRegion
        by_cases hregion : p.region = "us-east-1" <;> simp [hregion]
      simp only [Registry.createBucket, hb, ← hlocation, true_and]
      refine h.of_buckets rfl rfl rfl ?_
      rw [Store.setBucket, h.buckets]
    · rw [h.buckets] at hb
      simp only [Registry.createBucket, hb, if_pos howner, true_and]
      exact h
    · exact hfault.elim h.faultFree
  · rintro f s' (⟨rfl, hcode, r, hb, howner⟩ | ⟨code, hfault⟩)
    · rw [h.buckets] at hb
      simp only [Registry.createBucket, hb, if_neg howner, hcode, true_and]
      exact h
    · exact hfault.elim h.faultFree

/-- The deletion of a bucket ends as in the registry. -/
theorem deleteBucket (h : Represents m s) (bucket caller : String) :
    Ensures (Memory.answer caller) (Provision.deleteBucket bucket) s
      (fun _ s' => (m.deleteBucket bucket).1 = .ok () ∧ Represents (m.deleteBucket bucket).2 s')
      (fun f s' => (m.deleteBucket bucket).1 = .error f.code ∧
        Represents (m.deleteBucket bucket).2 s') := by
  refine Provision.deleteBucket_effect.mono ?_ ?_
  · rintro - s' (rfl | ⟨code, hfault, -⟩)
    · refine ⟨rfl, h.of_buckets rfl rfl rfl ?_⟩
      rw [Store.dropBucket, h.buckets]
      rfl
    · exact hfault.elim h.faultFree
  · rintro f s' ⟨code, hfault⟩
    exact hfault.elim h.faultFree

/-- An operation ends in the store as in the registry, and leads to a state that the registry stands
for again. -/
theorem step (h : Represents m s) (o : Operation) :
    endingOf (o.run s).1 = (m.step o).1 ∧ Represents (m.step o).2 (o.run s).2 := by
  obtain ⟨q, p⟩ := o
  unfold Operation.run
  refine Ensures.run (P := fun res s' => endingOf res = (m.step ⟨q, p⟩).1 ∧
    Represents (m.step ⟨q, p⟩).2 s') ?_
  cases q with
  | createBucket bucket context =>
    refine Ensures.bind (h.createBucket bucket p) ?_ ?_
    · exact fun _ s' hok => ⟨hok.1.symm, hok.2⟩
    · exact fun f s' herr => ⟨herr.1.symm, herr.2⟩
  | deleteBucket bucket context =>
    refine Ensures.bind (h.deleteBucket bucket p.accessKeyId) ?_ ?_
    · exact fun _ s' hok => ⟨hok.1.symm, hok.2⟩
    · exact fun f s' herr => ⟨herr.1.symm, herr.2⟩
  | grant bucket account context =>
    refine Ensures.bind Provision.grant_ensures ?_ ?_
    · intro c s' hg
      have hok := h.granted hg
      exact ⟨hok.1.symm, hok.2⟩
    · intro f s' hr
      have herr := h.refused hr
      exact ⟨herr.1.symm, herr.2⟩
  | revoke bucket account context =>
    refine Ensures.bind Provision.revoke_ensures ?_ ?_
    · intro _ s' hr
      have hok := h.revoked hr
      exact ⟨hok.1.symm, hok.2⟩
    · intro f s' hr
      have herr := h.revokeFailed hr
      exact ⟨herr.1.symm, herr.2⟩

end Represents

/-! ## Any number of operations -/

/-- The endings of operations made one after the other, each with the state it leads to. -/
def trace {α σ : Type} (step : Operation → σ → α × σ) (s : σ) : List Operation → List (α × σ)
  | [] => []
  | o :: operations => step o s :: trace step (step o s).2 operations

/-- The square of one operation is that of any number: by induction on the operations. -/
theorem Represents.trace (h : Represents m s) (operations : List Operation) :
    List.Forall₂ (fun concrete abstract =>
        endingOf concrete.1 = abstract.1 ∧ Represents abstract.2 concrete.2)
      (trace Operation.run s operations) (trace Registry.step m operations) := by
  induction operations generalizing m s with
  | nil => exact .nil
  | cons o operations ih =>
    have hstep := h.step o
    exact .cons hstep (ih hstep.2)

/-- The empty registry stands for the empty store. -/
theorem represents_empty (source : KeySource) : Represents .empty ⟨.empty, source⟩ :=
  ⟨fun _ => rfl, rfl, fun _ => trivial⟩

/-- Without faults the store is two maps. Of any operations made one after the other from the empty
store, with any parameters, each ends as it does in the registry, with success or with the same
code, and leads to a state that the registry stands for. -/
theorem runs_refine_registry (source : KeySource) (operations : List Operation) :
    List.Forall₂ (fun concrete abstract =>
        endingOf concrete.1 = abstract.1 ∧ Represents abstract.2 concrete.2)
      (trace Operation.run ⟨.empty, source⟩ operations)
      (trace Registry.step .empty operations) :=
  (represents_empty source).trace operations

end BucketDriver.Service
