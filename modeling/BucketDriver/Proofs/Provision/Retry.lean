import BucketDriver.Proofs.Provision.Revoke
import Mathlib.Algebra.Order.BigOperators.Group.List
import Mathlib.Algebra.Order.Ring.Nat

/-!
# Retries converge

A grant and a revocation may be tried again and again. From an account that is free for the bucket,
a try that fails has taken a fault of its own calls and leaves the account free, so of the tries
made one after the other no more fail than faults were queued, and nothing that a failed try leaves
behind makes a later one fail: `retries_converge`.

What is proved of one try is `grant_resumes` and `revoke_resumes`. That one of many tries succeeds
when each pays for its failure is `Attempt.exists_ok_mem_results`, for any attempts at all.
-/

namespace BucketDriver.Memory.Store

/-- How many faults are queued for some kinds of calls. -/
def queued (s : Store) (kinds : List CallKind) : Nat :=
  (kinds.map fun kind => (s.faults kind).length).sum

variable {s s' : Store} {kinds : List CallKind}

/-- Calls queue no faults. -/
theorem queued_le (h : s.Spends s') : s'.queued kinds ≤ s.queued kinds := by
  refine List.sum_le_sum fun kind _ => ?_
  have hlength := h.length_taken kind
  omega

/-- When a fault was taken, fewer are queued. -/
theorem queued_lt (h : s.Spends s') (htook : ∃ kind ∈ kinds, s.taken s' kind ≠ []) :
    s'.queued kinds < s.queued kinds := by
  have hle : ∀ kind ∈ kinds, (s'.faults kind).length ≤ (s.faults kind).length := by
    intro kind _
    have hlength := h.length_taken kind
    omega
  obtain ⟨kind, hkind, hne⟩ := htook
  have hpos := List.length_pos_iff.2 hne
  have hlength := h.length_taken kind
  exact List.sum_lt_sum _ _ hle ⟨kind, hkind, by omega⟩

end BucketDriver.Memory.Store

namespace BucketDriver.Attempt

variable {α σ : Type} {h : Handler σ}

/-- The results of attempts made one after the other, whatever comes of each. -/
def results (h : Handler σ) : List (Attempt α) → σ → List (Except Failure α)
  | [], _ => []
  | x :: xs, s => (Program.run h x.run s).1 :: results h xs (Program.run h x.run s).2

variable {P : σ → Prop} {supply : σ → Nat} {s : σ}

/-- An attempt keeps a property, does not add to a supply, and pays for a failure out of the supply.
-/
def Pays (h : Handler σ) (P : σ → Prop) (supply : σ → Nat) (x : Attempt α) : Prop :=
  ∀ s, P s → Ensures h x s (fun _ s' => P s' ∧ supply s' ≤ supply s)
    (fun _ s' => P s' ∧ supply s' < supply s)

/-- Of attempts that pay for their failures, one of more than the supply allows succeeds: by
induction on the attempts. -/
theorem exists_ok_mem_results {xs : List (Attempt α)} (hxs : ∀ x ∈ xs, Pays h P supply x) (hs : P s)
    (hlength : supply s < xs.length) : ∃ a, .ok a ∈ results h xs s := by
  induction xs generalizing s with
  | nil => cases hlength
  | cons x xs ih =>
    obtain ⟨hx, hxs⟩ := List.forall_mem_cons.1 hxs
    rw [results]
    rcases hrun : Program.run h x.run s with ⟨f | a, s'⟩
    · obtain ⟨hs', hless⟩ := (hx s hs).of_run_error hrun
      have hlength' : supply s' < xs.length := by
        rw [List.length_cons] at hlength
        omega
      obtain ⟨a, ha⟩ := ih hxs hs' hlength'
      exact ⟨a, List.mem_cons_of_mem _ ha⟩
    · exact ⟨a, List.mem_cons_self⟩

/-- The same of attempts that come after others: by induction on those that come before, which only
use up the supply. -/
theorem exists_ok_mem_drop_results {before row : List (Attempt α)}
    (hbefore : ∀ x ∈ before, Pays h P supply x) (hrow : ∀ x ∈ row, Pays h P supply x) (hs : P s)
    (hlength : supply s < row.length) :
    ∃ a, .ok a ∈ (results h (before ++ row) s).drop before.length := by
  induction before generalizing s with
  | nil => exact exists_ok_mem_results hrow hs hlength
  | cons x before ih =>
    obtain ⟨hx, hbefore⟩ := List.forall_mem_cons.1 hbefore
    have hnext : P (Program.run h x.run s).2 ∧ supply (Program.run h x.run s).2 ≤ supply s := by
      refine Ensures.run (P := fun _ s' => P s' ∧ supply s' ≤ supply s) ?_
      exact (hx s hs).mono (fun _ _ h => h) fun _ _ h => ⟨h.1, Nat.le_of_lt h.2⟩
    exact ih hbefore hnext.1 (Nat.lt_of_le_of_lt hnext.2 hlength)

end BucketDriver.Attempt

namespace BucketDriver.Provision

open Attempt (Ensures Pays results)
open Memory (State UserRecord answer)
open Memory.Store (TookNone TookOnly exists_taken)

variable {caller bucket account : String} {s s' : State} {f : Failure} {p : Parameters}

/-- From the account as it is, a grant and a revocation that meet no faults succeed, whatever else
there is in the store. -/
def Retriable (bucket account : String) (s : State) : Prop :=
  ∀ s' : State, s'.store.users.get? account = s.store.users.get? account →
    ((∀ kind ∈ grantKinds, s'.store.faults kind = []) → ∀ caller p, ∃ c s'',
      Program.run (answer caller) (grant bucket account p).run s' = (.ok c, s'')) ∧
    ((∀ kind ∈ revokeKinds, s'.store.faults kind = []) → ∀ caller, ∃ u s'',
      Program.run (answer caller) (revoke bucket account).run s' = (.ok u, s''))

/-- What comes of trying an operation on an account of a bucket, from a state on. -/
structure Converges {α ι : Type} (caller bucket account : String) (kinds : List CallKind)
    (tries : ι → Attempt α) (s : State) : Prop where
  /-- A try that fails has taken a fault of one of the operation's calls. -/
  pays : ∀ i f s', Program.run (answer caller) (tries i).run s = (.error f, s') →
    ∃ kind ∈ kinds, s.store.taken s'.store kind ≠ []
  /-- A try that fails leaves the account free for the bucket. -/
  free : ∀ i f s', Program.run (answer caller) (tries i).run s = (.error f, s') →
    FreeFor bucket (s'.store.users.get? account)
  /-- A try that fails leaves nothing behind that stands in the way of a retry. -/
  retriable : ∀ i f s', Program.run (answer caller) (tries i).run s = (.error f, s') →
    Retriable bucket account s'
  /-- Of more tries in a row than faults were queued one succeeds, wherever the row begins. -/
  succeeds : ∀ before row : List ι, s.store.queued kinds < row.length →
    ∃ a, .ok a ∈ (results (answer caller) ((before ++ row).map tries) s).drop before.length

/-- Where no faults are queued for some kinds of calls, none are taken. -/
theorem tookNone_of_queued {kinds : List CallKind}
    (hqueued : ∀ kind ∈ kinds, s.store.faults kind = []) : TookNone kinds s.store s'.store := by
  refine .of_queued fun kind hkind code hcode => ?_
  rw [hqueued kind hkind] at hcode
  cases hcode

/-- Nothing stands in the way of a retry from an account that is free for the bucket. -/
theorem retriable_of_freeFor (hfree : FreeFor bucket (s.store.users.get? account)) :
    Retriable bucket account s := by
  intro s' hsame
  rw [← hsame] at hfree
  constructor
  · intro hqueued caller p
    rcases hrun : Program.run (answer caller) (grant bucket account p).run s' with ⟨f | c, s''⟩
    · have hrefused := grant_ensures.of_run_error hrun
      exact absurd hfree (hrefused.cause (tookNone_of_queued hqueued)).1
    · exact ⟨c, s'', rfl⟩
  · intro hqueued caller
    rcases hrun : Program.run (answer caller) (revoke bucket account).run s' with ⟨f | u, s''⟩
    · have hfailed := revoke_ensures.of_run_error hrun
      obtain ⟨old, hold, hnot, -⟩ := hfailed.cause (tookNone_of_queued hqueued)
      rw [hold] at hfree
      exact absurd hfree hnot
    · exact ⟨u, s'', rfl⟩

/-- A try of an operation from an account that is free for the bucket: it leaves the account so, and
when it fails it has taken a fault. -/
def Resumes {α : Type} (caller bucket account : String) (kinds : List CallKind) (x : Attempt α) :
    Prop :=
  ∀ s : State, FreeFor bucket (s.store.users.get? account) → Ensures (answer caller) x s
    (fun _ s' => s.store.Spends s'.store ∧ FreeFor bucket (s'.store.users.get? account))
    (fun _ s' => s.store.Spends s'.store ∧ FreeFor bucket (s'.store.users.get? account) ∧
      ∃ kind ∈ kinds, s.store.taken s'.store kind ≠ [])

/-- Such a try pays for its failure with a fault. -/
theorem Resumes.pays {α : Type} {kinds : List CallKind} {x : Attempt α}
    (hx : Resumes caller bucket account kinds x) :
    Pays (answer caller) (fun s => FreeFor bucket (s.store.users.get? account))
      (fun s => s.store.queued kinds) x := by
  intro s hs
  refine (hx s hs).mono ?_ ?_
  · rintro - s' ⟨hspends, hfree⟩
    exact ⟨hfree, Memory.Store.queued_le hspends⟩
  · rintro - s' ⟨hspends, hfree, htook⟩
    exact ⟨hfree, Memory.Store.queued_lt hspends htook⟩

/-- Tries that resume what was begun converge. -/
theorem Resumes.converges {α ι : Type} {kinds : List CallKind} {tries : ι → Attempt α}
    (htries : ∀ i, Resumes caller bucket account kinds (tries i))
    (hs : FreeFor bucket (s.store.users.get? account)) :
    Converges caller bucket account kinds tries s where
  pays i f s' hrun := ((htries i s hs).of_run_error hrun).2.2
  free i f s' hrun := ((htries i s hs).of_run_error hrun).2.1
  retriable i f s' hrun := retriable_of_freeFor ((htries i s hs).of_run_error hrun).2.1
  succeeds before row hlength := by
    have hpays : ∀ is : List ι, ∀ x ∈ is.map tries, Pays (answer caller)
        (fun s => FreeFor bucket (s.store.users.get? account)) (fun s => s.store.queued kinds) x := by
      intro is x hx
      obtain ⟨i, -, rfl⟩ := List.mem_map.1 hx
      exact (htries i).pays
    have hlength' : s.store.queued kinds < (row.map tries).length := by
      rw [List.length_map]
      exact hlength
    rw [List.map_append, ← List.length_map (f := tries)]
    exact Attempt.exists_ok_mem_drop_results (hpays before) (hpays row) hs hlength'

/-! ## Grants and revocations -/

/-- The account stays free for the bucket when the bucket's own policy is attached. -/
theorem FreeFor.attached {r : UserRecord} (h : FreeFor bucket (some r)) :
    FreeFor bucket (some (attached bucket r)) := by
  rintro _ ⟨⟩ name hname
  obtain ⟨document, hdocument⟩ := Dict.mem_keys_iff.1 hname
  unfold Provision.attached UserRecord.withPolicy at hdocument
  dsimp only at hdocument
  rw [Dict.get?_insert] at hdocument
  split at hdocument
  case isTrue heq => exact heq
  case isFalse => exact h r rfl name (Dict.mem_keys_iff.2 ⟨document, hdocument⟩)

/-- The policies alone say whether an account is free. -/
theorem FreeFor.of_policies {r r' : UserRecord} (h : FreeFor bucket (some r))
    (hpolicies : r'.policies ⊆ r.policies) : FreeFor bucket (some r') := by
  rintro _ ⟨⟩ name hname
  obtain ⟨document, hdocument⟩ := Dict.mem_keys_iff.1 hname
  exact h r rfl name (Dict.mem_keys_iff.2 ⟨document, hpolicies name document hdocument⟩)

/-- What a grant leaves behind is free for the bucket. -/
theorem Refused.freeFor (h : Refused bucket account s s' f)
    (hs : FreeFor bucket (s.store.users.get? account)) :
    FreeFor bucket (s'.store.users.get? account) := by
  rcases h.record with (hsame | ⟨r, hready, hu⟩) | ⟨r, hready, hu, -⟩
  · rw [hsame]
    exact hs
  · rw [hu]
    exact hready.free_self
  · rw [hu]
    exact hready.free_self.attached

theorem Granted.freeFor {c : Credentials} (h : Granted bucket account p s s' c) :
    FreeFor bucket (s'.store.users.get? account) := by
  obtain ⟨r, hready, hu, -⟩ := h.record
  rw [hu]
  exact hready.free_self.attached.of_policies (Dict.subset_refl _)

/-- What a revocation leaves behind is free for the bucket. -/
theorem Remains.freeFor {before after : Option UserRecord} (h : Remains bucket before after)
    (hbefore : FreeFor bucket before) : FreeFor bucket after := by
  intro new hnew
  obtain ⟨old, rfl, hstripped⟩ := h new hnew
  have hpolicies : new.policies ⊆ old.policies := by
    rcases hstripped.policies with hsame | herase
    · rw [hsame]
      exact Dict.subset_refl _
    · rw [herase]
      exact Dict.erase_subset _ _
  exact hbefore.of_policies hpolicies new rfl

/-- A grant can be resumed by another. -/
theorem grant_resumes (p : Parameters) : Resumes caller bucket account grantKinds
    (grant bucket account p) := by
  intro s hs
  refine grant_ensures.mono ?_ ?_
  · intro c s' hgranted
    exact ⟨hgranted.spends, hgranted.freeFor⟩
  · intro f s' hrefused
    refine ⟨hrefused.spends, hrefused.freeFor hs, exists_taken fun htook => ?_⟩
    exact (hrefused.cause htook).1 hs

/-- A revocation can be resumed by another. -/
theorem revoke_resumes : Resumes caller bucket account revokeKinds (revoke bucket account) := by
  intro s hs
  refine revoke_ensures.mono ?_ ?_
  · intro u s' hrevoked
    exact ⟨hrevoked.spends, hrevoked.record.freeFor hs⟩
  · intro f s' hfailed
    refine ⟨hfailed.spends, hfailed.record.freeFor hs, exists_taken fun htook => ?_⟩
    obtain ⟨old, hold, hnot, -⟩ := hfailed.cause htook
    rw [hold] at hs
    exact hnot hs

/-- Retries converge. From every state in which the account is free for the bucket, with any faults
queued: a grant that fails has taken a fault of its six calls and leaves the account free and
nothing in the way of a retry, and of more grants in a row than faults are queued for those calls
one succeeds; and so does a revocation, with its five calls. -/
theorem retries_converge (hfree : FreeFor bucket (s.store.users.get? account)) :
    Converges caller bucket account grantKinds (grant bucket account) s ∧
      Converges caller bucket account revokeKinds (fun _ : Unit => revoke bucket account) s :=
  ⟨Resumes.converges grant_resumes hfree, Resumes.converges (fun _ => revoke_resumes) hfree⟩

/-- A state with an account `u` that has as many keys as it may have, and with three faults: one
that fails a grant at once, and two that say that a key is gone, so that a grant deletes none and
finds no room for another. -/
def hindered : State :=
  ⟨⟨.empty,
      .ofList [("u", ⟨.ofList [(Policy.name "b", "")], .ofList [("k1", "s1"), ("k2", "s2")]⟩)],
      fun kind => match kind with
        | .createUser => ["Throttling"]
        | .deleteAccessKey => [" NotFound", "NoSuchEntity"]
        | _ => []⟩,
    fun n => ⟨"new" ++ n.repr, "secret"⟩⟩

/-- The first two grants fail, and one of the next four succeeds. -/
theorem retries_converge_hindered :
    ∃ f₁ f₂ rest, results (answer "AK") (List.replicate 6 (grant "b" "u" sample)) hindered =
      .error f₁ :: .error f₂ :: rest ∧ ∃ c, .ok c ∈ rest := by
  have hfree : FreeFor "b" (hindered.store.users.get? "u") := by
    rintro _ ⟨⟩ name hname
    obtain rfl := List.mem_singleton.1 hname
    rfl
  have hqueued : hindered.store.queued grantKinds < 4 := by decide
  have hconverges : Converges "AK" "b" "u" grantKinds (grant "b" "u") hindered :=
    (retries_converge hfree).1
  obtain ⟨c, hc⟩ := hconverges.succeeds (List.replicate 2 sample) (List.replicate 4 sample) hqueued
  exact ⟨_, _, _, rfl, c, hc⟩

end BucketDriver.Provision
