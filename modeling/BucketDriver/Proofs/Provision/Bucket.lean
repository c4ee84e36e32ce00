import BucketDriver.Proofs.Memory.Account
import BucketDriver.Provision.Bucket

/-!
# What an operation on a bucket does

Creating and deleting a bucket say nothing about users: `SameUsers` is what both leave alone,
however they end and whatever faults are queued. What they do to the bucket is said by
`createBucket_effect` and `deleteBucket_effect`: without a fault, the one fails only when somebody
else has the bucket, and the other never.
-/

namespace BucketDriver.Memory

open Attempt (Ensures)

/-- Nothing but buckets and the queues of faults differs, and the queues only by faults taken. -/
structure SameUsers (s s' : State) : Prop where
  /-- The users are the same. -/
  users : s'.store.users = s.store.users
  /-- The keys to come are the same. -/
  keys : s'.keys = s.keys
  /-- The queues of faults are rests. -/
  spends : s.store.Spends s'.store

/-- The calls to the object store. -/
def bucketKinds : List CallKind :=
  [.createBucket, .deleteBucket]

variable {caller resource : String} {a : Action} {t : ErrorTable} {s : State} {c : Call}

theorem SameUsers.refl (s : State) : SameUsers s s :=
  ⟨rfl, rfl, Store.Spends.refl s.store⟩

/-- A call about a bucket that no fault is queued for leaves the users. -/
theorem perform_sameUsers (hc : c.kind ∈ bucketKinds) : SameUsers s (perform caller c s).2 := by
  cases c
  case createBucket bucket location =>
    unfold perform
    dsimp only
    split
    · exact .refl s
    · exact ⟨rfl, rfl, Store.Spends.refl s.store⟩
  case deleteBucket bucket =>
    unfold perform
    dsimp only
    split
    · exact ⟨rfl, rfl, Store.Spends.refl s.store⟩
    · exact .refl s
  all_goals exact absurd hc (by simp [bucketKinds, Call.kind])

/-- A call about a bucket leaves the users, with any faults queued. -/
theorem answer_sameUsers (hc : c.kind ∈ bucketKinds) : SameUsers s (answer caller c s).2 := by
  rcases answer_cases caller c s with ⟨code, s', hfault, hans⟩ | hans
  · rw [hans]
    exact ⟨hfault.users, hfault.keys, hfault.spends⟩
  · rw [hans]
    exact perform_sameUsers hc

/-- A call takes the first fault of its queue, whose error ends it well or badly, or is performed.
-/
theorem ensures_of_faulted {ok : Option c.Reply → State → Prop} {err : Failure → State → Prop}
    (hok : ∀ code s', Faulted c.kind code s s' →
      normalize a resource (injected code c.kind) t = .ok () → ok none s')
    (herr : ∀ code s' f, Faulted c.kind code s s' → err f s')
    (hperform : Ensures (perform caller) (.settled a resource t c) s ok err) :
    Ensures (answer caller) (.settled a resource t c) s ok err := by
  rcases answer_cases caller c s with ⟨code, s', hfault, hans⟩ | hans
  · cases hn : normalize a resource (injected code c.kind) t with
    | ok =>
      have he : settle (α := c.Reply) (.error (injected code c.kind)) a resource t = .ok none := by
        rw [settle, hn]
        rfl
      exact Ensures.settled_none hans he (hok code s' hfault hn)
    | error f =>
      have he : settle (α := c.Reply) (.error (injected code c.kind)) a resource t = .error f := by
        rw [settle, hn]
        rfl
      exact Ensures.settled_error hans he (herr code s' f hfault)
  · rw [Ensures.settled_iff] at hperform ⊢
    rw [hans]
    exact hperform

/-- A call about a bucket made for an action leaves the users, whether it succeeds or fails. -/
theorem bucket_ensures (hc : c.kind ∈ bucketKinds) :
    Ensures (answer caller) (.settled a resource t c) s
      (fun _ s' => SameUsers s s') (fun _ s' => SameUsers s s') := by
  have hsame : SameUsers s (answer caller c s).2 := answer_sameUsers hc
  rw [Ensures.settled_iff]
  split <;> exact hsame

end BucketDriver.Memory

namespace BucketDriver.Provision

open Attempt (Ensures)
open Memory (State Store SameUsers Faulted answer perform injected bucketTaken bucket_ensures
  ensures_of_faulted)

variable {caller bucket : String} {p : Parameters} {s : State}

/-- Creating a bucket leaves the users. -/
theorem createBucket_ensures :
    Ensures (answer caller) (createBucket bucket p) s
      (fun _ s' => SameUsers s s') (fun _ s' => SameUsers s s') :=
  Ensures.bind (bucket_ensures List.mem_cons_self) (fun _ _ h => h) fun _ _ h => h

/-- Deleting a bucket leaves the users. -/
theorem deleteBucket_ensures :
    Ensures (answer caller) (deleteBucket bucket) s
      (fun _ s' => SameUsers s s') (fun _ s' => SameUsers s s') :=
  Ensures.bind (bucket_ensures (List.mem_cons_of_mem _ List.mem_cons_self)) (fun _ _ h => h)
    fun _ _ h => h

/-- Creating a bucket makes one with the caller as its owner, and leaves the state alone when the
caller has it already; it fails when somebody else has it. A fault does nothing else, and ends the
creation well only when its code counts as success. -/
theorem createBucket_effect :
    Ensures (answer caller) (createBucket bucket p) s
      (fun name s' => name = bucket ∧
        ((s.store.buckets.get? bucket = none ∧
            s' = { s with store := s.store.setBucket bucket ⟨caller, location? p⟩ }) ∨
          (s' = s ∧ ∃ r, s.store.buckets.get? bucket = some r ∧ r.owner = caller) ∨
          ∃ code, Faulted .createBucket code s s' ∧
            normalize .createBucket bucket (injected code .createBucket) objectStoreErrors = .ok ()))
      (fun f s' =>
        (s' = s ∧ f.code = .alreadyExists ∧
          ∃ r, s.store.buckets.get? bucket = some r ∧ r.owner ≠ caller) ∨
        ∃ code, Faulted .createBucket code s s') := by
  unfold createBucket
  refine Ensures.bind (ensures_of_faulted ?_ ?_ ?_) (fun _ s' h => ⟨rfl, h⟩) (fun _ _ h => h)
  · exact fun code s' hfault hcode => .inr (.inr ⟨code, hfault, hcode⟩)
  · exact fun code s' f hfault => .inr ⟨code, hfault⟩
  · cases hb : s.store.buckets.get? bucket with
    | none =>
      have hans : perform caller (.createBucket bucket (location? p)) s =
          (.ok (), { s with store := s.store.setBucket bucket ⟨caller, location? p⟩ }) := by
        simp only [perform, hb]
      exact Ensures.settled_ok hans (.inl ⟨rfl, rfl⟩)
    | some r =>
      have hans : perform caller (.createBucket bucket (location? p)) s =
          (.error (bucketTaken r caller bucket), s) := by
        simp only [perform, hb]
      by_cases howner : r.owner = caller
      · have htaken : bucketTaken r caller bucket =
            .withCode "BucketAlreadyOwnedByYou" ("bucket " ++ bucket ++ " already exists") := by
          rw [bucketTaken, if_pos howner]
        rw [htaken] at hans
        exact Ensures.settled_none hans (settle_of_done (by decide) (by decide) rfl rfl)
          (.inr (.inl ⟨rfl, r, rfl, howner⟩))
      · have htaken : bucketTaken r caller bucket =
            .withCode "BucketAlreadyExists" ("bucket " ++ bucket ++ " already exists") := by
          rw [bucketTaken, if_neg howner]
        rw [htaken] at hans
        exact Ensures.settled_error hans
          (settle_of_get? (by decide) (by decide) rfl (by decide))
          (.inl ⟨rfl, rfl, r, rfl, howner⟩)

/-- Deleting a bucket succeeds and leaves none of that name, whether there was one or not. A fault
does nothing else, and ends the deletion well only when its code counts as success. -/
theorem deleteBucket_effect :
    Ensures (answer caller) (deleteBucket bucket) s
      (fun _ s' => s' = { s with store := s.store.dropBucket bucket } ∨
        ∃ code, Faulted .deleteBucket code s s' ∧
          normalize .deleteBucket bucket (injected code .deleteBucket) objectStoreErrors = .ok ())
      (fun _ s' => ∃ code, Faulted .deleteBucket code s s') := by
  unfold deleteBucket
  refine Ensures.bind (ensures_of_faulted ?_ ?_ ?_) (fun _ s' h => h) (fun _ _ h => h)
  · exact fun code s' hfault hcode => .inr ⟨code, hfault, hcode⟩
  · exact fun code s' f hfault => ⟨code, hfault⟩
  · cases hb : s.store.buckets.get? bucket with
    | some r =>
      have hans : perform caller (.deleteBucket bucket) s =
          (.ok (), { s with store := s.store.dropBucket bucket }) := by
        simp only [perform, hb]
      exact Ensures.settled_ok hans (.inl rfl)
    | none =>
      have hans : perform caller (.deleteBucket bucket) s = (.error (.withCode "NoSuchBucket"
          ("the specified bucket " ++ bucket ++ " does not exist")), s) := by
        simp only [perform, hb]
      have he : (ProviderError.withCode "NoSuchBucket"
          ("the specified bucket " ++ bucket ++ " does not exist")).IsAbsence :=
        ProviderError.isAbsence_withCode_iff.2 (by decide)
      have hsame : s = { s with store := s.store.dropBucket bucket } := by
        rw [Store.dropBucket, Dict.erase_eq_self hb]
      exact Ensures.settled_none hans (settle_of_isAbsence rfl he) (.inl hsame)

end BucketDriver.Provision
