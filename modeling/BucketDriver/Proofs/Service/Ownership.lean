import BucketDriver.Proofs.Blank
import BucketDriver.Proofs.Service.History

/-!
# Buckets and their owners

A bucket belongs to the key that created it and stays where it was created. Some error codes count
as success for an operation on a bucket (`SaysDone`), so a fault with such a code can make an
operation report what is not there. Where no such faults are queued (`Store.Candid`), reports about
buckets are true: `BucketOutcome` says once what an operation does to the buckets, one constructor a
way to end, and `Operation.bucketOutcome` that every operation does one of these.

From it follows what a creation and a deletion that succeed leave, that a failure leaves all
buckets, and, by induction on the events, that a bucket is kept as it is unless it is deleted
(`History.kept_or_deletes`). The main result is `buckets_kept_by_owners`.
-/

namespace BucketDriver.Memory

variable {code : String} {kind : CallKind}

/-- A code that, trimmed, counts as success for some operation on a bucket. -/
def SaysDone (code : String) : Prop :=
  IsAbsenceCode code ∨ Text.trim code = "BucketAlreadyOwnedByYou"

instance : DecidablePred SaysDone := fun code =>
  inferInstanceAs (Decidable (IsAbsenceCode code ∨ Text.trim code = "BucketAlreadyOwnedByYou"))

/-- A fault whose error counts as success has a code that says so. -/
theorem saysDone_of_normalize {a : Action} {resource : String}
    (h : normalize a resource (injected code kind) objectStoreErrors = .ok ()) : SaysDone code := by
  obtain ⟨trimmed, hcode, hdone⟩ := code_of_done h
  have hcode' : Text.trimmed? code = some trimmed := hcode
  unfold Text.trimmed? at hcode'
  split at hcode'
  · cases hcode'
  · obtain rfl := Option.some.inj hcode'
    exact hdone

/-- No fault is queued that lets an operation on a bucket report success by its code. -/
def Store.Candid (s : Store) : Prop :=
  ∀ kind ∈ bucketKinds, ∀ code ∈ s.faults kind, ¬ SaysDone code

instance (s : Store) : Decidable s.Candid :=
  inferInstanceAs (Decidable (∀ kind ∈ bucketKinds, ∀ code ∈ s.faults kind, ¬ SaysDone code))

namespace Store.Candid

variable {s s' : Store}

/-- Faults that are taken leave the others as they are. -/
theorem of_spends (h : s.Candid) (hs : s.Spends s') : s'.Candid :=
  fun kind hkind code hcode => h kind hkind code ((hs kind).subset hcode)

/-- A fault of another kind or without such a code may be queued. -/
theorem failNext (h : s.Candid) (hcode : kind ∈ bucketKinds → ¬ SaysDone code) :
    (s.failNext kind code).Candid := by
  intro kind' hkind' code' hcode'
  unfold Store.failNext setFaults at hcode'
  dsimp only at hcode'
  split at hcode'
  case isTrue heq =>
    subst heq
    rcases List.mem_append.1 hcode' with hold | hnew
    · exact h kind' hkind' code' hold
    · obtain rfl := List.mem_singleton.1 hnew
      exact hcode hkind'
  case isFalse => exact h kind' hkind' code' hcode'

/-- A fault that a call about a bucket takes does not count as success. -/
theorem normalize_ne_ok {s s' : State} {a : Action} {resource : String} (h : s.store.Candid)
    (hkind : kind ∈ bucketKinds) (hfault : Faulted kind code s s') :
    normalize a resource (injected code kind) objectStoreErrors ≠ .ok () := by
  intro hdone
  obtain ⟨rest, hqueue, -⟩ := hfault
  have hcode : code ∈ s.store.faults kind := by
    rw [hqueue]
    exact List.mem_cons_self
  exact h kind hkind code hcode (saysDone_of_normalize hdone)

end Store.Candid

end BucketDriver.Memory

namespace BucketDriver.Service

open Attempt (Ensures)
open Memory (State Store BucketRecord bucketKinds SaysDone)
open Provision (location?)

/-! ## One operation -/

/-- What an operation can do to the buckets, by the way in which it ends, when no fault reports a
success that is none. -/
inductive BucketOutcome (s : Store) : Operation → Except Failure Response → Store → Prop where
  /-- A bucket was created. -/
  | created {name : String} {context : Dict String} {p : Parameters} {s' : Store}
      (hnew : s.buckets.get? name = none)
      (h : s'.buckets = s.buckets.insert name ⟨p.accessKeyId, location? p⟩) :
      BucketOutcome s ⟨.createBucket name context, p⟩ (.ok (.created name)) s'
  /-- The bucket to be created was the caller's already. -/
  | owned {name : String} {context : Dict String} {p : Parameters} {r : BucketRecord} {s' : Store}
      (hr : s.buckets.get? name = some r) (howner : r.owner = p.accessKeyId)
      (h : s'.buckets = s.buckets) :
      BucketOutcome s ⟨.createBucket name context, p⟩ (.ok (.created name)) s'
  /-- A bucket was deleted, or was gone already. -/
  | deleted {bucket : String} {context : Dict String} {p : Parameters} {s' : Store}
      (h : s'.buckets = s.buckets.erase bucket) :
      BucketOutcome s ⟨.deleteBucket bucket context, p⟩ (.ok .deleted) s'
  /-- The operation has failed. -/
  | failed {o : Operation} {f : Failure} {s' : Store} (h : s'.buckets = s.buckets) :
      BucketOutcome s o (.error f) s'
  /-- The operation was on an account. -/
  | account {o : Operation} {res : Except Failure Response} {s' : Store}
      (hservice : o.request.service = .identity) (h : s'.buckets = s.buckets) :
      BucketOutcome s o res s'

variable {s s' : State} {o : Operation} {res : Except Failure Response}

/-- An operation on an account leaves the buckets. -/
theorem Outcome.buckets_eq (h : Outcome s o res s') (hservice : o.request.service = .identity) :
    s'.store.buckets = s.store.buckets := by
  cases h with
  | bucket hbucket _ =>
    rw [hservice] at hbucket
    cases hbucket
  | granted h => exact h.buckets
  | refused h => exact h.buckets
  | revoked h => exact h.buckets
  | revokeFailed h => exact h.buckets

/-- Every operation does one of these. -/
theorem Operation.bucketOutcome (o : Operation) (hs : s.store.Candid) :
    BucketOutcome s.store o (o.run s).1 (o.run s).2.store := by
  obtain ⟨q, p⟩ := o
  cases q with
  | createBucket name context =>
    refine Ensures.run (P := fun res (s' : State) =>
      BucketOutcome s.store ⟨.createBucket name context, p⟩ res s'.store) ?_
    refine Ensures.bind Provision.createBucket_effect ?_ ?_
    -- The third success would be one by the code of a fault, and no such fault is queued.
    · rintro _ s' ⟨rfl, ⟨hnew, rfl⟩ | ⟨rfl, r, hr, howner⟩ | ⟨code, hfault, hdone⟩⟩
      · exact Ensures.pure_iff.2 (.created hnew rfl)
      · exact Ensures.pure_iff.2 (.owned hr howner rfl)
      · exact absurd hdone (hs.normalize_ne_ok List.mem_cons_self hfault)
    · rintro f s' (⟨rfl, -⟩ | ⟨code, hfault⟩)
      · exact .failed rfl
      · exact .failed hfault.buckets
  | deleteBucket bucket context =>
    refine Ensures.run (P := fun res (s' : State) =>
      BucketOutcome s.store ⟨.deleteBucket bucket context, p⟩ res s'.store) ?_
    refine Ensures.bind Provision.deleteBucket_effect ?_ ?_
    · rintro - s' (rfl | ⟨code, hfault, hdone⟩)
      · exact Ensures.pure_iff.2 (.deleted rfl)
      · exact absurd hdone (hs.normalize_ne_ok (by decide) hfault)
    · rintro f s' ⟨code, hfault⟩
      exact .failed hfault.buckets
  | grant bucket account context => exact .account rfl ((Operation.outcome _ s).buckets_eq rfl)
  | revoke bucket account context => exact .account rfl ((Operation.outcome _ s).buckets_eq rfl)

namespace BucketOutcome

variable {s s' : Store} {name : String} {context : Dict String} {p : Parameters}

/-- A creation that succeeds gives the name, and leaves a bucket of the caller's, as it was or new.
-/
theorem of_created {response : Response}
    (h : BucketOutcome s ⟨.createBucket name context, p⟩ (.ok response) s') :
    response = .created name ∧ ∃ r, s'.buckets.get? name = some r ∧ r.owner = p.accessKeyId ∧
      (s.buckets.get? name = some r ∨ s.buckets.get? name = none ∧ r.location = location? p) := by
  cases h with
  | created hnew h =>
    refine ⟨rfl, ⟨p.accessKeyId, location? p⟩, ?_, rfl, .inr ⟨hnew, rfl⟩⟩
    rw [h, Dict.get?_insert_self]
  | owned hr howner h => exact ⟨rfl, _, by rw [h, hr], howner, .inl hr⟩
  | account hservice h => cases hservice

/-- A deletion that succeeds leaves no bucket of the name. -/
theorem of_deleted {response : Response}
    (h : BucketOutcome s ⟨.deleteBucket name context, p⟩ (.ok response) s') :
    s'.buckets.get? name = none := by
  cases h with
  | deleted h => rw [h, Dict.get?_erase_self]
  | account hservice h => cases hservice

/-- A failure leaves all buckets. -/
theorem of_error {f : Failure} (h : BucketOutcome s o (.error f) s') : s'.buckets = s.buckets := by
  cases h with
  | failed h => exact h
  | account _ h => exact h

/-- An operation that succeeds in deleting a bucket. -/
def Deletes (name : String) (o : Operation) (res : Except Failure Response) : Prop :=
  ∃ context p response, o = ⟨.deleteBucket name context, p⟩ ∧ res = .ok response

/-- A bucket that is there is left as it is by every operation but its deletion. -/
theorem kept_or_deletes {r : BucketRecord} (h : BucketOutcome s o res s')
    (hr : s.buckets.get? name = some r) :
    s'.buckets.get? name = some r ∨ Deletes name o res := by
  cases h with
  | @created new context p s' hnew h =>
    have hne : name ≠ new := fun heq => by
      rw [heq, hnew] at hr
      cases hr
    exact .inl (by rw [h, Dict.get?_insert, if_neg hne, hr])
  | owned _ _ h => exact .inl (by rw [h, hr])
  | @deleted bucket context p s' h =>
    by_cases heq : name = bucket
    · exact .inr ⟨context, p, .deleted, by rw [heq], rfl⟩
    · exact .inl (by rw [h, Dict.get?_erase, if_neg heq, hr])
  | failed h => exact .inl (by rw [h, hr])
  | account _ h => exact .inl (by rw [h, hr])

end BucketOutcome

/-! ## Any number of events -/

/-- An event that queues no fault that lets an operation on a bucket report success by its code. -/
def Event.Candid : Event → Prop
  | .operation _ => True
  | .fault kind code => kind ∈ bucketKinds → ¬ SaysDone code

instance : DecidablePred Event.Candid
  | .operation _ => .isTrue trivial
  | .fault kind code => inferInstanceAs (Decidable (kind ∈ bucketKinds → ¬ SaysDone code))

namespace History

variable {h : History} {events later : List Event} {name : String} {r : BucketRecord}

/-- A bucket is deleted by one of the events that come after a history. -/
def Deletes (h : History) (later : List Event) (name : String) : Prop :=
  ∃ front o rest, later = front ++ .operation o :: rest ∧
    BucketOutcome.Deletes name o (o.run (h.run front).state).1

/-- What is deleted later is deleted. -/
theorem Deletes.cons {e : Event} (hdeletes : (h.step e).Deletes later name) :
    h.Deletes (e :: later) name := by
  obtain ⟨front, o, rest, rfl, ho⟩ := hdeletes
  exact ⟨e :: front, o, rest, rfl, ho⟩

/-- No event lets the queued faults report success. -/
theorem candid_step {e : Event} (hs : h.state.store.Candid) (he : e.Candid) :
    (h.step e).state.store.Candid := by
  cases e with
  | operation o => exact hs.of_spends (o.outcome h.state).spends
  | fault kind code => exact hs.failNext he

/-- Nor do any number of events. -/
theorem candid_run (hs : h.state.store.Candid) (hevents : ∀ e ∈ events, e.Candid) :
    (h.run events).state.store.Candid :=
  run_invariant (P := fun h => h.state.store.Candid) (fun _ _ he hs => candid_step hs he) hs hevents

/-- A bucket that is there is left as it is by every event, or that event deletes it. -/
theorem step_kept_or_deletes {e : Event} (hs : h.state.store.Candid)
    (hr : h.state.store.buckets.get? name = some r) :
    (h.step e).state.store.buckets.get? name = some r ∨ h.Deletes [e] name := by
  cases e with
  | operation o =>
    exact ((o.bucketOutcome hs).kept_or_deletes hr).imp_right fun ho => ⟨[], o, [], rfl, ho⟩
  | fault kind code => exact .inl hr

/-- A bucket that is there is left as it is by any number of events, or one of them deletes it: by
induction on the events. -/
theorem kept_or_deletes (hs : h.state.store.Candid) (hlater : ∀ e ∈ later, e.Candid)
    (hr : h.state.store.buckets.get? name = some r) :
    (h.run later).state.store.buckets.get? name = some r ∨ h.Deletes later name := by
  induction later generalizing h with
  | nil => exact .inl hr
  | cons e later ih =>
    obtain ⟨he, hlater⟩ := List.forall_mem_cons.1 hlater
    rcases step_kept_or_deletes (e := e) hs hr with hkept | ⟨front, o, rest, heq, ho⟩
    · exact (ih (candid_step hs he) hlater hkept).imp_right Deletes.cons
    · refine .inr ⟨front, o, rest ++ later, ?_, ho⟩
      rw [← List.cons_append, ← List.append_assoc, ← heq]
      rfl

end History

/-- Where a caller wants a bucket to be: in the region that they name, trimmed, which is not asked
for when nothing is left of it or when it is the default one. -/
def wantedLocation (region : Option String) : Option String :=
  let trimmed := Text.trim (region.getD "")
  if trimmed = "" ∨ trimmed = "us-east-1" then none else some trimmed

/-- The location that is asked for is the one that the caller wants. -/
theorem location?_withRegion (p : Parameters) (region : Option String) :
    location? (p.withRegion region) = wantedLocation region := by
  unfold location? Parameters.isDefaultRegion Parameters.withRegion wantedLocation
  cases region with
  | none => rfl
  | some value =>
    by_cases hblank : Text.isBlank value = true
    · have hempty := (Text.isBlank_iff_trim_eq_empty value).1 hblank
      simp [Text.trimmed?, hblank, hempty]
    · have hne : Text.trim value ≠ "" := fun h => hblank ((Text.isBlank_iff_trim_eq_empty value).2 h)
      simp [Text.trimmed?, hblank, hne, defaultRegion]

/-- Buckets are kept by their owners. Take any history, from any state, in which no fault is queued
whose code counts as success for an operation on a bucket, and the state that it leads to. A
creation of a bucket from there that succeeds gives its name and leaves a bucket of the caller's,
which is as it was if there was one, and otherwise lies in the region that the caller named. A
deletion that succeeds leaves no bucket of the name. An operation that fails leaves all buckets. And
over any further events without such faults a bucket that is there keeps its owner and its location,
unless one of the events is a deletion of it that succeeds. -/
theorem buckets_kept_by_owners {h : History} {events : List Event}
    (hstart : h.state.store.Candid) (hevents : ∀ e ∈ events, e.Candid) :
    let s := (h.run events).state
    (∀ name context (p : Parameters) region response s',
      Operation.run ⟨.createBucket name context, p.withRegion region⟩ s = (.ok response, s') →
      response = .created name ∧
      ∃ r, s'.store.buckets.get? name = some r ∧ r.owner = p.accessKeyId ∧
        (∀ old, s.store.buckets.get? name = some old → r = old) ∧
        (s.store.buckets.get? name = none → r.location = wantedLocation region)) ∧
    (∀ bucket context p response s',
      Operation.run ⟨.deleteBucket bucket context, p⟩ s = (.ok response, s') →
      s'.store.buckets.get? bucket = none) ∧
    (∀ o f s', Operation.run o s = (.error f, s') → s'.store.buckets = s.store.buckets) ∧
    ∀ name r later, s.store.buckets.get? name = some r → (∀ e ∈ later, e.Candid) →
      ¬ (h.run events).Deletes later name →
      ((h.run events).run later).state.store.buckets.get? name = some r := by
  intro s
  have hs : s.store.Candid := History.candid_run hstart hevents
  have houtcome : ∀ {o : Operation} {res s'}, o.run s = (res, s') →
      BucketOutcome s.store o res s'.store := by
    intro o res s' hrun
    have hout := o.bucketOutcome hs
    rw [hrun] at hout
    exact hout
  refine ⟨fun name context p region response s' hrun => ?_, fun bucket context p response s' hrun => ?_,
    fun o f s' hrun => ?_, fun name r later hr hlater hdeletes => ?_⟩
  · obtain ⟨hresponse, r, hr, howner, hlocation⟩ := (houtcome hrun).of_created
    refine ⟨hresponse, r, hr, howner, fun old hold => ?_, fun hnone => ?_⟩
    · rcases hlocation with hsame | ⟨hnone, -⟩
      · exact Option.some.inj (hsame.symm.trans hold)
      · rw [hnone] at hold
        cases hold
    · rcases hlocation with hsame | ⟨-, hlocation⟩
      · rw [hsame] at hnone
        cases hnone
      · rw [hlocation, location?_withRegion]
  · exact (houtcome hrun).of_deleted
  · exact (houtcome hrun).of_error
  · exact (History.kept_or_deletes hs hlater hr).resolve_right hdeletes

/-- Parameters of the owner with a key. -/
def ownedBy (accessKeyId : String) : Parameters :=
  { Provision.sample with accessKeyId }

/-- The creation of a bucket `b` that a fault keeps one owner from, and that another one succeeds
with. -/
def rivalry : List Event :=
  [.fault .createBucket "AccessDenied", .operation ⟨.createBucket "b" .empty, ownedBy "B"⟩,
    .operation ⟨.createBucket "b" .empty, (ownedBy "A").withRegion (some " eu-west-1\n")⟩]

/-- The deletion of the bucket by its owner, which a fault keeps from its end, the creation of it by
the other one, and the deletion of another bucket. -/
def disputes : List Event :=
  [.fault .deleteBucket " BucketNotEmpty ", .operation ⟨.deleteBucket "b" .empty, ownedBy "A"⟩,
    .operation ⟨.createBucket "b" .empty, ownedBy "B"⟩,
    .operation ⟨.deleteBucket "c" .empty, ownedBy "B"⟩]

/-- The bucket after its creation. -/
def contended : History :=
  (History.start fun _ => ⟨"key", "secret"⟩).run rivalry

/-- The bucket is not deleted: the one deletion of it fails. -/
theorem not_deletes_disputes : ¬ contended.Deletes disputes "b" := by
  rintro ⟨front, o, rest, heq, context, p, response, rfl, hres⟩
  unfold disputes at heq
  rcases front with _ | ⟨e₁, _ | ⟨e₂, _ | ⟨e₃, _ | ⟨e₄, front⟩⟩⟩⟩
  · cases heq
  · cases heq
    have hfails : ∃ f, (Operation.run ⟨.deleteBucket "b" .empty, ownedBy "A"⟩
        (contended.run [.fault .deleteBucket " BucketNotEmpty "]).state).1 = .error f := ⟨_, rfl⟩
    obtain ⟨f, hf⟩ := hfails
    rw [hf] at hres
    cases hres
  · cases heq
  · simp at heq
  · simp at heq

/-- The bucket stays with the owner who created it and where it was created, also when that owner
wants to create it elsewhere, and whatever the other one attempts. -/
theorem buckets_kept_by_owners_rivalry :
    (∃ response s' r, Operation.run
        ⟨.createBucket "b" .empty, (ownedBy "A").withRegion (some "us-west-2")⟩ contended.state =
        (.ok response, s') ∧
      s'.store.buckets.get? "b" = some r ∧ r = ⟨"A", some "eu-west-1"⟩) ∧
    (contended.run disputes).state.store.buckets.get? "b" = some ⟨"A", some "eu-west-1"⟩ := by
  have hb : contended.state.store.buckets.get? "b" = some ⟨"A", some "eu-west-1"⟩ := rfl
  have hstart : (History.start fun _ => ⟨"key", "secret"⟩).state.store.Candid := by decide
  have hevents : ∀ e ∈ rivalry, e.Candid := by decide
  obtain ⟨hcreate, -, -, hkept⟩ := buckets_kept_by_owners hstart hevents
  obtain ⟨-, r, hr, -, hsame, -⟩ := hcreate "b" .empty (ownedBy "A") (some "us-west-2") _ _ rfl
  exact ⟨⟨_, _, r, rfl, hr, hsame _ hb⟩, hkept "b" _ disputes hb (by decide) not_deletes_disputes⟩

end BucketDriver.Service
