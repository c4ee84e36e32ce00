import BucketDriver.Proofs.Provision.Bucket
import BucketDriver.Proofs.Provision.Revoke
import BucketDriver.Service.Request

/-!
# Histories

A history of the service on the memory store: operations, each run to its end, and faults queued
between them, in any order. `History` keeps the state and, for each key that a grant has given out,
the bucket it was given out for.

`Outcome` says once what an operation can do to the state, one constructor per way to end, and
`Operation.outcome` that every operation does one of these. What holds of all histories is proved
for one step and passed on to runs by `History.run_invariant`.
-/

namespace BucketDriver.Service

open Attempt (Ensures)
open Memory (State KeySource SameUsers)
open Provision (Granted Refused Revoked RevokeFailed)

/-- A request with the parameters it is answered with. -/
structure Operation where
  /-- The request. -/
  request : Request
  /-- The parameters. -/
  parameters : Parameters

/-- A key that was given out, and for which bucket. -/
structure Issued where
  /-- The bucket of the grant. -/
  bucket : String
  /-- The key. -/
  key : AccessKey

namespace Operation

/-- Runs an operation to its end on the memory store. -/
def run (o : Operation) (s : State) : Except Failure Response × State :=
  Program.run (Memory.answer o.parameters.accessKeyId) (o.request.attempt o.parameters).run s

/-- What an operation that ends with a result has given out. -/
def issued (o : Operation) (res : Except Failure Response) : List Issued :=
  match o.request, res with
  | .grant bucket _ _, .ok (.granted _ c) => [⟨bucket, c.key⟩]
  | _, _ => []

end Operation

/-- What can happen between two states. -/
inductive Event where
  /-- An operation runs to its end. -/
  | operation (o : Operation)
  /-- A fault is queued. -/
  | fault (kind : CallKind) (code : String)

/-- A state and the keys given out on the way to it. -/
structure History where
  /-- The state. -/
  state : State
  /-- The keys given out, the first one first. -/
  issued : List Issued

namespace History

/-- The history that nothing has happened in. -/
def start (source : KeySource) : History :=
  ⟨⟨.empty, source⟩, []⟩

/-- The history with one more event. -/
def step (h : History) : Event → History
  | .operation o => ⟨(o.run h.state).2, h.issued ++ o.issued (o.run h.state).1⟩
  | .fault kind code => { h with state := { h.state with store := h.state.store.failNext kind code } }

/-- The history with more events. -/
def run (h : History) (events : List Event) : History :=
  events.foldl step h

/-- What every event preserves, if it is one that is allowed, holds after all of them: by induction
on the events. -/
theorem run_invariant {P : History → Prop} {allowed : Event → Prop}
    (hstep : ∀ h e, allowed e → P h → P (h.step e)) {events : List Event} {h : History} (hP : P h)
    (hevents : ∀ e ∈ events, allowed e) : P (h.run events) := by
  induction events generalizing h with
  | nil => exact hP
  | cons e events ih =>
    have hnext : P (h.step e) := hstep h e (hevents e List.mem_cons_self) hP
    exact ih hnext fun e' he' => hevents e' (List.mem_cons_of_mem e he')

end History

/-- What an operation can do to a state, by the way in which it ends. -/
inductive Outcome (s : State) : Operation → Except Failure Response → State → Prop where
  /-- An operation on a bucket leaves the users. -/
  | bucket {o : Operation} {res : Except Failure Response} {s' : State}
      (hservice : o.request.service = .objectStore) (hsame : SameUsers s s') : Outcome s o res s'
  /-- A grant has succeeded. -/
  | granted {bucket account : String} {context : Dict String} {p : Parameters} {c : Credentials}
      {s' : State} (h : Granted bucket account p s s' c) :
      Outcome s ⟨.grant bucket account context, p⟩ (.ok (.granted account c)) s'
  /-- A grant has failed. -/
  | refused {bucket account : String} {context : Dict String} {p : Parameters} {f : Failure}
      {s' : State} (h : Refused bucket account s s' f) :
      Outcome s ⟨.grant bucket account context, p⟩ (.error f) s'
  /-- A revocation has succeeded. -/
  | revoked {bucket account : String} {context : Dict String} {p : Parameters} {s' : State}
      (h : Revoked bucket account s s') :
      Outcome s ⟨.revoke bucket account context, p⟩ (.ok .revoked) s'
  /-- A revocation has failed. -/
  | revokeFailed {bucket account : String} {context : Dict String} {p : Parameters} {f : Failure}
      {s' : State} (h : RevokeFailed bucket account s s' f) :
      Outcome s ⟨.revoke bucket account context, p⟩ (.error f) s'

variable {s : State}

/-- Every operation ends in one of these ways. -/
theorem Operation.outcome (o : Operation) (s : State) : Outcome s o (o.run s).1 (o.run s).2 := by
  obtain ⟨q, p⟩ := o
  unfold Operation.run
  apply Ensures.run
  cases q with
  | createBucket name context =>
    refine Ensures.bind Provision.createBucket_ensures ?_ ?_
    · exact fun _ s' hsame => .bucket rfl hsame
    · exact fun _ s' hsame => .bucket rfl hsame
  | deleteBucket bucket context =>
    refine Ensures.bind Provision.deleteBucket_ensures ?_ ?_
    · exact fun _ s' hsame => .bucket rfl hsame
    · exact fun _ s' hsame => .bucket rfl hsame
  | grant bucket account context =>
    refine Ensures.bind Provision.grant_ensures ?_ ?_
    · exact fun c s' h => .granted h
    · exact fun f s' h => .refused h
  | revoke bucket account context =>
    refine Ensures.bind Provision.revoke_ensures ?_ ?_
    · exact fun _ s' h => .revoked h
    · exact fun f s' h => .revokeFailed h

/-- An operation leaves a rest of each queue of faults. -/
theorem Outcome.spends {o : Operation} {res : Except Failure Response} {s' : State}
    (h : Outcome s o res s') : s.store.Spends s'.store := by
  cases h with
  | bucket _ hsame => exact hsame.spends
  | granted h => exact h.spends
  | refused h => exact h.spends
  | revoked h => exact h.spends
  | revokeFailed h => exact h.spends

/-- An operation on a bucket gives no key out. -/
theorem Operation.issued_of_objectStore {o : Operation} {res : Except Failure Response}
    (hservice : o.request.service = .objectStore) : o.issued res = [] := by
  obtain ⟨q, p⟩ := o
  cases q with
  | createBucket | deleteBucket => rfl
  | grant | revoke => cases hservice

/-- A key that an operation gives out is that of a successful grant. -/
theorem Outcome.granted_of_mem_issued {o : Operation} {res : Except Failure Response} {s' : State}
    {k : Issued} (h : Outcome s o res s') (hk : k ∈ o.issued res) :
    ∃ account p c, Granted k.bucket account p s s' c ∧ k.key = c.key := by
  cases h with
  | bucket hservice _ =>
    rw [Operation.issued_of_objectStore hservice] at hk
    cases hk
  | granted h =>
    obtain rfl := List.mem_singleton.1 hk
    exact ⟨_, _, _, h, rfl⟩
  | refused | revoked | revokeFailed => cases hk

end BucketDriver.Service
