import BucketDriver.Proofs.Service.History
import BucketDriver.Proofs.Service.Resource
import BucketDriver.Service.Dispatcher

/-!
# What the dispatcher does with a request

`Prepared` lists the ways in which a request is made ready to run or turned down in front of the
provider. No failure that the dispatcher answers with has the code of success, whoever its provider
is (`answer_code_ne_ok`); and what it answers with success on a memory store was run there as an
operation (`OnMemory.run_of_answer`).
-/

namespace BucketDriver.Service

open Attempt (Ensures)
open Memory (State)

/-- A text that may not be blank is the argument of a failure when it is. -/
theorem checkGiven_error {what value : String} {f : Failure}
    (h : checkGiven what value = .error f) : f.code = .invalidArgument := by
  unfold checkGiven at h
  split at h
  · cases h
    rfl
  · cases h

/-- What fails in two steps fails in one of them. -/
theorem error_of_bind {α β : Type} {x : Except Failure α} {g : α → Except Failure β} {f : Failure}
    (h : (x >>= g) = .error f) : x = .error f ∨ ∃ v, x = .ok v ∧ g v = .error f := by
  cases x with
  | error f' =>
    cases h
    exact .inl rfl
  | ok v => exact .inr ⟨v, rfl, h⟩

/-- A request with a blank name fails for its argument. -/
theorem Request.check_error {q : Request} {f : Failure} (h : q.check = .error f) :
    f.code = .invalidArgument := by
  cases q with
  | createBucket name _ => exact checkGiven_error h
  | deleteBucket bucket _ => exact checkGiven_error h
  | grant bucket account _ | revoke bucket account _ =>
    rcases error_of_bind h with hbucket | ⟨_, -, haccount⟩
    · exact checkGiven_error hbucket
    · exact checkGiven_error haccount

namespace Dispatcher

variable {σ : Type} {d : Dispatcher σ} {q : Request} {p : Parameters} {e : DriverError}

/-- What is made of a request in front of the provider. -/
inductive Prepared (d : Dispatcher σ) (q : Request) : Except Failure (Handler σ × Parameters) → Prop
    where
  /-- A name in it is blank. -/
  | unnamed {f : Failure} (h : q.check = .error f) : Prepared d q (.error f)
  /-- Its parameters cannot be found. -/
  | unresolved : Prepared d q (.error (.internal resolveMessage))
  /-- No client can be made for them. -/
  | unreachable : Prepared d q (.error (.internal clientMessage))
  /-- It has the parameters and a client. -/
  | ready {client : Handler σ} {p : Parameters} (h : d.clients q.service p = .ok client) :
    Prepared d q (.ok (client, p))

/-- With a blank name nothing else matters. -/
theorem prepare_of_check_error {f : Failure} (h : q.check = .error f) : d.prepare q = .error f := by
  unfold prepare prepareIn
  rw [h]
  rfl

/-- With names, parameters are asked for. -/
theorem prepare_of_resolve_error (hcheck : q.check = .ok ()) (h : d.resolve q.context = .error e) :
    d.prepare q = .error (.internal resolveMessage) := by
  unfold prepare prepareIn
  simp only [hcheck, h, pure_bind]
  rfl

/-- Once there are parameters, a client is asked for. -/
theorem prepare_of_resolve (hcheck : q.check = .ok ()) (hp : d.resolve q.context = .ok p) :
    d.prepare q = (d.clients q.service p).mapError (fun _ => .internal clientMessage) >>=
      fun client => .ok (client, p) := by
  unfold prepare prepareIn
  simp only [hcheck, hp, pure_bind]
  cases d.clients q.service p <;> rfl

theorem prepared (d : Dispatcher σ) (q : Request) : Prepared d q (d.prepare q) := by
  cases hcheck : q.check with
  | error f =>
    rw [prepare_of_check_error hcheck]
    exact .unnamed hcheck
  | ok _ =>
    cases hp : d.resolve q.context with
    | error e =>
      rw [prepare_of_resolve_error hcheck hp]
      exact .unresolved
    | ok p =>
      rw [prepare_of_resolve hcheck hp]
      cases hclient : d.clients q.service p with
      | error e => exact .unreachable
      | ok client => exact .ready hclient

/-- No failure that a request is answered with has the code of success, whatever state the provider
is in and whatever it answers. -/
theorem answer_code_ne_ok {d : Dispatcher σ} {q : Request} {s : σ} {f : Failure}
    (h : (d.answer q s).1 = .error f) : f.code ≠ .ok := by
  unfold answer at h
  have hprepared := d.prepared q
  generalize d.prepare q = made at h hprepared
  cases hprepared with
  | unnamed hcheck =>
    cases h
    rw [Request.check_error hcheck]
    exact fun heq => nomatch heq
  | unresolved | unreachable =>
    cases h
    exact fun heq => nomatch heq
  | @ready client p =>
    have hends := (q.attempt_settling p).code_ne_ok client s
    exact hends.of_run_error (Prod.ext h rfl)

/-- The clients that are made are of the memory store. -/
def OnMemory (d : Dispatcher State) : Prop :=
  ∀ service p client, d.clients service p = .ok client → client = Memory.answer p.accessKeyId

/-- A request that is answered with a response was run as an operation on the store. -/
theorem OnMemory.run_of_answer {d : Dispatcher State} (hd : d.OnMemory) {q : Request} {s s' : State}
    {response : Response} (h : d.answer q s = (.ok response, s')) :
    ∃ p, Operation.run ⟨q, p⟩ s = (.ok response, s') := by
  unfold answer at h
  have hprepared := d.prepared q
  generalize d.prepare q = made at h hprepared
  cases hprepared with
  | unnamed | unresolved | unreachable => cases h
  | ready hclient =>
    obtain rfl := hd _ _ _ hclient
    exact ⟨_, h⟩

end Dispatcher

end BucketDriver.Service
