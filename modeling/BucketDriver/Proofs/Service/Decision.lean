import BucketDriver.Proofs.Service.Dispatch

/-!
# The order in which the dispatcher decides

The dispatcher looks at the names in a request first, the bucket's before the account's. Then it
asks for the parameters of the request, then for a client, and only then does it run the operation.
What stops it on the way is told by one failure a stage, whatever the cause, and leaves the provider
alone: `answers_in_order`.

In `Dispatcher.prepare` parameters and clients come from functions, which is the case of `prepareIn`
without effects. That a request is turned down without asking for parameters or a client is said by
`prepareIn`, with any effects of asking, because then no effect is left.
-/

namespace BucketDriver

/-- An attempt whose value is only rewritten ends like the attempt. -/
theorem Attempt.run_map {α β σ : Type} (h : Handler σ) (x : Attempt α) (f : α → β) (s : σ) :
    Program.run h (do return f (← x) : Attempt β).run s =
      Prod.map (Except.map f) id (Program.run h x.run s) := by
  rw [run_bind]
  rcases Program.run h x.run s with ⟨e | a, s'⟩ <;> rfl

end BucketDriver

namespace BucketDriver.Service

open Attempt (Ensures)

variable {σ : Type}

namespace Request

/-! ## Names -/

/-- The bucket that a request names. -/
def bucket : Request → String
  | createBucket b _ | deleteBucket b _ | grant b _ _ | revoke b _ _ => b

/-- The account that a request names, if it is about one. -/
def account? : Request → Option String
  | createBucket .. | deleteBucket .. => none
  | grant _ a _ | revoke _ a _ => some a

/-- The failure of a request that leaves out what is required. -/
def missing (what : String) : Failure :=
  .invalidArgument (what ++ " is required")

/-- The failure of a request that names no bucket. -/
def bucketMissing : Request → Failure
  | createBucket .. => missing "bucket name"
  | deleteBucket .. | grant .. | revoke .. => missing "bucket id"

/-- The failure of a request that names no account. -/
def accountMissing : Request → Failure
  | grant .. => missing "account name"
  | createBucket .. | deleteBucket .. | revoke .. => missing "account id"

variable {q : Request}

theorem checkGiven_of_blank {what value : String} (h : Text.isBlank value = true) :
    checkGiven what value = .error (missing what) :=
  if_pos h

theorem checkGiven_of_not_blank {what value : String} (h : Text.isBlank value = false) :
    checkGiven what value = .ok () :=
  if_neg (by rw [h]; exact Bool.false_ne_true)

/-- The bucket is looked at first. -/
theorem check_of_blank_bucket (hb : Text.isBlank q.bucket = true) :
    q.check = .error q.bucketMissing := by
  cases q with
  | createBucket | deleteBucket => exact checkGiven_of_blank hb
  | grant bucket account _ | revoke bucket account _ =>
    have hbucket : Text.isBlank bucket = true := hb
    rw [check, checkGiven_of_blank hbucket]
    rfl

/-- The account is looked at when a bucket is named. -/
theorem check_of_blank_account {account : String} (hb : Text.isBlank q.bucket = false)
    (haccount : q.account? = some account) (ha : Text.isBlank account = true) :
    q.check = .error q.accountMissing := by
  cases q with
  | createBucket | deleteBucket => cases haccount
  | grant bucket _ _ | revoke bucket _ _ =>
    have hbucket : Text.isBlank bucket = false := hb
    obtain rfl := Option.some.inj haccount
    rw [check, checkGiven_of_not_blank hbucket]
    exact checkGiven_of_blank ha

/-- A request that names what it should passes. -/
theorem check_of_given (hb : Text.isBlank q.bucket = false)
    (ha : ∀ account, q.account? = some account → Text.isBlank account = false) :
    q.check = .ok () := by
  cases q with
  | createBucket | deleteBucket => exact checkGiven_of_not_blank hb
  | grant bucket _ _ | revoke bucket _ _ =>
    have hbucket : Text.isBlank bucket = false := hb
    rw [check, checkGiven_of_not_blank hbucket]
    exact checkGiven_of_not_blank (ha _ rfl)

/-! ## The operation -/

/-- What the operation of a request does with a client and parameters, and how it is answered. -/
def managed (client : Handler σ) (p : Parameters) (s : σ) : Request → Except Failure Response × σ
  | createBucket name _ =>
    Prod.map (.map .created) id (Program.run client (Provision.createBucket name p).run s)
  | deleteBucket bucket _ =>
    Prod.map (.map fun _ => .deleted) id (Program.run client (Provision.deleteBucket bucket).run s)
  | grant bucket account _ =>
    Prod.map (.map (.granted account)) id
      (Program.run client (Provision.grant bucket account p).run s)
  | revoke bucket account _ =>
    Prod.map (.map fun _ => .revoked) id
      (Program.run client (Provision.revoke bucket account).run s)

/-- What a request does with a provider is its operation, run with the names of the request. -/
theorem run_attempt (client : Handler σ) (p : Parameters) (s : σ) (q : Request) :
    Program.run client (q.attempt p).run s = q.managed client p s := by
  cases q with
  | createBucket name _ => exact Attempt.run_map client (Provision.createBucket name p) _ s
  | deleteBucket bucket _ => exact Attempt.run_map client (Provision.deleteBucket bucket) _ s
  | grant bucket account _ => exact Attempt.run_map client (Provision.grant bucket account p) _ s
  | revoke bucket account _ => exact Attempt.run_map client (Provision.revoke bucket account) _ s

/-- A response is one to the request and carries its names. -/
def Echoes : Request → Response → Prop
  | createBucket name _, .created bucket => bucket = name
  | deleteBucket .., .deleted => True
  | grant _ account _, .granted a _ => a = account
  | revoke .., .revoked => True
  | _, _ => False

/-- Every response that an operation gives is one to its request. -/
theorem echoes_of_managed {client : Handler σ} {p : Parameters} {s : σ} {response : Response}
    (h : (q.managed client p s).1 = .ok response) : q.Echoes response := by
  -- A response is made of what the operation returns and of the names in the request, whatever the
  -- client answers; only the name of a created bucket goes through the operation.
  have hends : Ensures client (q.attempt p) s (fun response _ => q.Echoes response)
      (fun _ _ => True) := by
    cases q with
    | createBucket name _ =>
      have hname : Ensures client (Provision.createBucket name p) s (fun bucket _ => bucket = name)
          (fun _ _ => True) :=
        Ensures.bind (Ensures.ends _ _ _) (fun _ _ _ => Ensures.pure_iff.2 rfl) fun _ _ h => h
      exact hname.bind (fun _ _ h => Ensures.pure_iff.2 h) fun _ _ h => h
    | deleteBucket | revoke =>
      exact Ensures.bind (Ensures.ends _ _ _) (fun _ _ _ => Ensures.pure_iff.2 trivial)
        fun _ _ h => h
    | grant =>
      exact Ensures.bind (Ensures.ends _ _ _) (fun _ _ _ => Ensures.pure_iff.2 rfl) fun _ _ h => h
  rw [← run_attempt] at h
  exact hends.of_run_ok (Prod.ext h rfl)

/-! ## The decision -/

/-- A request is turned down with a failure by every dispatcher, whoever the provider is and
whatever state it is in, and without asking for parameters or a client. -/
structure TurnedDown (q : Request) (f : Failure) : Prop where
  /-- The answer is the failure, and the provider's state is left. -/
  answer : ∀ {σ : Type} (d : Dispatcher σ) (s : σ), d.answer q s = (.error f, s)
  /-- Whatever a resolver and a factory do when they are asked is not done. -/
  unasked : ∀ {σ : Type} {m : Type → Type} [Monad m]
    (resolve : Dict String → m (Except DriverError Parameters))
    (clients : ProviderService → Parameters → m (Except DriverError (Handler σ))),
    prepareIn resolve clients q = pure (.error f)

/-- A request that does not pass the check of its names is turned down. -/
theorem turnedDown_of_check {f : Failure} (h : q.check = .error f) : q.TurnedDown f := by
  have hunasked {σ : Type} {m : Type → Type} [Monad m]
      (resolve : Dict String → m (Except DriverError Parameters))
      (clients : ProviderService → Parameters → m (Except DriverError (Handler σ))) :
      prepareIn resolve clients q = pure (.error f) := by
    unfold prepareIn
    rw [h]
  refine ⟨fun d s => ?_, hunasked⟩
  unfold Dispatcher.answer
  rw [Dispatcher.prepare_of_check_error h]

end Request

namespace Dispatcher

variable {d : Dispatcher σ} {q : Request} {s : σ} {p : Parameters} {e : DriverError}

/-- Without parameters a request fails, for whatever reason they cannot be had. -/
theorem answer_of_resolve_error (hcheck : q.check = .ok ()) (h : d.resolve q.context = .error e) :
    d.answer q s = (.error (.internal resolveMessage), s) := by
  unfold answer
  rw [prepare_of_resolve_error hcheck h]

/-- Without a client a request fails, for whatever reason none can be had. -/
theorem answer_of_clients_error (hcheck : q.check = .ok ()) (hp : d.resolve q.context = .ok p)
    (h : d.clients q.service p = .error e) :
    d.answer q s = (.error (.internal clientMessage), s) := by
  unfold answer
  rw [prepare_of_resolve hcheck hp, h]
  rfl

/-- With a client the operation is run. -/
theorem answer_of_client {client : Handler σ} (hcheck : q.check = .ok ())
    (hp : d.resolve q.context = .ok p) (h : d.clients q.service p = .ok client) :
    d.answer q s = q.managed client p s := by
  rw [← Request.run_attempt]
  unfold answer
  rw [prepare_of_resolve hcheck hp, h]
  rfl

end Dispatcher

/-- The dispatcher decides in one order and hides why. A request with a blank bucket is turned down
for the bucket, and one with a bucket and a blank account for the account: by every dispatcher, in
every state, and without asking for parameters or a client. Any other request fails with one message
when its parameters cannot be had, and with another one when a client cannot, whatever the cause,
and the provider's state is left. With parameters and a client its operation is run with the names
as they stand in the request, and the response carries them. -/
theorem answers_in_order (q : Request) :
    (Text.isBlank q.bucket = true → q.TurnedDown q.bucketMissing) ∧
    (∀ account, Text.isBlank q.bucket = false → q.account? = some account →
      Text.isBlank account = true → q.TurnedDown q.accountMissing) ∧
    (Text.isBlank q.bucket = false →
      (∀ account, q.account? = some account → Text.isBlank account = false) →
      ∀ {σ : Type} (d : Dispatcher σ) (s : σ),
        (∀ e, d.resolve q.context = .error e →
          d.answer q s = (.error (.internal "failed to resolve storage parameters"), s)) ∧
        (∀ p e, d.resolve q.context = .ok p → d.clients q.service p = .error e →
          d.answer q s = (.error (.internal "failed to initialize storage client"), s)) ∧
        (∀ p client, d.resolve q.context = .ok p → d.clients q.service p = .ok client →
          d.answer q s = q.managed client p s ∧
            ∀ response, (d.answer q s).1 = .ok response → q.Echoes response)) := by
  refine ⟨fun hb => ?_, fun account hb haccount ha => ?_, fun hb ha σ d s => ?_⟩
  · exact Request.turnedDown_of_check (Request.check_of_blank_bucket hb)
  · exact Request.turnedDown_of_check (Request.check_of_blank_account hb haccount ha)
  · have hcheck := Request.check_of_given hb ha
    refine ⟨fun e he => d.answer_of_resolve_error hcheck he,
      fun p e hp he => d.answer_of_clients_error hcheck hp he, fun p client hp hclient => ?_⟩
    have hanswer : d.answer q s = q.managed client p s := d.answer_of_client hcheck hp hclient
    refine ⟨hanswer, fun response hresponse => ?_⟩
    rw [hanswer] at hresponse
    exact Request.echoes_of_managed hresponse

/-- A dispatcher that finds parameters for every request, on the memory store. -/
def ready : Dispatcher Memory.State :=
  ⟨"driver", fun _ => .ok Provision.sample, fun _ p => .ok (Memory.answer p.accessKeyId)⟩

/-- A grant whose names are not blank, but not trimmed either. -/
def spaced : Request :=
  .grant " b\n" "\u3000u" .empty

/-- Wide spaces name no bucket and a next line names no account. With names the resolver fails
first, then the factory, and then the account is the one with the wide space. -/
theorem answers_in_order_spaces :
    (Request.createBucket "\u2003\u3000" .empty).TurnedDown
        (.invalidArgument "bucket name is required") ∧
    (Request.grant " b\n" "\t\u0085" .empty).TurnedDown
        (.invalidArgument "account name is required") ∧
    ({ ready with
        resolve := fun _ => .error (.secretNotFound "s" "team")
        clients := .failing (.clientInit "no certificate") }.answer spaced Provision.crowded =
      (.error (.internal "failed to resolve storage parameters"), Provision.crowded)) ∧
    ({ ready with clients := .failing (.clientInit "no certificate") }.answer spaced
        Provision.crowded =
      (.error (.internal "failed to initialize storage client"), Provision.crowded)) ∧
    ∃ credentials, (ready.answer spaced ⟨.empty, Provision.crowded.keys⟩).1 =
        .ok (.granted "\u3000u" credentials) ∧ spaced.Echoes (.granted "\u3000u" credentials) := by
  have haccount : ∀ account, spaced.account? = some account → Text.isBlank account = false := by
    rintro account ⟨⟩
    decide
  have hnamed (d : Dispatcher Memory.State) (s : Memory.State) :=
    (answers_in_order spaced).2.2 (by decide) haccount d s
  refine ⟨(answers_in_order _).1 (by decide), (answers_in_order _).2.1 _ (by decide) rfl (by decide),
    (hnamed _ _).1 _ rfl, (hnamed _ _).2.1 _ _ rfl rfl, _, rfl, ?_⟩
  exact ((hnamed ready ⟨.empty, Provision.crowded.keys⟩).2.2 _ _ rfl rfl).2 _ rfl

end BucketDriver.Service
