import BucketDriver.Http.Server
import BucketDriver.Proofs.Attempt
import BucketDriver.Proofs.Json.Rendered

/-!
# Reading answers

How a client reads the answer to a request: its body is a JSON text, whose value gives the response
or the failure. Main statement: `tells_ofOutcome` (the answer with an outcome is read as that
outcome, and has its status).
-/

namespace BucketDriver

open Json (Value)

/-- The text of a member of an object. -/
def Json.Value.textMember? (v : Value) (k : String) : Option String :=
  match v with
  | .object ms =>
    match ms.lookup k with
    | some (.string t) => some t
    | _ => none
  | _ => none

/-- The members of a member of an object that is an object itself. -/
def Json.Value.objectMember? (v : Value) (k : String) : Option Value :=
  match v with
  | .object ms =>
    match ms.lookup k with
    | some (.object ms') => some (.object ms')
    | _ => none
  | _ => none

/-- The credentials that an object gives. -/
def Credentials.ofJson? (v : Value) : Option Credentials := do
  let id ← v.textMember? "accessKeyId"
  let secret ← v.textMember? "secretAccessKey"
  let endpoint ← v.textMember? "endpoint"
  let region ← v.textMember? "region"
  return ⟨⟨id, secret⟩, endpoint, region⟩

/-- The failure that an object tells of. -/
def Failure.ofJson? (v : Value) : Option Failure := do
  let name ← v.textMember? "code"
  let code ← Code.ofName? name
  let message ← v.textMember? "message"
  return ⟨code, message⟩

/-- A code is known by its name. -/
theorem Code.ofName?_name (c : Code) : Code.ofName? c.name = some c := by
  cases c <;> decide

theorem Failure.ofJson?_toJson (f : Failure) : ofJson? f.toJson = some f := by
  have hname : f.toJson.textMember? "code" = some f.code.name := rfl
  have hmessage : f.toJson.textMember? "message" = some f.message := rfl
  rw [ofJson?, hname, hmessage, Option.bind_eq_bind, Option.bind_some, Code.ofName?_name]
  rfl

namespace Service

/-- The response to a request that an object gives. -/
def Response.ofJson? (q : Request) (v : Value) : Option Response :=
  match q, v with
  | .createBucket .., v => (v.textMember? "bucketId").map .created
  | .deleteBucket .., .object _ => some .deleted
  | .grant .., v => do
    let account ← v.textMember? "accountId"
    let credentials ← (v.objectMember? "credentials").bind Credentials.ofJson?
    return .granted account credentials
  | .revoke .., .object _ => some .revoked
  | _, _ => none

/-- The response is one that the request can have. -/
def Response.IsFor : Request → Response → Prop
  | .createBucket .., .created _ => True
  | .deleteBucket .., .deleted => True
  | .grant .., .granted .. => True
  | .revoke .., .revoked => True
  | _, _ => False

/-- A response to a request is read back from its written form. -/
theorem Response.ofJson?_toJson {q : Request} {r : Response} (h : r.IsFor q) :
    ofJson? q r.toJson = some r := by
  cases q <;> cases r <;> first | rfl | cases h

/-- Whatever the provider, a request that succeeds has a response of its own kind. -/
theorem Request.attempt_isFor {σ : Type} (h : Handler σ) (q : Request) (p : Parameters) (s : σ) :
    Attempt.Ensures h (q.attempt p) s (fun r _ => r.IsFor q) (fun _ _ => True) := by
  cases q with
  | createBucket => exact (Attempt.Ensures.ends h _ s).bind (fun _ _ _ => trivial) fun _ _ h => h
  | deleteBucket => exact (Attempt.Ensures.ends h _ s).bind (fun _ _ _ => trivial) fun _ _ h => h
  | grant => exact (Attempt.Ensures.ends h _ s).bind (fun _ _ _ => trivial) fun _ _ h => h
  | revoke => exact (Attempt.Ensures.ends h _ s).bind (fun _ _ _ => trivial) fun _ _ h => h

/-- A request that the dispatcher answers with success has a response of its own kind. -/
theorem Dispatcher.answer_isFor {σ : Type} {d : Dispatcher σ} {q : Request} {s : σ} {r : Response}
    (h : (d.answer q s).1 = .ok r) : r.IsFor q := by
  unfold answer at h
  -- A request that is turned down before it runs has no response at all.
  cases hprepare : d.prepare q with
  | error f =>
    rw [hprepare] at h
    cases h
  | ok ready =>
    rw [hprepare] at h
    exact (q.attempt_isFor ready.1 ready.2 s).of_run_ok (Prod.ext h rfl)

end Service

namespace Http

open Service (Response)

/-- The value that an answer's body stands for. -/
def Reply.value? (r : Reply) : Option Value :=
  match Json.whole (fun size => Json.value size Json.depthLimit) (Text.Utf8.encode r.body) with
  | .ok v => some v
  | .error _ => none

/-- The answer tells of the outcome of a request: a response comes with status 200, a failure with
that of its code, and the body decodes to it. -/
def Reply.Tells (q : Service.Request) (outcome : Except Failure Response) (r : Reply) : Prop :=
  match outcome with
  | .ok response => r.status = 200 ∧ r.value?.bind (Response.ofJson? q) = some response
  | .error f => r.status = f.code.status ∧ r.value?.bind Failure.ofJson? = some f

/-- The body of an answer with a plain value stands for that value. -/
theorem Reply.value?_json {status : Nat} {v : Value} (h : v.Plain Json.depthLimit) :
    (Reply.json status v).value? = some v := by
  rw [value?, json, Json.whole_render h]

/-- The written form of a failure is plain. -/
theorem plain_failure (f : Failure) : f.toJson.Plain Json.depthLimit :=
  Json.Value.plain_ofStrings 126 _

/-- The written form of a response is plain. -/
theorem plain_response (r : Response) : r.toJson.Plain Json.depthLimit := by
  cases r with
  | created bucket => exact Json.Value.plain_ofStrings 126 _
  | deleted => exact Json.Value.plain_ofStrings 126 []
  | granted account credentials =>
    show ∀ m ∈ _, Json.Value.Plain 127 _
    intro m hm
    simp only [List.mem_cons, List.not_mem_nil, or_false] at hm
    rcases hm with rfl | rfl
    · exact Json.Value.plain_string _ account
    · exact Json.Value.plain_ofStrings 125 _
  | revoked => exact Json.Value.plain_ofStrings 126 []

/-- The answer with an outcome tells of it. -/
theorem Reply.tells_ofOutcome {q : Service.Request} {outcome : Except Failure Response}
    (h : ∀ r, outcome = .ok r → r.IsFor q) : (Reply.ofOutcome outcome).Tells q outcome := by
  cases outcome with
  | ok response =>
    refine ⟨rfl, ?_⟩
    rw [ofOutcome, value?_json (plain_response response)]
    exact Response.ofJson?_toJson (h response rfl)
  | error f =>
    refine ⟨rfl, ?_⟩
    rw [ofOutcome, ofFailure, value?_json (plain_failure f)]
    exact Failure.ofJson?_toJson f

end Http

end BucketDriver
