import BucketDriver.Http.Server
import BucketDriver.Memory.Store
import BucketDriver.Proofs.Provision.Grant
import BucketDriver.Secret.Resolver

/-!
# The administrator's secret never shows

What a service on the memory store shows, over any run of requests, exchanges and faults, depends on
the parameters of its provider only by three of them: the identifier of the administrator's key, the
endpoint and the region (`Parameters.ShownAlike`). So nobody can tell two services apart whose
secrets differ in anything else, or that both fail to find the parameters of some secret, for
whatever reason each of them has: `record_eq_of_stores`.

The two services are compared stage by stage: what a request does with a provider
(`Request.attempt_eq`), what the dispatcher answers (`Dispatcher.answer_eq`), what an exchange does
(`serve_eq_of_answer`), and from that any number of steps.
-/

namespace BucketDriver

/-! ## Parameters -/

/-- Parameters that are the same in all that is ever shown of them. -/
structure Parameters.ShownAlike (p p' : Parameters) : Prop where
  /-- The administrator's keys have one identifier. -/
  accessKeyId : p'.accessKeyId = p.accessKeyId
  /-- The endpoints of the object store are the same. -/
  endpoint : p'.endpoint = p.endpoint
  /-- The regions are the same. -/
  region : p'.region = p.region

/-- Two attempts to find parameters that end alike: both fail, each for a reason of its own, or both
find parameters that are shown alike. -/
inductive FoundAlike : (found found' : Except DriverError Parameters) → Prop where
  | failed (e e' : DriverError) : FoundAlike (.error e) (.error e')
  | found {p p' : Parameters} (h : p.ShownAlike p') : FoundAlike (.ok p) (.ok p')

/-- The parameters in a secret of a store. -/
def Secret.Store.parametersOf (store : Secret.Store) (r : Secret.Reference) :
    Except DriverError Parameters := do
  Parameters.ofSecret (← store r)

namespace Service

open Memory (State)

variable {p p' : Parameters}

/-- Creating a bucket looks at no more of the parameters than their region. -/
theorem createBucket_eq (h : p.ShownAlike p') (name : String) :
    Provision.createBucket name p' = Provision.createBucket name p := by
  unfold Provision.createBucket Provision.location? Parameters.isDefaultRegion
  rw [h.region]

/-- A grant looks at no more of the parameters than their endpoint and their region. -/
theorem grant_eq_of_shownAlike (h : p.ShownAlike p') (bucket account : String) :
    Provision.grant bucket account p' = Provision.grant bucket account p := by
  have hkey : ∀ key, Credentials.ofKey key p' = Credentials.ofKey key p := by
    intro key
    unfold Credentials.ofKey
    rw [h.endpoint, h.region]
  unfold Provision.grant
  simp only [hkey]

/-- A request does the same with parameters that are shown alike. -/
theorem Request.attempt_eq (h : p.ShownAlike p') (q : Request) : q.attempt p' = q.attempt p := by
  cases q with
  | createBucket name _ => simp only [Request.attempt, createBucket_eq h]
  | grant bucket account _ => simp only [Request.attempt, grant_eq_of_shownAlike h]
  | deleteBucket | revoke => rfl

/-! ## The dispatcher -/

/-- The service on the memory store that finds parameters in a store of secrets. -/
def ofStore (name : String) (fallback : Option Secret.Reference) (store : Secret.Store) :
    Dispatcher State :=
  ⟨name, Secret.Resolver.resolve ⟨store, fallback⟩, fun _ p => .ok (Memory.answer p.accessKeyId)⟩

variable {name : String} {fallback : Option Secret.Reference} {store store' : Secret.Store}

/-- A request finds its parameters alike in both stores, since it names its secret without looking
into a store. -/
theorem foundAlike_resolve (h : ∀ r, FoundAlike (store.parametersOf r) (store'.parametersOf r))
    (context : Dict String) :
    FoundAlike (Secret.Resolver.resolve ⟨store, fallback⟩ context)
      (Secret.Resolver.resolve ⟨store', fallback⟩ context) := by
  unfold Secret.Resolver.resolve Secret.resolveIn
  cases Secret.chosen fallback context with
  | error e => exact .failed e e
  | ok r => exact h r

/-- Two services answer every request alike, in every state. -/
theorem Dispatcher.answer_eq (h : ∀ r, FoundAlike (store.parametersOf r) (store'.parametersOf r))
    (q : Request) (s : State) :
    (ofStore name fallback store').answer q s = (ofStore name fallback store).answer q s := by
  have hfound : FoundAlike (Secret.Resolver.resolve ⟨store, fallback⟩ q.context)
      (Secret.Resolver.resolve ⟨store', fallback⟩ q.context) := foundAlike_resolve h q.context
  unfold Dispatcher.answer Dispatcher.prepare prepareIn ofStore
  dsimp only
  cases q.check with
  | error f => rfl
  | ok _ =>
    generalize Secret.Resolver.resolve ⟨store, fallback⟩ q.context = found at hfound ⊢
    generalize Secret.Resolver.resolve ⟨store', fallback⟩ q.context = found' at hfound ⊢
    cases hfound with
    | failed e e' => rfl
    | @found p p' hp =>
      -- The same client runs the same attempt.
      show Program.run (Memory.answer p'.accessKeyId) (q.attempt p').run s =
        Program.run (Memory.answer p.accessKeyId) (q.attempt p).run s
      rw [Request.attempt_eq hp, hp.accessKeyId]

/-- Services of one name that answer every request alike do so over the wire. -/
theorem serve_eq_of_answer {σ : Type} {d d' : Dispatcher σ} (hname : d'.name = d.name)
    (h : ∀ q s, d'.answer q s = d.answer q s) (q : Http.Request) (s : σ) :
    Http.serve d' q s = Http.serve d q s := by
  have hinfo : d'.info = d.info := by
    unfold Dispatcher.info
    rw [hname]
  have hrespond : ∀ path, Http.respond d' q path s = Http.respond d q path s := by
    intro path
    unfold Http.respond
    simp only [hinfo, h]
  unfold Http.serve
  simp only [hrespond]

/-! ## Runs -/

/-- What can happen to a service. -/
inductive Step where
  /-- Its dispatcher is asked. -/
  | operation (q : Request)
  /-- It is asked over the wire. -/
  | exchange (q : Http.Request)
  /-- A fault is queued. -/
  | fault (kind : CallKind) (code : String)

/-- What is to be seen of a step. -/
inductive Shown where
  | outcome (r : Except Failure Response)
  | reply (r : Except Http.LineError Http.Reply)
  | nothing

/-- What a step shows, and the state it leads to. -/
def Step.take (d : Dispatcher State) (s : State) : Step → Shown × State
  | operation q => (.outcome (d.answer q s).1, (d.answer q s).2)
  | exchange q =>
    match Http.serve d q s with
    | .ok (reply, s') => (.reply (.ok reply), s')
    | .error e => (.reply (.error e), s)
  | fault kind code => (.nothing, { s with store := s.store.failNext kind code })

/-- What steps show, one after the other, each with the state it leads to. -/
def record (d : Dispatcher State) (s : State) : List Step → List (Shown × State)
  | [] => []
  | step :: steps => step.take d s :: record d (step.take d s).2 steps

/-- Nobody can tell services apart by what is kept from callers. Take two services on the memory
store that differ in their stores of secrets only, where every secret either has parameters in both
that agree in the identifier of the key, the endpoint and the region, or cannot be had in both. From
any state, with any faults queued and any keys to come, and over any steps, both show the same and
go through the same states. -/
theorem record_eq_of_stores (name : String) (fallback : Option Secret.Reference)
    {store store' : Secret.Store}
    (h : ∀ r, FoundAlike (store.parametersOf r) (store'.parametersOf r)) (s : State)
    (steps : List Step) :
    record (ofStore name fallback store') s steps = record (ofStore name fallback store) s steps := by
  have hanswer : ∀ q s, (ofStore name fallback store').answer q s =
      (ofStore name fallback store).answer q s := fun q s => Dispatcher.answer_eq h q s
  have htake : ∀ (step : Step) s, step.take (ofStore name fallback store') s =
      step.take (ofStore name fallback store) s := by
    intro step s
    cases step with
    | operation q => simp only [Step.take, hanswer]
    | exchange q =>
      have hname : (ofStore name fallback store').name = (ofStore name fallback store).name := rfl
      have hserve := serve_eq_of_answer hname hanswer q s
      simp only [Step.take, hserve]
    | fault => rfl
  induction steps generalizing s with
  | nil => rfl
  | cons step steps ih => rw [record, record, htake, ih]

/-- A store with one secret, named `main`, in which the given entries stand beside the identifier of
the key and the endpoint. No other can be had, for the given reason. -/
def onlyMain (e : DriverError) (entries : List (String × String)) : Secret.Store := fun r =>
  if r.name = "main" then
    .ok (.ofList (("accessKeyId", "AK") :: ("endpoint", "http://s3") :: entries))
  else .error e

/-- The store before the administrator's key has a new secret. -/
def oldKey : Secret.Store :=
  onlyMain (.secretStore "no directory") [("secretAccessKey", "first")]

/-- The store afterwards, with other settings as well. -/
def newKey : Secret.Store :=
  onlyMain (.io "device is busy") [("secretAccessKey", "second"), ("iamEndpoint", "https://iam"),
    ("tlsCert", "certificate"), ("debug", "true")]

/-- A grant whose user cannot be created at first, again over the wire, and the deletion of a bucket
with parameters that cannot be had. -/
def renewal : List Step :=
  [.fault .createUser "Throttling", .operation (.grant "b" "u" .empty),
    .exchange ⟨"POST", "/v1/buckets/b/access", Text.Utf8.encode "\x7b\"accountName\":\"u\"\x7d"⟩,
    .operation (.deleteBucket "b" (.ofList [(Secret.nameKey, "lost"), (Secret.spaceKey, "n")]))]

/-- Nobody notices the new secret of the administrator's key. -/
theorem record_eq_of_stores_renewal :
    (∃ p p', oldKey.parametersOf ⟨"main", "n"⟩ = .ok p ∧ newKey.parametersOf ⟨"main", "n"⟩ = .ok p' ∧
      p.secretAccessKey = "first" ∧ p'.secretAccessKey = "second") ∧
    record (ofStore "driver" (some ⟨"main", "n"⟩) newKey) Provision.crowded renewal =
      record (ofStore "driver" (some ⟨"main", "n"⟩) oldKey) Provision.crowded renewal := by
  have hok : ∀ {found : Except DriverError Parameters} {p : Parameters}, found.toOption = some p →
      found = .ok p := by
    rintro (e | p) _ ⟨⟩
    rfl
  have hold : oldKey.parametersOf ⟨"main", "n"⟩ =
      .ok ⟨"AK", "first", "http://s3", "us-east-1", none, none, false⟩ := hok (by decide +kernel)
  have hnew : newKey.parametersOf ⟨"main", "n"⟩ = .ok ⟨"AK", "second", "http://s3", "us-east-1",
      some "https://iam", some (Text.Utf8.encode "certificate"), true⟩ := hok (by decide +kernel)
  refine ⟨⟨_, _, hold, hnew, rfl, rfl⟩, record_eq_of_stores "driver" _ (fun r => ?_) _ renewal⟩
  by_cases hr : r.name = "main"
  · have hsame : ∀ store ∈ [oldKey, newKey],
        store.parametersOf r = store.parametersOf ⟨"main", "n"⟩ := by
      simp [oldKey, newKey, onlyMain, Secret.Store.parametersOf, hr]
    rw [hsame oldKey (by simp), hsame newKey (by simp), hold, hnew]
    exact .found ⟨rfl, rfl, rfl⟩
  · have hnone : oldKey.parametersOf r = .error (.secretStore "no directory") ∧
        newKey.parametersOf r = .error (.io "device is busy") := by
      simp only [oldKey, newKey, onlyMain, Secret.Store.parametersOf, if_neg hr]
      exact ⟨rfl, rfl⟩
    rw [hnone.1, hnone.2]
    exact .failed _ _

end Service

end BucketDriver
