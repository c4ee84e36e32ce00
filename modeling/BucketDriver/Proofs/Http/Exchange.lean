import BucketDriver.Proofs.Http.Understanding

/-!
# What an exchange does

Only a request to the dispatcher can change the state behind the service, and among the requests to
an operation only one that succeeds is answered with the status of success: `Answered`, which
`serve_answered` proves of every exchange, with any provider behind the service.
-/

namespace BucketDriver.Http

open Service (Dispatcher Response)

variable {route : Route} {read : Reader} {q : Request} {path : List Char}

/-- A request that is turned down in front of the dispatcher. -/
inductive Rejected (q : Request) (path : List Char) : Prop where
  /-- No route serves the path. -/
  | unknown (h : ∀ route : Route, ¬ route.Serves path)
  /-- The route that does serves another method. -/
  | otherMethod {route : Route} (hroute : route.Serves path) (h : q.method ≠ route.method)
  /-- The body is too long. -/
  | tooLong (h : maxBody < q.body.length)
  /-- A segment is no text. -/
  | undecoded {route : Route} {segment : List Char} (hroute : route.Serves path)
    (hsegment : segment ∈ route.names) (h : segmentText? segment = none)
  /-- The body cannot be read. -/
  | unreadable {route : Route} {read : Reader} {f : Failure} (hroute : route.Serves path)
    (hread : Reads route read) (h : read q.body = .error f)

/-- A request that is turned down asks nothing of the dispatcher. -/
theorem Rejected.understood_ne_ok (h : Rejected q path) {request : Service.Request} :
    ¬ Understood q path (.ok request) := by
  intro hunderstood
  cases hunderstood with
  | accepted hroute hmethod hread hbody hok =>
    cases h with
    | unknown hnone => exact hnone _ hroute
    | otherMethod hroute' hother =>
      obtain rfl := hroute.unique hroute'
      exact hother hmethod
    | tooLong hlong => exact Nat.not_lt.2 hbody hlong
    | undecoded hroute' hsegment hnone =>
      obtain rfl := hroute.unique hroute'
      exact hread.segment_ne_none _ hsegment hnone
    | unreadable hroute' hread' hf =>
      obtain rfl := hroute.unique hroute'
      obtain rfl := hread.unique hread'
      cases hf.symm.trans hok

section Exchange

variable {σ : Type} {d : Dispatcher σ} {s : σ}

/-- The outcome of a request to a route in its method, when all segments are texts and the body is
not too long: the failure of the body, or else the outcome of the dispatcher. -/
def outcomeOf (d : Dispatcher σ) (s : σ) (read : Reader) (body : List UInt8) :
    Except Failure Response :=
  match read body with
  | .error f => .error f
  | .ok request => (d.answer request s).1

/-- The answer to such a request is the one with its outcome. -/
theorem respond_of_reads (hroute : route.Serves path) (hmethod : q.method = route.method)
    (hread : Reads route read) (hbody : q.body.length ≤ maxBody) :
    (respond d q path s).1 = .ofOutcome (outcomeOf d s read q.body) := by
  have hrequested : understand d.info q path = (read q.body).mapError .ofFailure := by
    rw [understand_of_route (Route.ofPath?_eq_some_iff.2 hroute) hmethod, hread.requested_eq, bodyOf,
      if_neg (Nat.not_lt.2 hbody)]
    rfl
  unfold respond outcomeOf
  rw [hrequested]
  cases read q.body <;> rfl

/-- No failure of such a request has the code of success. -/
theorem outcomeOf_code_ne_ok (hread : Reads route read) {body : List UInt8} {f : Failure}
    (h : outcomeOf d s read body = .error f) : f.code ≠ .ok := by
  unfold outcomeOf at h
  cases hresult : read body with
  | error f' =>
    rw [hresult] at h
    cases h
    rw [hread.error_code hresult]
    exact fun heq => nomatch heq
  | ok request =>
    rw [hresult] at h
    exact Dispatcher.answer_code_ne_ok h

/-- Only the code of success has the status of success. -/
theorem status_eq_200_iff {c : Code} : c.status = 200 ↔ c = .ok := by
  cases c <;> simp [Code.status]

/-- What an exchange does with a request. -/
structure Answered (d : Dispatcher σ) (q : Request) (path : List Char) (s : σ) (reply : Reply)
    (s' : σ) : Prop where
  /-- Only an operation in its own method changes the state. -/
  changed : s' ≠ s → ∃ route : Route, route.Serves path ∧ route.IsOperation ∧ q.method = route.method
  /-- A request that is turned down in front of the dispatcher does not. -/
  rejected : Rejected q path → s' = s
  /-- The answer has the status of success exactly when path and body were accepted and the
  dispatcher succeeded. -/
  success_iff : ∀ route : Route, route.Serves path → route.IsOperation → q.method = route.method →
    (reply.status = 200 ↔ ∃ read request response, Reads route read ∧ q.body.length ≤ maxBody ∧
      read q.body = .ok request ∧ (d.answer request s).1 = .ok response)
  /-- A failure of the body or of the dispatcher comes with the status of its code and is read back
  from the answer, and its code is not that of success. -/
  failure : ∀ (route : Route) (read : Reader) (f : Failure), route.Serves path →
    q.method = route.method → Reads route read → q.body.length ≤ maxBody →
    (read q.body = .error f ∨
      ∃ request, read q.body = .ok request ∧ (d.answer request s).1 = .error f) →
    reply.status = f.code.status ∧ reply.value?.bind Failure.ofJson? = some f ∧ f.code ≠ .ok

/-- The state changes only where something is asked of the dispatcher. -/
theorem exists_accepted_of_changed (h : (respond d q path s).2 ≠ s) :
    ∃ request, Understood q path (.ok request) := by
  have hunderstood := understood d.info q path
  unfold respond at h
  generalize understand d.info q path = what at h hunderstood
  cases what with
  | error reply => exact (h rfl).elim
  | ok request => exact ⟨request, hunderstood⟩

/-- An operation that is answered with the status of success was asked of the dispatcher and
succeeded. -/
theorem exists_response_of_status (hroute : route.Serves path) (hop : route.IsOperation)
    (hmethod : q.method = route.method) (hstatus : (respond d q path s).1.status = 200) :
    ∃ read request response, Reads route read ∧ q.body.length ≤ maxBody ∧
      read q.body = .ok request ∧ (d.answer request s).1 = .ok response := by
  have hunderstood := understood d.info q path
  unfold respond at hstatus
  generalize understand d.info q path = what at hstatus hunderstood
  cases hunderstood with
  | unknown hnone => exact (hnone route hroute).elim
  | otherMethod hroute' hother =>
    obtain rfl := hroute.unique hroute'
    exact (hother hmethod).elim
  | page hroute' hpage =>
    obtain rfl := hroute.unique hroute'
    exact (hpage hop).elim
  | undecoded => cases hstatus
  | tooLong => cases hstatus
  | unreadable hroute' hread hbody hf =>
    have hcode := hread.error_code hf
    exact absurd (hcode.symm.trans (status_eq_200_iff.1 hstatus)) (by decide)
  | @accepted route' read request hroute' _ hread hbody hok =>
    obtain rfl := hroute.unique hroute'
    cases hanswer : (d.answer request s).1 with
    | ok response => exact ⟨read, request, response, hread, hbody, hok, hanswer⟩
    | error f =>
      dsimp only at hstatus
      rw [hanswer] at hstatus
      exact absurd (status_eq_200_iff.1 hstatus) (Dispatcher.answer_code_ne_ok hanswer)

/-- What an exchange does with a request to a path. -/
theorem respond_answered (d : Dispatcher σ) (q : Request) (path : List Char) (s : σ) :
    Answered d q path s (respond d q path s).1 (respond d q path s).2 where
  changed h := by
    obtain ⟨request, haccepted⟩ := exists_accepted_of_changed h
    cases haccepted with
    | accepted hroute hmethod hread => exact ⟨_, hroute, hread.isOperation, hmethod⟩
  rejected h := by
    by_contra hchanged
    obtain ⟨request, haccepted⟩ := exists_accepted_of_changed hchanged
    exact h.understood_ne_ok haccepted
  success_iff route hroute hop hmethod := by
    refine ⟨exists_response_of_status hroute hop hmethod, ?_⟩
    rintro ⟨read, request, response, hread, hbody, hok, hresponse⟩
    have houtcome : outcomeOf d s read q.body = .ok response := by
      rw [outcomeOf, hok]
      exact hresponse
    rw [respond_of_reads hroute hmethod hread hbody, houtcome]
    rfl
  failure route read f hroute hmethod hread hbody hf := by
    have houtcome : outcomeOf d s read q.body = .error f := by
      unfold outcomeOf
      rcases hf with hf | ⟨request, hok, hf⟩
      · rw [hf]
      · rw [hok]
        exact hf
    rw [respond_of_reads hroute hmethod hread hbody, houtcome]
    refine ⟨rfl, ?_, outcomeOf_code_ne_ok hread houtcome⟩
    rw [Reply.ofOutcome, Reply.ofFailure, Reply.value?_json (plain_failure f)]
    exact Failure.ofJson?_toJson f

end Exchange

/-- A request whose method and target can be used is answered as one to its path. -/
theorem serve_eq {σ : Type} (d : Dispatcher σ) (s : σ) (hmethod : checkMethod q.method = .ok ())
    (hpath : pathOf q.target = .ok path) : serve d q s = .ok (respond d q path s) := by
  rw [serve, hmethod, hpath]
  rfl

/-- What an exchange does. Every request whose method and target can be used is answered. The state
behind the service is changed by its four operations only, in their own methods; a request that no
route serves, or in another method, or whose body is too long, or that names something by a segment
that is no text, or whose body cannot be read, leaves it as it was. An operation is answered with
the status of success exactly when path and body were accepted and the dispatcher succeeded, and
every failure of the body or of the dispatcher is told with its status and its code, which is never
that of success. A request to delete something whose body, not longer than a body may be, is made of
spaces only is answered as if the body were an object without members. -/
theorem serve_answered {σ : Type} (d : Dispatcher σ) (q : Request) (s : σ) {path : List Char}
    (hmethod : checkMethod q.method = .ok ()) (hpath : pathOf q.target = .ok path) :
    ∃ reply s', serve d q s = .ok (reply, s') ∧ Answered d q path s reply s' ∧
      (q.method = "DELETE" → q.body.all Service.isBodySpace = true → q.body.length ≤ maxBody →
        serve d { q with body := emptyObject } s = .ok (reply, s')) := by
  refine ⟨_, _, serve_eq d s hmethod hpath, respond_answered d q path s, ?_⟩
  intro hdelete hspaces hbody
  rw [serve_eq (q := { q with body := emptyObject }) d s hmethod hpath, respond,
    understand_spaces hdelete hspaces hbody]

/-- A request to delete the bucket `b`. -/
def deletion (body : List UInt8) : Request :=
  ⟨"DELETE", "/v1/buckets/b", body⟩

/-- Its method and its target can be used. -/
theorem line_deletion (body : List UInt8) : checkMethod (deletion body).method = .ok () ∧
    pathOf (deletion body).target = .ok "/v1/buckets/b".toList := by
  have hmethod : checkMethod "DELETE" = .ok () := by decide
  have hpath : pathOf "/v1/buckets/b" = .ok "/v1/buckets/b".toList := by decide
  exact ⟨hmethod, hpath⟩

/-- Its path is that of the bucket `b`. -/
theorem serves_deletion : (Route.bucket ['b']).Serves "/v1/buckets/b".toList :=
  .bucket (by decide) (by decide)

/-- A state with the bucket `b`, which may not be deleted at the first try. -/
def guarded : Memory.State :=
  ⟨⟨.ofList [("b", ⟨"AK", none⟩)], .empty,
      fun kind => if kind = .deleteBucket then ["AccessDenied"] else []⟩,
    fun n => ⟨"key" ++ n.repr, "secret"⟩⟩

/-- The failure of the first try comes with its code, to a body of spaces as to an object without
members. -/
theorem serve_answered_guarded :
    ∃ reply s', serve onMemory (deletion [0x20, 0x0A]) guarded = .ok (reply, s') ∧
      reply.status = 403 ∧
      (reply.value?.bind Failure.ofJson?).map (·.code) = some .permissionDenied ∧
      serve onMemory (deletion emptyObject) guarded = .ok (reply, s') := by
  obtain ⟨reply, s', hserve, hanswered, hspaces⟩ :=
    serve_answered onMemory (deletion [0x20, 0x0A]) guarded (line_deletion _).1 (line_deletion _).2
  have hanswer : (onMemory.answer (.deleteBucket "b" .empty) guarded).1 =
      .error ⟨.permissionDenied, "access denied for bucket b"⟩ := rfl
  obtain ⟨hstatus, hvalue, -⟩ := hanswered.failure _ _ _ serves_deletion rfl (.bucket rfl)
    (by decide) (.inr ⟨.deleteBucket "b" .empty, rfl, hanswer⟩)
  exact ⟨reply, s', hserve, hstatus, by rw [hvalue]; rfl, hspaces rfl rfl (by decide)⟩

/-- Not every body of spaces is taken for an object without members: one that is too long is turned
down for its length. -/
theorem not_forall_spaces_answered :
    ¬ ∀ (q : Request) (s : Memory.State) (path : List Char), checkMethod q.method = .ok () →
      pathOf q.target = .ok path → q.method = "DELETE" →
      q.body.all Service.isBodySpace = true →
      serve onMemory q s = serve onMemory { q with body := emptyObject } s := by
  intro h
  have hspaces : (List.replicate (maxBody + 1) 0x20).all Service.isBodySpace = true := by
    rw [List.all_replicate]
    rfl
  have hlength : maxBody < (List.replicate (maxBody + 1) (0x20 : UInt8)).length := by
    rw [List.length_replicate]
    exact Nat.lt_succ_self maxBody
  generalize List.replicate (maxBody + 1) (0x20 : UInt8) = body at hspaces hlength
  have hsame : respond onMemory (deletion body) "/v1/buckets/b".toList nothing =
      respond onMemory (deletion emptyObject) "/v1/buckets/b".toList nothing := by
    obtain ⟨hmethod, hpath⟩ := line_deletion body
    have hserve := h (deletion body) nothing _ hmethod hpath rfl hspaces
    rw [serve_eq onMemory nothing hmethod hpath] at hserve
    exact Except.ok.inj (hserve.trans (serve_eq onMemory nothing (line_deletion _).1
      (line_deletion _).2))
  have hlong : (respond onMemory (deletion body) "/v1/buckets/b".toList nothing).1 =
      .bodyTooLong := by
    have hbody : bodyOf (deletion body) = .error .bodyTooLong := if_pos hlength
    have hroute := Route.ofPath?_eq_some_iff.2 serves_deletion
    rw [respond, understand_of_route hroute rfl, (Reads.bucket rfl).requested_eq, hbody]
    rfl
  have hempty : (respond onMemory (deletion emptyObject) "/v1/buckets/b".toList nothing).1 =
      .ofOutcome (.ok .deleted) :=
    respond_of_reads serves_deletion rfl (.bucket rfl) (by decide)
  rw [hsame, hempty] at hlong
  have hstatus : (200 : Nat) = 413 := congrArg Reply.status hlong
  exact absurd hstatus (by decide)

end BucketDriver.Http
