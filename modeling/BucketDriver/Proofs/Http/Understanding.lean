import BucketDriver.Proofs.Http.Agreement
import BucketDriver.Proofs.Service.Dispatch

/-!
# What can become of a request

A request gets a reply at once, for one of six reasons, or asks something of the dispatcher:
`Understood` lists the cases, and `understood` says that there are no others. A route reads bodies
in one way (`Reads`), and a route that deletes something reads a body of spaces as an object without
members (`understand_spaces`).
-/

namespace BucketDriver.Http

open Service (Dispatcher Response)

/-! ## Readers -/

/-- The routes that ask something of the dispatcher. -/
def Route.IsOperation : Route → Prop
  | .health | .info => False
  | .buckets | .bucket _ | .access _ | .account .. => True

/-- The segments of a route that name something. -/
def Route.names : Route → List (List Char)
  | .health | .info | .buckets => []
  | .bucket b | .access b => [b]
  | .account b a => [b, a]

/-- Reads a request to the dispatcher from a body. -/
abbrev Reader := List UInt8 → Except Failure Service.Request

/-- How a route reads bodies, given the texts of its segments. -/
inductive Reads : Route → Reader → Prop where
  | buckets : Reads .buckets Service.Request.readCreateBucket
  | bucket {b : List Char} {bucket : String} (hb : segmentText? b = some bucket) :
    Reads (.bucket b) (Service.Request.readDeleteBucket bucket)
  | access {b : List Char} {bucket : String} (hb : segmentText? b = some bucket) :
    Reads (.access b) (Service.Request.readGrant bucket)
  | account {b a : List Char} {bucket account : String} (hb : segmentText? b = some bucket)
    (ha : segmentText? a = some account) :
    Reads (.account b a) (Service.Request.readRevoke bucket account)

variable {route : Route} {read read' : Reader} {q : Request} {info : Json.Value} {path : List Char}

/-- A route reads bodies in one way. -/
theorem Reads.unique (h : Reads route read) (h' : Reads route read') : read = read' := by
  cases h with
  | buckets =>
    cases h'
    rfl
  | bucket hb =>
    cases h' with
    | bucket hb' =>
      obtain rfl := Option.some.inj (hb.symm.trans hb')
      rfl
  | access hb =>
    cases h' with
    | access hb' =>
      obtain rfl := Option.some.inj (hb.symm.trans hb')
      rfl
  | account hb ha =>
    cases h' with
    | account hb' ha' =>
      obtain rfl := Option.some.inj (hb.symm.trans hb')
      obtain rfl := Option.some.inj (ha.symm.trans ha')
      rfl

/-- A route that reads bodies asks something of the dispatcher. -/
theorem Reads.isOperation (h : Reads route read) : route.IsOperation := by
  cases h <;> trivial

/-- A route that reads bodies has segments that are texts. -/
theorem Reads.segment_ne_none (h : Reads route read) :
    ∀ segment ∈ route.names, segmentText? segment ≠ none := by
  have hsome : ∀ {segment : List Char} {t : String}, segmentText? segment = some t →
      segmentText? segment ≠ none := fun ht hnone => nomatch ht.symm.trans hnone
  cases h with
  | buckets => exact List.forall_mem_nil _
  | bucket hb | access hb => exact List.forall_mem_singleton.2 (hsome hb)
  | account hb ha =>
    exact List.forall_mem_cons.2 ⟨hsome hb, List.forall_mem_singleton.2 (hsome ha)⟩

/-- A body that cannot be read fails for its argument. -/
theorem readFields_error {shape : Json.Shape} {body : List UInt8} {f : Failure}
    (h : Service.readFields shape body = .error f) : f.code = .invalidArgument := by
  unfold Service.readFields at h
  cases hwhole : Json.whole (Json.fieldsOf shape) body with
  | error e =>
    rw [hwhole] at h
    cases h
    rfl
  | ok fields =>
    rw [hwhole] at h
    cases h

/-- And so does one that may be left out but is not. -/
theorem readOptionalFields_error {shape : Json.Shape} {body : List UInt8} {f : Failure}
    (h : Service.readOptionalFields shape body = .error f) : f.code = .invalidArgument := by
  unfold Service.readOptionalFields at h
  split at h
  · cases h
  · exact readFields_error h

/-- Every route's reader fails for its argument. -/
theorem Reads.error_code (h : Reads route read) {body : List UInt8} {f : Failure}
    (hf : read body = .error f) : f.code = .invalidArgument := by
  cases h with
  | buckets | access =>
    rcases Service.error_of_bind hf with hfields | ⟨_, -, hread⟩
    · exact readFields_error hfields
    · cases hread
  | bucket | account =>
    rcases Service.error_of_bind hf with hfields | ⟨_, -, hread⟩
    · exact readOptionalFields_error hfields
    · cases hread

/-! ## Understanding -/

/-- With the texts of its segments, a route looks at the length of the body and then reads it. -/
theorem Reads.requested_eq (h : Reads route read) :
    requested info q route = bodyOf q >>= fun body => (read body).mapError .ofFailure := by
  cases h with
  | buckets => rfl
  | bucket hb | access hb =>
    rw [requested, named, hb]
    rfl
  | account hb ha =>
    rw [requested, named, named, hb, ha]
    rfl

/-- What can become of a request: a reply at once, or a request to the dispatcher. -/
inductive Understood (q : Request) (path : List Char) : Except Reply Service.Request → Prop where
  /-- No route serves the path. -/
  | unknown (h : ∀ route : Route, ¬ route.Serves path) : Understood q path (.error .notFound)
  /-- The route that does serves another method. -/
  | otherMethod {route : Route} {reply : Reply} (hroute : route.Serves path)
    (h : q.method ≠ route.method) : Understood q path (.error reply)
  /-- The route asks nothing of the dispatcher. -/
  | page {route : Route} {reply : Reply} (hroute : route.Serves path) (h : ¬ route.IsOperation) :
    Understood q path (.error reply)
  /-- A segment is no text. -/
  | undecoded {route : Route} {segment : List Char} (what : String) (hroute : route.Serves path)
    (hsegment : segment ∈ route.names) (h : segmentText? segment = none) :
    Understood q path (.error (.badSegment what))
  /-- The body is too long. -/
  | tooLong (h : maxBody < q.body.length) : Understood q path (.error .bodyTooLong)
  /-- The body cannot be read. -/
  | unreadable {route : Route} {read : Reader} {f : Failure} (hroute : route.Serves path)
    (hread : Reads route read) (hbody : q.body.length ≤ maxBody) (h : read q.body = .error f) :
    Understood q path (.error (.ofFailure f))
  /-- The dispatcher is asked. -/
  | accepted {route : Route} {read : Reader} {request : Service.Request}
    (hroute : route.Serves path) (hmethod : q.method = route.method) (hread : Reads route read)
    (hbody : q.body.length ≤ maxBody) (h : read q.body = .ok request) :
    Understood q path (.ok request)

/-- What becomes of a request when all segments are texts. -/
theorem Reads.understood (hread : Reads route read) (hroute : route.Serves path)
    (hmethod : q.method = route.method) : Understood q path (requested info q route) := by
  rw [hread.requested_eq, bodyOf]
  split
  case isTrue hlong => exact .tooLong hlong
  case isFalse hshort =>
    have hbody : q.body.length ≤ maxBody := Nat.not_lt.1 hshort
    show Understood q path ((read q.body).mapError Reply.ofFailure)
    cases hresult : read q.body with
    | error f => exact .unreadable hroute hread hbody hresult
    | ok request => exact .accepted hroute hmethod hread hbody hresult

/-- A segment that is no text names nothing. -/
theorem named_eq_error {what : String} {segment : List Char} (h : segmentText? segment = none) :
    named what segment = .error (.badSegment what) := by
  rw [named, h]

/-- An operation's route reads bodies, or turns every request down for a segment that is no text. -/
theorem Route.IsOperation.reads_or_undecoded (h : route.IsOperation) :
    (∃ read, Reads route read) ∨ ∃ segment ∈ route.names, segmentText? segment = none ∧
      ∃ what, ∀ info q, requested info q route = .error (.badSegment what) := by
  cases route with
  | health | info => exact h.elim
  | buckets => exact .inl ⟨_, .buckets⟩
  | bucket b =>
    cases hb : segmentText? b with
    | some bucket => exact .inl ⟨_, .bucket hb⟩
    | none =>
      refine .inr ⟨b, List.mem_singleton.2 rfl, hb, "bucket_id", fun info q => ?_⟩
      rw [requested, named_eq_error hb]
      rfl
  | access b =>
    cases hb : segmentText? b with
    | some bucket => exact .inl ⟨_, .access hb⟩
    | none =>
      refine .inr ⟨b, List.mem_singleton.2 rfl, hb, "bucket_id", fun info q => ?_⟩
      rw [requested, named_eq_error hb]
      rfl
  | account b a =>
    -- The bucket's segment is looked at first.
    cases hb : segmentText? b with
    | none =>
      refine .inr ⟨b, List.mem_cons_self, hb, "bucket_id", fun info q => ?_⟩
      rw [requested, named_eq_error hb]
      rfl
    | some bucket =>
      cases ha : segmentText? a with
      | some account => exact .inl ⟨_, .account hb ha⟩
      | none =>
        refine .inr ⟨a, .tail _ (List.mem_singleton.2 rfl), ha, "account_id", fun info q => ?_⟩
        rw [requested, named, hb, named_eq_error ha]
        rfl

/-- What becomes of a request in the method that its route serves. -/
theorem requested_understood (hroute : route.Serves path) (hmethod : q.method = route.method) :
    Understood q path (requested info q route) := by
  by_cases hop : route.IsOperation
  · rcases hop.reads_or_undecoded with ⟨read, hread⟩ | ⟨segment, hsegment, hnone, what, hbad⟩
    · exact hread.understood hroute hmethod
    · rw [hbad]
      exact .undecoded what hroute hsegment hnone
  · cases route with
    | health | info => exact .page hroute hop
    | buckets | bucket | access | account => exact (hop trivial).elim

/-- What becomes of a request. -/
theorem understood (info : Json.Value) (q : Request) (path : List Char) :
    Understood q path (understand info q path) := by
  unfold understand
  cases hpath : Route.ofPath? path with
  | none =>
    refine .unknown fun route hroute => ?_
    rw [Route.ofPath?_eq_some_iff.2 hroute] at hpath
    cases hpath
  | some route =>
    have hroute := Route.ofPath?_eq_some_iff.1 hpath
    show Understood q path (routed info q route)
    unfold routed
    split
    case isTrue hmethod => exact requested_understood hroute hmethod
    case isFalse hother =>
      split
      case isTrue hhead =>
        -- Only pages serve the method whose replies have a head to ask for.
        cases route with
        | health | info => exact .page hroute id
        | buckets | bucket | access | account => exact absurd hhead.2 (by simp [Route.method])
      case isFalse => exact .otherMethod hroute hother

/-! ## Bodies that are left out -/

/-- The body of an object without members. -/
def emptyObject : List UInt8 :=
  [Json.Byte.openBrace, Json.Byte.closeBrace]

/-- A route that deletes something reads a body of spaces as an object without members. -/
theorem Reads.read_spaces (h : Reads route read) (hdelete : route.method = "DELETE")
    {body : List UInt8} (hspaces : body.all Service.isBodySpace = true) :
    read body = read emptyObject := by
  have hleft : ∀ shape, Service.readOptionalFields shape body = .ok [] := fun _ => if_pos hspaces
  cases h with
  | buckets | access => simp [Route.method] at hdelete
  | bucket =>
    have hempty : Service.readOptionalFields Service.deleteBucketShape emptyObject = .ok [] := rfl
    rw [Service.Request.readDeleteBucket, Service.Request.readDeleteBucket, hleft, hempty]
  | account =>
    have hempty : Service.readOptionalFields Service.revokeShape emptyObject = .ok [] := rfl
    rw [Service.Request.readRevoke, Service.Request.readRevoke, hleft, hempty]

/-- A request to delete something with a body of spaces is understood as with an object without
members. -/
theorem understand_spaces (hmethod : q.method = "DELETE")
    (hspaces : q.body.all Service.isBodySpace = true) (hbody : q.body.length ≤ maxBody) :
    understand info { q with body := emptyObject } path = understand info q path := by
  unfold understand
  cases Route.ofPath? path with
  | none => rfl
  | some route =>
    show routed info { q with body := emptyObject } route = routed info q route
    by_cases hroute : q.method = route.method
    · have hdelete : route.method = "DELETE" := hroute.symm.trans hmethod
      have hop : route.IsOperation := by
        cases route with
        | health | info => simp [Route.method] at hdelete
        | buckets | bucket | access | account => trivial
      rw [routed, routed, if_pos hroute, if_pos hroute]
      rcases hop.reads_or_undecoded with ⟨read, hread⟩ | ⟨segment, -, -, what, hbad⟩
      · rw [hread.requested_eq, hread.requested_eq, bodyOf, bodyOf, if_neg (Nat.not_lt.2 hbody),
          if_neg (by simp [emptyObject, maxBody])]
        exact congrArg (Except.mapError Reply.ofFailure) (hread.read_spaces hdelete hspaces).symm
      · rw [hbad, hbad]
    · have hhead : ¬ (q.method = "HEAD" ∧ route.method = "GET") := by
        rw [hmethod]
        exact fun h => absurd h.1 (by decide)
      rw [routed, routed, if_neg hroute, if_neg hroute, if_neg hhead, if_neg hhead]

end BucketDriver.Http
