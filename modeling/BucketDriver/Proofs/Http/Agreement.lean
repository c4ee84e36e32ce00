import BucketDriver.Proofs.Http.Answer
import BucketDriver.Proofs.Http.Path
import BucketDriver.Proofs.Http.Routing
import BucketDriver.Proofs.Json.Records
import BucketDriver.Proofs.Provision.Grant

/-!
# HTTP and the dispatcher agree

A request to the dispatcher can be sent over HTTP: the path names bucket and account in encoded
segments, and the body is a JSON object with the other fields, in any order and with any choice of
blanks and escapes (`Encodes`). `understand_encoded` says that the server understands such a request
as the one that was sent, and `serve_agrees` that serving it has the effect of the dispatcher's
operation and answers with its outcome. What the body says about bucket and account has no part in
it where the path names them.
-/

namespace BucketDriver.Http

open Json (FieldValue Shape RecordText)
open Service (Dispatcher)

/-! ## Requests as they are sent -/

/-- The method and the segments of the path with which a request is sent. -/
inductive Addressed :
    Service.Request → (method : String) → (segments : List (List Char)) → Prop where
  | createBucket (name : String) (context : Dict String) :
    Addressed (.createBucket name context) "POST" ["v1".toList, "buckets".toList]
  | deleteBucket {bucket : String} {b : List Char} (context : Dict String)
    (hb : SegmentText bucket b) :
    Addressed (.deleteBucket bucket context) "DELETE" ["v1".toList, "buckets".toList, b]
  | grant {bucket : String} {b : List Char} (account : String) (context : Dict String)
    (hb : SegmentText bucket b) :
    Addressed (.grant bucket account context) "POST"
      ["v1".toList, "buckets".toList, b, "access".toList]
  | revoke {bucket account : String} {b a : List Char} (context : Dict String)
    (hb : SegmentText bucket b) (ha : SegmentText account a) :
    Addressed (.revoke bucket account context) "DELETE"
      ["v1".toList, "buckets".toList, b, "access".toList, a]

/-- The members of the body that tell what the path does not. -/
def ownMembers : Service.Request → List (String × FieldValue)
  | .createBucket name context => [("name", .text name), ("parameters", .texts context)]
  | .deleteBucket _ context => [("deleteContext", .texts context)]
  | .grant _ account context => [("accountName", .text account), ("parameters", .texts context)]
  | .revoke _ _ context => [("revokeAccessContext", .texts context)]

/-- The keys under which a body may name once more what the path names. -/
def pathKeys : Service.Request → List String
  | .createBucket .. => []
  | .deleteBucket .. | .grant .. | .revoke .. => ["bucketId", "accountId"]

/-- Members beside the own ones: any texts under such keys. -/
structure Beside (q : Service.Request) (ms : List (String × FieldValue)) : Prop where
  /-- No key comes twice. -/
  nodup : (ms.map (·.1)).Nodup
  /-- The keys are those under which a body may name what the path names. -/
  key : ∀ m ∈ ms, m.1 ∈ pathKeys q
  /-- The values are texts. -/
  text : ∀ m ∈ ms, m.2.kind = .text

/-- The HTTP request sends a request to the dispatcher. -/
structure Encodes (q : Service.Request) (r : Request) : Prop where
  /-- Method and target. -/
  address : ∃ segments, Addressed q r.method segments ∧ r.target.toList = joined segments
  /-- The body. -/
  body : ∃ beside ms, Beside q beside ∧ ms.Perm (ownMembers q ++ beside) ∧ RecordText ms r.body

/-- Everything that a request names has a name. -/
def Named : Service.Request → Prop
  | .createBucket name _ => name ≠ ""
  | .deleteBucket bucket _ => bucket ≠ ""
  | .grant bucket account _ | .revoke bucket account _ => bucket ≠ "" ∧ account ≠ ""

/-! ## Bodies -/

/-- The written form of a request. -/
def shapeOf : Service.Request → Shape
  | .createBucket .. => Service.createBucketShape
  | .deleteBucket .. => Service.deleteBucketShape
  | .grant .. => Service.grantShape
  | .revoke .. => Service.revokeShape

/-- The fields of a request's own members hold what they should, and what is required is among
them. -/
theorem ownMembers_fit (q : Service.Request) :
    ((ownMembers q).map (·.1)).Nodup ∧
    (∀ m ∈ ownMembers q, ∃ field, (shapeOf q).field? m.1 = some field ∧ m.2.kind = field.kind) ∧
    ∀ field ∈ (shapeOf q).fields, field.required = true →
      field.name ∈ (ownMembers q).map (·.1) := by
  cases q <;> simp [ownMembers, shapeOf, Shape.field?, Service.createBucketShape,
    Service.deleteBucketShape, Service.grantShape, Service.revokeShape, FieldValue.kind]

/-- Under the keys for what the path names a body holds texts at most, and no own members. -/
theorem pathKeys_fit (q : Service.Request) : ∀ k ∈ pathKeys q,
    (∀ field, (shapeOf q).field? k = some field → field.kind = .text) ∧
    k ∉ (ownMembers q).map (·.1) := by
  cases q <;> simp [pathKeys, ownMembers, shapeOf, Shape.field?, Service.deleteBucketShape,
    Service.grantShape, Service.revokeShape]

/-- Whatever stands beside the own members, a body is a record of the request's shape. -/
theorem fits_body {q : Service.Request} {beside ms : List (String × FieldValue)}
    (hbeside : Beside q beside) (hms : ms.Perm (ownMembers q ++ beside)) : (shapeOf q).Fits ms := by
  obtain ⟨hnodup, hkind, hrequired⟩ := ownMembers_fit q
  -- In whatever order they come, members are own ones or stand beside them.
  have hmem : ∀ m ∈ ms, m ∈ ownMembers q ∨ m ∈ beside := fun m hm =>
    List.mem_append.1 (hms.mem_iff.1 hm)
  refine ⟨?_, ?_, ?_, ?_⟩
  · rw [(hms.map _).nodup_iff, List.map_append, List.nodup_append]
    refine ⟨hnodup, hbeside.nodup, fun k hk k' hk' heq => ?_⟩
    obtain ⟨m, hm, rfl⟩ := List.mem_map.1 hk'
    exact (pathKeys_fit q m.1 (hbeside.key m hm)).2 (heq ▸ hk)
  · intro m hm field hfield
    rcases hmem m hm with hm | hm
    · obtain ⟨field', hfield', hkind'⟩ := hkind m hm
      rw [hfield'] at hfield
      cases hfield
      exact hkind'
    · rw [(pathKeys_fit q m.1 (hbeside.key m hm)).1 field hfield, hbeside.text m hm]
  · intro m hm hnone
    rcases hmem m hm with hm | hm
    · obtain ⟨field, hfield, -⟩ := hkind m hm
      rw [hfield] at hnone
      cases hnone
    · exact hbeside.text m hm
  · intro field hfield hreq
    obtain ⟨m, hm, hname⟩ := List.mem_map.1 (hrequired field hfield hreq)
    exact List.mem_map.2 ⟨m, hms.mem_iff.2 (List.mem_append_left _ hm), hname⟩

/-- What is read of the body of a request: each of its own members. -/
theorem readFields_encoded {q : Service.Request} {r : Request} (h : Encodes q r) :
    ∃ fields, Service.readFields (shapeOf q) r.body = .ok fields ∧
      Service.readOptionalFields (shapeOf q) r.body = .ok fields ∧
      ∀ k v, (k, v) ∈ ownMembers q → fields.lookup k = some v := by
  obtain ⟨beside, ms, hbeside, hms, hrecord⟩ := h.body
  have hfits := fits_body hbeside hms
  have hread : Service.readFields (shapeOf q) r.body = .ok ((shapeOf q).kept ms) := by
    rw [Service.readFields, Json.whole_record hfits hrecord]
    rfl
  refine ⟨(shapeOf q).kept ms, hread, ?_, ?_⟩
  · have hnot : ¬ r.body.all Service.isBodySpace = true := by
      intro hall
      have hbrace := List.all_eq_true.1 hall _ hrecord.not_blank
      exact absurd hbrace (by decide)
    rw [Service.readOptionalFields, if_neg hnot, hread]
  · intro k v hkv
    obtain ⟨field, hfield, -⟩ := (ownMembers_fit q).2.1 (k, v) hkv
    exact Json.lookup_kept hfits (by rw [hfield]; rfl)
      (hms.mem_iff.2 (List.mem_append_left _ hkv))

section Reading

open Service.Request (readCreateBucket readDeleteBucket readGrant readRevoke)

variable {bucket account : String} {context : Dict String} {r : Request}

theorem readCreateBucket_encoded (h : Encodes (.createBucket bucket context) r) :
    readCreateBucket r.body = .ok (.createBucket bucket context) := by
  obtain ⟨fields, hread, -, hlookup⟩ := readFields_encoded h
  have hname := hlookup "name" (.text bucket) (by simp [ownMembers])
  have hcontext := hlookup "parameters" (.texts context) (by simp [ownMembers])
  rw [shapeOf] at hread
  rw [readCreateBucket, hread]
  simp [bind, Except.bind, pure, Except.pure, Json.textOf, Json.textsOf, hname, hcontext]

theorem readDeleteBucket_encoded (h : Encodes (.deleteBucket bucket context) r) :
    readDeleteBucket bucket r.body = .ok (.deleteBucket bucket context) := by
  obtain ⟨fields, -, hread, hlookup⟩ := readFields_encoded h
  have hcontext := hlookup "deleteContext" (.texts context) (by simp [ownMembers])
  rw [shapeOf] at hread
  rw [readDeleteBucket, hread]
  simp [bind, Except.bind, pure, Except.pure, Json.textsOf, hcontext]

theorem readGrant_encoded (h : Encodes (.grant bucket account context) r) :
    readGrant bucket r.body = .ok (.grant bucket account context) := by
  obtain ⟨fields, hread, -, hlookup⟩ := readFields_encoded h
  have hname := hlookup "accountName" (.text account) (by simp [ownMembers])
  have hcontext := hlookup "parameters" (.texts context) (by simp [ownMembers])
  rw [shapeOf] at hread
  rw [readGrant, hread]
  simp [bind, Except.bind, pure, Except.pure, Json.textOf, Json.textsOf, hname, hcontext]

theorem readRevoke_encoded (h : Encodes (.revoke bucket account context) r) :
    readRevoke bucket account r.body = .ok (.revoke bucket account context) := by
  obtain ⟨fields, -, hread, hlookup⟩ := readFields_encoded h
  have hcontext := hlookup "revokeAccessContext" (.texts context) (by simp [ownMembers])
  rw [shapeOf] at hread
  rw [readRevoke, hread]
  simp [bind, Except.bind, pure, Except.pure, Json.textsOf, hcontext]

end Reading

/-! ## Understanding -/

/-- The text of a segment that spells it. -/
theorem named_eq {t what : String} {segment : List Char} (h : SegmentText t segment) :
    named what segment = .ok t := by
  rw [named, h.segmentText?_eq]

/-- The path of a request holds path characters only, and a slash in front of each segment only. -/
theorem Addressed.isPathChar_of_mem {q : Service.Request} {method : String}
    {segs : List (List Char)} (h : Addressed q method segs) :
    ∀ s ∈ segs, ∀ c ∈ s, isPathChar c = true ∧ c ≠ '/' := by
  have hversion : ∀ c ∈ "v1".toList, isPathChar c = true ∧ c ≠ '/' := by simp [isPathChar]
  have hbuckets : ∀ c ∈ "buckets".toList, isPathChar c = true ∧ c ≠ '/' := by simp [isPathChar]
  have haccess : ∀ c ∈ "access".toList, isPathChar c = true ∧ c ≠ '/' := by simp [isPathChar]
  cases h with
  | createBucket => simpa only [List.forall_mem_cons] using ⟨hversion, hbuckets, by simp⟩
  | deleteBucket _ hb =>
    simpa only [List.forall_mem_cons] using ⟨hversion, hbuckets, hb.isPathChar_of_mem, by simp⟩
  | grant _ _ hb =>
    simpa only [List.forall_mem_cons] using
      ⟨hversion, hbuckets, hb.isPathChar_of_mem, haccess, by simp⟩
  | revoke _ hb ha =>
    simpa only [List.forall_mem_cons] using
      ⟨hversion, hbuckets, hb.isPathChar_of_mem, haccess, ha.isPathChar_of_mem, by simp⟩

theorem Addressed.ne_nil {q : Service.Request} {method : String} {segs : List (List Char)}
    (h : Addressed q method segs) : segs ≠ [] := by
  cases h <;> simp

/-- A request is sent with a method that can be used. -/
theorem Addressed.checkMethod_eq {q : Service.Request} {method : String}
    {segs : List (List Char)} (h : Addressed q method segs) : checkMethod method = .ok () := by
  cases h <;> exact if_pos (by decide)

/-- A path of the first version is routed by its other segments. -/
theorem ofPath?_joined {segs : List (List Char)}
    (h : ∀ s ∈ "v1".toList :: segs, ∀ c ∈ s, isPathChar c = true ∧ c ≠ '/') (hne : segs ≠ []) :
    Route.ofPath? (joined ("v1".toList :: segs)) = Route.ofVersioned? segs :=
  ofPath?_versioned (fun s hs hslash => (h s (.tail _ hs) _ hslash).2 rfl) hne

/-- A request to a route in the method that it serves is understood as the route does. -/
theorem understand_of_route {info : Json.Value} {r : Request} {path : List Char} {route : Route}
    (hroute : Route.ofPath? path = some route) (hmethod : r.method = route.method) :
    understand info r path = requested info r route := by
  rw [understand, hroute]
  exact if_pos hmethod

/-- A request that was sent is understood as that request. -/
theorem understand_encoded {q : Service.Request} {r : Request} {segs : List (List Char)}
    (info : Json.Value) (h : Encodes q r) (haddress : Addressed q r.method segs)
    (hnamed : Named q) (hbody : r.body.length ≤ maxBody) :
    understand info r (joined segs) = .ok q := by
  have hbodyOf : bodyOf r = .ok r.body := if_neg (Nat.not_lt.2 hbody)
  have hpath := haddress.isPathChar_of_mem
  -- The segments decide the route; its reader is then given the texts of the segments.
  generalize hmethod : r.method = method at haddress
  cases haddress with
  | createBucket name context =>
    have hroute : Route.ofVersioned? ["buckets".toList] = some .buckets := rfl
    rw [understand_of_route ((ofPath?_joined hpath (by simp)).trans hroute) hmethod, requested,
      hbodyOf]
    show (Service.Request.readCreateBucket r.body).mapError _ = _
    rw [readCreateBucket_encoded h]
    rfl
  | @deleteBucket bucket b context hb =>
    have hroute : Route.ofVersioned? ["buckets".toList, b] = some (.bucket b) :=
      if_pos ⟨rfl, hb.ne_nil hnamed⟩
    rw [understand_of_route ((ofPath?_joined hpath (by simp)).trans hroute) hmethod, requested,
      named_eq hb, hbodyOf]
    show (Service.Request.readDeleteBucket bucket r.body).mapError _ = _
    rw [readDeleteBucket_encoded h]
    rfl
  | @grant bucket b account context hb =>
    have hroute : Route.ofVersioned? ["buckets".toList, b, "access".toList] = some (.access b) :=
      rfl
    rw [understand_of_route ((ofPath?_joined hpath (by simp)).trans hroute) hmethod, requested,
      named_eq hb, hbodyOf]
    show (Service.Request.readGrant bucket r.body).mapError _ = _
    rw [readGrant_encoded h]
    rfl
  | @revoke bucket account b a context hb ha =>
    have hroute : Route.ofVersioned? ["buckets".toList, b, "access".toList, a] =
        some (.account b a) := if_pos ⟨rfl, rfl, ha.ne_nil hnamed.2⟩
    rw [understand_of_route ((ofPath?_joined hpath (by simp)).trans hroute) hmethod, requested,
      named_eq hb, named_eq ha, hbodyOf]
    show (Service.Request.readRevoke bucket account r.body).mapError _ = _
    rw [readRevoke_encoded h]
    rfl

/-! ## A writer -/

/-- A field as it is written without blanks, a dictionary with its keys in ascending order. -/
def fieldChars : FieldValue → List Char
  | .text t => Json.stringChars t
  | .texts d => Json.writtenObject Json.stringChars d.entries

/-- A written field is a text of the field. -/
theorem fieldText_chars (v : FieldValue) (r : List UInt8) :
    Json.FieldText v (Text.Utf8.encodeChars (fieldChars v) ++ r) r := by
  cases v with
  | text t => exact .text (Json.stringText_stringChars t r)
  | texts d =>
    exact .texts (.refl _)
      (Json.objectText_written Json.stringChars d.entries
        (fun m _ => Json.stringText_stringChars m.2) r)

/-- The request as it is sent by a writer that escapes all it can, with further members behind the
own ones. -/
def written (q : Service.Request) (beside : List (String × FieldValue)) : Request :=
  let encoded := fun t => (Text.Percent.encode t).toList
  let method := match q with
    | .createBucket .. | .grant .. => "POST"
    | .deleteBucket .. | .revoke .. => "DELETE"
  let segments := match q with
    | .createBucket .. => []
    | .deleteBucket bucket _ => [encoded bucket]
    | .grant bucket _ _ => [encoded bucket, "access".toList]
    | .revoke bucket account _ => [encoded bucket, "access".toList, encoded account]
  ⟨method, String.ofList (joined ("v1".toList :: "buckets".toList :: segments)),
    Text.Utf8.encodeChars (Json.writtenObject fieldChars (ownMembers q ++ beside))⟩

/-- Every request can be sent. -/
theorem encodes_written {q : Service.Request} {beside : List (String × FieldValue)}
    (h : Beside q beside) : Encodes q (written q beside) where
  address := by
    refine ⟨_, ?_, String.toList_ofList⟩
    cases q with
    | createBucket name context => exact .createBucket name context
    | deleteBucket bucket context => exact .deleteBucket context (segmentText_encode bucket)
    | grant bucket account context => exact .grant account context (segmentText_encode bucket)
    | revoke bucket account context =>
      exact .revoke context (segmentText_encode bucket) (segmentText_encode account)
  body := by
    refine ⟨beside, _, h, .refl _, _, [], .none _, ?_, .none _⟩
    have hobject := Json.objectText_written fieldChars (ownMembers q ++ beside)
      (fun m _ => fieldText_chars m.2) []
    rwa [List.append_nil] at hobject

/-! ## Agreement -/

/-- Serving a request that was sent over HTTP is answering it: the state behind the service ends as
by the dispatcher's operation, and the answer tells of the operation's outcome. -/
theorem serve_agrees {σ : Type} (d : Dispatcher σ) (s : σ) {q : Service.Request} {r : Request}
    (hnamed : Named q) (h : Encodes q r)
    (htarget : (Text.Utf8.encode r.target).length ≤ maxTarget)
    (hbody : r.body.length ≤ maxBody) :
    ∃ reply, serve d r s = .ok (reply, (d.answer q s).2) ∧ reply.Tells q (d.answer q s).1 := by
  obtain ⟨segs, haddress, hsegs⟩ := h.address
  have hpath : pathOf r.target = .ok (joined segs) :=
    pathOf_joined haddress.ne_nil hsegs
      (fun s hs c hc => (haddress.isPathChar_of_mem s hs c hc).1) htarget
  have hserve : serve d r s = .ok (.ofOutcome (d.answer q s).1, (d.answer q s).2) := by
    rw [serve, haddress.checkMethod_eq, hpath]
    show Except.ok (respond d r (joined segs) s) = _
    rw [respond, understand_encoded d.info h haddress hnamed hbody]
  exact ⟨_, hserve, Reply.tells_ofOutcome fun _ => Dispatcher.answer_isFor⟩

/-- A service on the memory store with the parameters of single runs. -/
def onMemory : Dispatcher Memory.State :=
  ⟨"driver", fun _ => .ok Provision.sample, fun _ p => .ok (Memory.answer p.accessKeyId)⟩

/-- A state in which there is nothing. -/
def nothing : Memory.State :=
  ⟨.empty, fun n => ⟨"key" ++ n.repr, "secret"⟩⟩

/-- A grant whose path names a bucket with a slash and whose body names another bucket. -/
def misnamed : Service.Request × Request :=
  let q := .grant "a/b" "u" .empty
  (q, written q [("bucketId", .text "c")])

/-- The account is given the policy of the bucket in the path. -/
theorem serve_agrees_misnamed :
    ∃ reply s', serve onMemory misnamed.2 nothing = .ok (reply, s') ∧ reply.status = 200 ∧
      (s'.store.users.get? "u").map (·.policies.keys) = some [Policy.name "a/b"] := by
  have hbeside : Beside misnamed.1 [("bucketId", .text "c")] := by
    refine ⟨by simp, ?_, ?_⟩ <;> simp [misnamed, pathKeys, FieldValue.kind]
  obtain ⟨reply, hserve, htells⟩ := serve_agrees onMemory nothing (q := misnamed.1)
    (r := misnamed.2) ⟨by decide, by decide⟩ (encodes_written hbeside) (by decide +kernel)
    (by decide +kernel)
  refine ⟨reply, _, hserve, ?_, by decide +kernel⟩
  have hok : ∃ response, (onMemory.answer misnamed.1 nothing).1 = .ok response := ⟨_, rfl⟩
  obtain ⟨response, hresponse⟩ := hok
  rw [hresponse] at htells
  exact htells.1

end BucketDriver.Http
