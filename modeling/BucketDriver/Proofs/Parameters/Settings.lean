import BucketDriver.Proofs.Parameters.Acceptance

/-!
# Settings made one after the other

Parameters are made with the default settings and then changed by any number of calls (`applyAll`).
The first call that fails ends it with its error. If none fails, each setting is the one that the
last call of its kind makes alone, and only the order of the calls of one kind matters. Whatever is
made is sound (`Sound`), which each call preserves: `last_call_counts`. Endpoints are what the
reader of URLs takes for them, whichever reader it is.
-/

namespace BucketDriver.Parameters

variable {read : UrlReader} {p q : Parameters} {err : DriverError}

/-- A call that changes a setting. -/
inductive Setting where
  | region (value : Option String)
  | identityEndpoint (value : Option String)
  | tlsTrust (value : Option (List UInt8))
  | debug (value : Bool)
  deriving DecidableEq, Repr

/-- The kinds of settings. -/
inductive SettingKind where
  | region
  | identityEndpoint
  | tlsTrust
  | debug
  deriving DecidableEq, Repr

namespace Setting

/-- The kind of a call. -/
def kind : Setting → SettingKind
  | region _ => .region
  | identityEndpoint _ => .identityEndpoint
  | tlsTrust _ => .tlsTrust
  | debug _ => .debug

/-- What a call makes of parameters. -/
def apply (read : UrlReader) (p : Parameters) : Setting → Except DriverError Parameters
  | region value => .ok (p.withRegion value)
  | identityEndpoint value => p.withIdentityEndpointBy read value
  | tlsTrust value => .ok (p.withTlsTrust value)
  | debug value => .ok (p.withDebug value)

/-- A call is given an endpoint that is none. -/
def Faulty (read : UrlReader) (call : Setting) : Prop :=
  ∃ e, call = identityEndpoint (some e) ∧ Text.trim e ≠ "" ∧ ¬ IsEndpoint read e

/-- The error of a call. -/
def fault? (read : UrlReader) : Setting → Option DriverError
  | identityEndpoint value =>
    (meant value).bind fun e => match checkEndpoint read identityEndpointKey e with
      | .error err => some err
      | .ok _ => none
  | _ => none

/-- The parameters behind a call that does not fail. -/
def set (p : Parameters) : Setting → Parameters
  | region value => p.withRegion value
  | identityEndpoint value => { p with identityEndpoint? := meant value }
  | tlsTrust value => p.withTlsTrust value
  | debug value => p.withDebug value

theorem apply_eq (read : UrlReader) (p : Parameters) (call : Setting) :
    call.apply read p = match call.fault? read with
      | some err => .error err
      | none => .ok (call.set p) := by
  cases call with
  | region | tlsTrust | debug => rfl
  | identityEndpoint value =>
    rw [apply, withIdentityEndpointBy, ← meant, fault?]
    cases hmeant : meant value with
    | none => rw [set, hmeant]; rfl
    | some e =>
      dsimp only [Option.bind]
      cases checkEndpoint read identityEndpointKey e with
      | error err => rfl
      | ok u => rw [set, hmeant]; rfl

end Setting

/-- What calls make of parameters, one after the other. -/
def applyAll (read : UrlReader) (p : Parameters) (calls : List Setting) :
    Except DriverError Parameters :=
  calls.foldlM (Setting.apply read) p

/-! ## The first call that fails -/

namespace Setting

/-- A call fails for the endpoint that it is given. -/
theorem fault?_eq_some_iff {call : Setting} : call.fault? read = some err ↔
    ∃ e, call = identityEndpoint (some e) ∧ Text.trim e ≠ "" ∧
      EndpointFault read "iamEndpoint" e err := by
  cases call with
  | region | tlsTrust | debug => simp [fault?]
  | identityEndpoint value =>
    simp only [fault?, Option.bind_eq_some_iff, meant_eq_some_iff, identityEndpoint.injEq]
    constructor
    · rintro ⟨e, ⟨rfl, hne⟩, h⟩
      refine ⟨e, rfl, hne, (checkEndpoint_eq_error_iff (isBlank_eq_false_iff.2 hne)).1 ?_⟩
      split at h
      case h_1 hcheck => rw [← Option.some.inj h]; exact hcheck
      case h_2 => cases h
    · rintro ⟨e, rfl, hne, h⟩
      have hcheck : checkEndpoint read identityEndpointKey e = .error err :=
        checkEndpoint_of_fault (isBlank_eq_false_iff.2 hne) h
      exact ⟨e, ⟨rfl, hne⟩, by rw [hcheck]⟩

theorem faulty_iff {call : Setting} : call.Faulty read ↔ ∃ err, call.fault? read = some err := by
  simp only [fault?_eq_some_iff]
  constructor
  · rintro ⟨e, rfl, hne, hnot⟩
    obtain ⟨err, h⟩ := (isEndpoint_or_fault read "iamEndpoint" e).resolve_left hnot
    exact ⟨err, e, rfl, hne, h⟩
  · rintro ⟨err, e, rfl, hne, h⟩
    exact ⟨e, rfl, hne, h.not_isEndpoint⟩

instance : DecidablePred (Faulty read) := fun call =>
  decidable_of_iff ((call.fault? read).isSome = true)
    (Option.isSome_iff_exists.trans faulty_iff.symm)

theorem fault?_of_not_faulty {call : Setting} (h : ¬ call.Faulty read) : call.fault? read = none :=
  Option.eq_none_iff_forall_ne_some.2 fun err herr => h (faulty_iff.2 ⟨err, herr⟩)

end Setting

/-- The calls give the error of the first one that has any, and set one setting after the other if
none has. -/
theorem applyAll_eq (read : UrlReader) (p : Parameters) (calls : List Setting) :
    applyAll read p calls = match calls.findSome? (Setting.fault? read) with
      | some err => .error err
      | none => .ok (calls.foldl Setting.set p) := by
  unfold applyAll
  induction calls generalizing p with
  | nil => rfl
  | cons call calls ih =>
    rw [List.foldlM_cons, Setting.apply_eq, List.findSome?_cons]
    cases call.fault? read with
    | some err => rfl
    | none => exact ih _

theorem applyAll_of_faulty {before after : List Setting} {call : Setting}
    (hbefore : ∀ c ∈ before, ¬ c.Faulty read) (h : call.fault? read = some err) (p : Parameters) :
    applyAll read p (before ++ call :: after) = .error err := by
  have hnone : before.findSome? (Setting.fault? read) = none :=
    List.findSome?_eq_none_iff.2 fun c hc => Setting.fault?_of_not_faulty (hbefore c hc)
  rw [applyAll_eq, List.findSome?_append, hnone, Option.none_or, List.findSome?_cons, h]

theorem applyAll_of_not_faulty {calls : List Setting} (h : ∀ c ∈ calls, ¬ c.Faulty read)
    (p : Parameters) : applyAll read p calls = .ok (calls.foldl Setting.set p) := by
  have hnone : calls.findSome? (Setting.fault? read) = none :=
    List.findSome?_eq_none_iff.2 fun c hc => Setting.fault?_of_not_faulty (h c hc)
  rw [applyAll_eq, hnone]

/-! ## The last call of each kind -/

/-- Parameters have the same setting of a kind. -/
def SettingKind.Same (p q : Parameters) : SettingKind → Prop
  | region => p.region = q.region
  | identityEndpoint => p.identityEndpoint? = q.identityEndpoint?
  | tlsTrust => p.tlsTrust = q.tlsTrust
  | debug => p.debug = q.debug

/-- The calls of a kind, in order. -/
def callsOf (kind : SettingKind) (calls : List Setting) : List Setting :=
  calls.filter (·.kind = kind)

section Last

variable {kind : SettingKind} {call last : Setting} {calls : List Setting}

theorem SettingKind.Same.refl (kind : SettingKind) (p : Parameters) : kind.Same p p := by
  cases kind <;> rfl

theorem SettingKind.Same.symm (h : kind.Same p q) : kind.Same q p := by
  cases kind <;> exact Eq.symm h

theorem SettingKind.Same.trans {r : Parameters} (h : kind.Same p q) (h' : kind.Same q r) :
    kind.Same p r := by
  cases kind <;> exact Eq.trans h h'

/-- A call leaves the settings of other kinds. -/
theorem same_set_of_ne (h : call.kind ≠ kind) (p : Parameters) : kind.Same (call.set p) p := by
  cases call <;> cases kind <;> first | rfl | exact absurd rfl h

/-- The setting that a call makes does not depend on those before it. -/
theorem same_set_of_eq (h : call.kind = kind) (p q : Parameters) :
    kind.Same (call.set p) (call.set q) := by
  subst h
  cases call <;> rfl

/-- Without a call of a kind the setting stays. -/
theorem same_foldl_of_none (h : callsOf kind calls = []) (p : Parameters) :
    kind.Same (calls.foldl Setting.set p) p := by
  induction calls generalizing p with
  | nil => exact .refl kind p
  | cons call calls ih =>
    rw [callsOf, List.filter_cons] at h
    split at h
    case isTrue => cases h
    case isFalse hne => exact (ih h (call.set p)).trans (same_set_of_ne (by simpa using hne) p)

theorem getLast?_callsOf_cons (h : (callsOf kind calls).getLast? = some last) (call : Setting) :
    (callsOf kind (call :: calls)).getLast? = some last := by
  unfold callsOf at h ⊢
  rw [List.filter_cons]
  split
  · rw [List.getLast?_cons, h]
    rfl
  · exact h

/-- The setting of a kind is the one that the last call of the kind makes, of whatever parameters.
By induction on the calls. -/
theorem same_foldl_of_last (h : (callsOf kind calls).getLast? = some last) (p p' : Parameters) :
    kind.Same (calls.foldl Setting.set p) (last.set p') := by
  induction calls generalizing p with
  | nil => cases h
  | cons call calls ih =>
    cases hrest : (callsOf kind calls).getLast? with
    | some last' =>
      rw [getLast?_callsOf_cons hrest call] at h
      exact ih (hrest.trans h) (call.set p)
    | none =>
      -- The first call is the only one of the kind.
      have hnil : callsOf kind calls = [] := List.getLast?_eq_none_iff.1 hrest
      have hcalls : callsOf kind (call :: calls) = if call.kind = kind then [call] else [] := by
        rw [callsOf, List.filter_cons, ← callsOf, hnil]
        simp only [decide_eq_true_eq]
      rw [hcalls] at h
      split at h
      case isTrue hkind =>
        cases h
        exact (same_foldl_of_none hnil (call.set p)).trans (same_set_of_eq hkind p p')
      case isFalse => cases h

/-- Parameters are equal when they are for one provider and have the same settings. -/
theorem eq_of_same (hk : p.accessKeyId = q.accessKeyId) (hs : p.secretAccessKey = q.secretAccessKey)
    (he : p.endpoint = q.endpoint) (h : ∀ kind : SettingKind, kind.Same p q) : p = q := by
  have hregion : p.region = q.region := h .region
  have hidentity : p.identityEndpoint? = q.identityEndpoint? := h .identityEndpoint
  have htrust : p.tlsTrust = q.tlsTrust := h .tlsTrust
  have hdebug : p.debug = q.debug := h .debug
  cases p
  cases q
  simp_all

/-- No call changes the keys or the endpoint. -/
theorem foldl_set_fixed (calls : List Setting) (p : Parameters) :
    (calls.foldl Setting.set p).accessKeyId = p.accessKeyId ∧
    (calls.foldl Setting.set p).secretAccessKey = p.secretAccessKey ∧
    (calls.foldl Setting.set p).endpoint = p.endpoint := by
  induction calls generalizing p with
  | nil => exact ⟨rfl, rfl, rfl⟩
  | cons call calls ih =>
    rw [List.foldl_cons]
    cases call <;> exact ih _

/-- Only the calls for the identity service can fail. -/
theorem findSome?_callsOf (read : UrlReader) (calls : List Setting) :
    (callsOf .identityEndpoint calls).findSome? (Setting.fault? read) =
      calls.findSome? (Setting.fault? read) := by
  induction calls with
  | nil => rfl
  | cons call calls ih =>
    rw [callsOf, List.filter_cons, ← callsOf]
    split
    case isTrue => rw [List.findSome?_cons, List.findSome?_cons, ih]
    case isFalse hne =>
      rw [List.findSome?_cons, ih]
      cases call with
      | region | tlsTrust | debug => rfl
      | identityEndpoint value => exact absurd rfl hne

/-- Calls that are in the same order within each kind make the same of parameters. -/
theorem applyAll_congr {calls' : List Setting}
    (h : ∀ kind, callsOf kind calls' = callsOf kind calls) (p : Parameters) :
    applyAll read p calls' = applyAll read p calls := by
  have hfault : calls'.findSome? (Setting.fault? read) = calls.findSome? (Setting.fault? read) := by
    rw [← findSome?_callsOf read calls', h, findSome?_callsOf]
  have hset : calls'.foldl Setting.set p = calls.foldl Setting.set p := by
    obtain ⟨hk, hs, he⟩ := foldl_set_fixed calls p
    obtain ⟨hk', hs', he'⟩ := foldl_set_fixed calls' p
    refine eq_of_same (hk'.trans hk.symm) (hs'.trans hs.symm) (he'.trans he.symm) fun kind => ?_
    cases hlast : (callsOf kind calls).getLast? with
    | none =>
      have hnil : callsOf kind calls = [] := List.getLast?_eq_none_iff.1 hlast
      exact (same_foldl_of_none ((h kind).trans hnil) p).trans (same_foldl_of_none hnil p).symm
    | some last =>
      have hlast' : (callsOf kind calls').getLast? = some last := by rw [h, hlast]
      exact (same_foldl_of_last hlast' p p).trans (same_foldl_of_last hlast p p).symm
  rw [applyAll_eq, applyAll_eq, hfault, hset]

end Last

/-! ## Sound parameters -/

/-- A text is not empty and has no blank characters at its ends. -/
structure Trimmed (s : String) : Prop where
  /-- It is not empty. -/
  nonempty : s ≠ ""
  /-- It does not start with a blank character. -/
  start : ∀ c, s.toList.head? = some c → Text.isBlankChar c = false
  /-- It does not end with one. -/
  last : ∀ c, s.toList.getLast? = some c → Text.isBlankChar c = false

theorem trimmed_trim {s : String} (h : Text.trim s ≠ "") : Trimmed (Text.trim s) where
  nonempty := h
  start c hc := by
    rw [Text.trim, String.toList_ofList] at hc
    exact Text.head?_trimChars hc
  last c hc := by
    rw [Text.trim, String.toList_ofList] at hc
    exact Text.getLast?_trimChars hc

theorem trimmed_defaultRegion : Trimmed defaultRegion where
  nonempty := by decide
  start := by
    rintro c ⟨⟩
    decide
  last := by
    rintro c ⟨⟩
    decide

/-- What holds of all parameters. -/
structure Sound (read : UrlReader) (p : Parameters) : Prop where
  /-- The identifier of the key is not blank. -/
  accessKeyId : Text.trim p.accessKeyId ≠ ""
  /-- The secret of the key is not blank. -/
  secretAccessKey : Text.trim p.secretAccessKey ≠ ""
  /-- There is an endpoint. -/
  endpoint : Text.trim p.endpoint ≠ "" ∧ IsEndpoint read p.endpoint
  /-- A separate endpoint of the identity service is one as well. -/
  identityEndpoint : ∀ e, p.identityEndpoint? = some e → Text.trim e ≠ "" ∧ IsEndpoint read e
  /-- There is a region without blanks around it. -/
  region : Trimmed p.region
  /-- A trusted certificate is not empty. -/
  tlsTrust : ∀ c, p.tlsTrust = some c → c ≠ []

theorem createBy_eq_ok {k s e : String} (h : createBy read k s e = .ok p) :
    Text.trim k ≠ "" ∧ Text.trim s ≠ "" ∧ Text.trim e ≠ "" ∧ IsEndpoint read e ∧
      p = ⟨k, s, e, "us-east-1", none, none, false⟩ := by
  -- Check by check, in the order in which they are made.
  by_cases hk : Text.isBlank k = true
  · rw [createBy_of_blank_key hk] at h
    cases h
  rw [Bool.not_eq_true] at hk
  by_cases hs : Text.isBlank s = true
  · rw [createBy_of_blank_secret hk hs] at h
    cases h
  rw [Bool.not_eq_true] at hs
  by_cases he : Text.isBlank e = true
  · rw [createBy_of_endpoint_error hk hs (checkEndpoint_of_blank he)] at h
    cases h
  rw [Bool.not_eq_true] at he
  rcases isEndpoint_or_fault read endpointKey e with hvalid | ⟨err, hfault⟩
  · rw [createBy_of_isEndpoint hk hs he hvalid] at h
    cases h
    exact ⟨isBlank_eq_false_iff.1 hk, isBlank_eq_false_iff.1 hs, isBlank_eq_false_iff.1 he, hvalid,
      rfl⟩
  · rw [createBy_of_endpoint_error hk hs (checkEndpoint_of_fault he hfault)] at h
    cases h

namespace Sound

theorem of_createBy {k s e : String} (h : createBy read k s e = .ok p) : p.Sound read := by
  obtain ⟨hk, hs, he, hvalid, rfl⟩ := createBy_eq_ok h
  exact ⟨hk, hs, ⟨he, hvalid⟩, nofun, trimmed_defaultRegion, nofun⟩

theorem withRegion (h : p.Sound read) (value : Option String) :
    (p.withRegion value).Sound read := by
  have hregion : Trimmed ((value.bind Text.trimmed?).getD defaultRegion) := by
    cases hvalue : value.bind Text.trimmed? with
    | none => exact trimmed_defaultRegion
    | some text =>
      obtain ⟨v, -, hv⟩ := Option.bind_eq_some_iff.1 hvalue
      rw [Text.trimmed?] at hv
      split at hv
      case isTrue => cases hv
      case isFalse hblank =>
        cases hv
        exact trimmed_trim (isBlank_eq_false_iff.1 (Bool.eq_false_iff.2 hblank))
  exact { h with region := hregion }

/-- A call that does not fail keeps parameters sound. -/
theorem set {call : Setting} (h : p.Sound read) (hcall : ¬ call.Faulty read) :
    (call.set p).Sound read := by
  cases call with
  | region value => exact h.withRegion value
  | identityEndpoint value =>
    refine { h with identityEndpoint := fun e he => ?_ }
    obtain ⟨rfl, hne⟩ := meant_eq_some_iff.1 he
    exact ⟨hne, Classical.not_not.1 fun hnot => hcall ⟨e, rfl, hne, hnot⟩⟩
  | tlsTrust value =>
    refine { h with tlsTrust := fun c hc => ?_ }
    simpa using (Option.filter_eq_some_iff.1 hc).2
  | debug value => exact { h with }

theorem foldl_set {calls : List Setting} (h : p.Sound read)
    (hcalls : ∀ c ∈ calls, ¬ c.Faulty read) : (calls.foldl Setting.set p).Sound read := by
  induction calls generalizing p with
  | nil => exact h
  | cons call calls ih =>
    exact ih (h.set (hcalls call List.mem_cons_self))
      fun c hc => hcalls c (List.mem_cons_of_mem _ hc)

/-- Calls that do not fail make sound parameters of sound ones. -/
theorem applyAll {calls : List Setting} (h : p.Sound read) (hq : applyAll read p calls = .ok q) :
    q.Sound read := by
  have hcalls : ∀ c ∈ calls, ¬ c.Faulty read := by
    intro c hc hfaulty
    obtain ⟨err, herr⟩ := Setting.faulty_iff.1 hfaulty
    cases hfirst : calls.findSome? (Setting.fault? read) with
    | none =>
      rw [List.findSome?_eq_none_iff.1 hfirst c hc] at herr
      cases herr
    | some err' =>
      rw [applyAll_eq, hfirst] at hq
      cases hq
  rw [applyAll_of_not_faulty hcalls] at hq
  cases hq
  exact h.foldl_set hcalls

end Sound

/-! ## Calls and what they make -/

/-- Parameters are what calls have made of keys and an endpoint. -/
structure Made (read : UrlReader) (k s e : String) (calls : List Setting) (q : Parameters) :
    Prop where
  /-- The identifier of the key is unchanged. -/
  accessKeyId : q.accessKeyId = k
  /-- The secret of the key is unchanged. -/
  secretAccessKey : q.secretAccessKey = s
  /-- The endpoint is unchanged. -/
  endpoint : q.endpoint = e
  /-- Without a call of a kind there is the default setting. -/
  default : ∀ kind, callsOf kind calls = [] →
    kind.Same q ⟨k, s, e, "us-east-1", none, none, false⟩
  /-- A setting is the one that the last call of its kind makes alone, of whatever parameters. -/
  last : ∀ kind call, (callsOf kind calls).getLast? = some call →
    ∀ p, ∃ alone, call.apply read p = .ok alone ∧ kind.Same q alone

/-- The last call of each kind counts. If a call is given an endpoint that is none, the first such
call ends all with its error. If none is, each setting is made by the last call of its kind, so that
calls in another order make the same if the order within each kind is kept. What is made is sound.
-/
theorem last_call_counts (read : UrlReader) {k s e : String} {p : Parameters}
    (hp : createBy read k s e = .ok p) (calls : List Setting) :
    (∀ before call after, calls = before ++ call :: after → (∀ c ∈ before, ¬ c.Faulty read) →
      call.Faulty read →
        ∃ err, call.apply read p = .error err ∧ applyAll read p calls = .error err) ∧
    ((∀ c ∈ calls, ¬ c.Faulty read) →
      ∃ q, applyAll read p calls = .ok q ∧ Made read k s e calls q) ∧
    (∀ calls', (∀ kind, callsOf kind calls' = callsOf kind calls) →
      applyAll read p calls' = applyAll read p calls) ∧
    ∀ q, applyAll read p calls = .ok q → q.Sound read := by
  refine ⟨?_, fun hcalls => ?_, fun calls' h => applyAll_congr h p,
    fun q hq => (Sound.of_createBy hp).applyAll hq⟩
  · rintro before call after rfl hbefore hfaulty
    obtain ⟨err, herr⟩ := Setting.faulty_iff.1 hfaulty
    exact ⟨err, by rw [Setting.apply_eq, herr], applyAll_of_faulty hbefore herr p⟩
  · refine ⟨_, applyAll_of_not_faulty hcalls p, ?_⟩
    obtain ⟨-, -, -, -, rfl⟩ := createBy_eq_ok hp
    obtain ⟨hk, hs, he⟩ := foldl_set_fixed calls ⟨k, s, e, "us-east-1", none, none, false⟩
    refine ⟨hk, hs, he, fun kind hnone => same_foldl_of_none hnone _, fun kind call hlast p' => ?_⟩
    have hcall : call ∈ calls := (List.mem_filter.1 (List.mem_of_getLast? hlast)).1
    refine ⟨call.set p', ?_, same_foldl_of_last hlast _ p'⟩
    rw [Setting.apply_eq, Setting.fault?_of_not_faulty (hcalls call hcall)]

/-- Calls that take settings back. -/
def resets : List Setting :=
  [.region (some "eu-west-1"), .identityEndpoint (some "https://[::1]"), .tlsTrust (some [0x2D]),
    .region (some " "), .debug true, .identityEndpoint (some "\t")]

/-- Calls with two mistakes. -/
def mistakes : List Setting :=
  [.debug true, .identityEndpoint (some "ftp://[::1]"), .region none,
    .identityEndpoint (some "localhost")]

/-- A blank region or endpoint takes an earlier one back, and of two mistakes the first is
reported. -/
theorem last_call_counts_reset : ∃ p, createBy Url.read "AK" "SK" "http://[::1]:9000" = .ok p ∧
    (∃ q, applyAll Url.read p resets = .ok q ∧ q.region = "us-east-1" ∧ q.identityEndpoint? = none ∧
      q.tlsTrust = some [0x2D] ∧ q.debug = true ∧ q.Sound Url.read) ∧
    applyAll Url.read p mistakes =
      .error (.invalidParameters "iamEndpoint must use http or https, got ftp") := by
  have hp : createBy Url.read "AK" "SK" "http://[::1]:9000" =
      .ok ⟨"AK", "SK", "http://[::1]:9000", defaultRegion, none, none, false⟩ :=
    createBy_of_isEndpoint (by decide) (by decide) (by decide) (by decide +kernel)
  refine ⟨_, hp, ?_, ?_⟩
  · have hcalls : ∀ c ∈ resets, ¬ c.Faulty Url.read := by decide +kernel
    obtain ⟨q, hq, hmade⟩ := (last_call_counts Url.read hp resets).2.1 hcalls
    obtain ⟨_, ⟨⟩, hregion⟩ := hmade.last .region (.region (some " ")) (by decide) q
    obtain ⟨_, ⟨⟩, hidentity⟩ :=
      hmade.last .identityEndpoint (.identityEndpoint (some "\t")) (by decide) q
    obtain ⟨_, ⟨⟩, htrust⟩ := hmade.last .tlsTrust (.tlsTrust (some [0x2D])) (by decide) q
    obtain ⟨_, ⟨⟩, hdebug⟩ := hmade.last .debug (.debug true) (by decide) q
    have hsound := (last_call_counts Url.read hp resets).2.2.2 q hq
    exact ⟨q, hq, hregion, hidentity, htrust, hdebug, hsound⟩
  · have hscheme : Url.read "ftp://[::1]" = .ok "ftp" := read_eq_ok_iff.2 (by decide +kernel)
    have hfault : EndpointFault Url.read "iamEndpoint" "ftp://[::1]"
        (.invalidParameters "iamEndpoint must use http or https, got ftp") :=
      .otherScheme hscheme (by decide) (by decide)
    obtain ⟨err, hcall, hall⟩ := (last_call_counts Url.read hp mistakes).1 [.debug true]
      (.identityEndpoint (some "ftp://[::1]")) _ rfl (by decide)
      ⟨_, rfl, by decide, hfault.not_isEndpoint⟩
    have herr := hcall.symm.trans (withIdentityEndpointBy_of_fault (meant_eq_some_iff.2
      ⟨rfl, by decide⟩) hfault _)
    rw [hall]
    exact congrArg Except.error (Except.error.inj herr)

end BucketDriver.Parameters
