import BucketDriver.Proofs.Secret.Choice

/-!
# When the data of a secret are parameters

The data of a secret are accepted when they give the two keys and an endpoint, name no other
endpoint that is none, and say nothing of the log of requests but `true` and `false` (`Acceptable`).
Of several requirements that they do not meet the first is reported (`FirstFault`), and what is
accepted is read as it stands there (`ReadFrom`): `data_accepted_iff`.

Which texts are URLs, and with which scheme, is a matter of the reader that the parameters are made
with. It is left open: an endpoint is what the reader gives the scheme `http` or `https`, and all
results hold for every reader.
-/

namespace BucketDriver.Parameters

open Secret (Silent)

/-! ## Endpoints -/

/-- A text is the endpoint of a service: a URL with the scheme `http` or `https`. -/
def IsEndpoint (read : UrlReader) (e : String) : Prop :=
  read e = .ok "http" ∨ read e = .ok "https"

theorem read_eq_ok_iff {read : UrlReader} {e scheme : String} :
    read e = .ok scheme ↔ (read e).toOption = some scheme := by
  cases read e <;> simp [Except.toOption]

instance (read : UrlReader) (e : String) : Decidable (IsEndpoint read e) :=
  decidable_of_iff ((read e).toOption = some "http" ∨ (read e).toOption = some "https")
    (or_congr read_eq_ok_iff read_eq_ok_iff).symm

/-- What is wrong with the text of an endpoint, and how it is reported for a key. -/
inductive EndpointFault (read : UrlReader) (key e : String) : DriverError → Prop where
  | noUrl {why : String} (h : read e = .error why) :
    EndpointFault read key e (.invalidParameters (key ++ " is not a valid URL: " ++ why))
  | otherScheme {scheme : String} (h : read e = .ok scheme) (hhttp : scheme ≠ "http")
    (hhttps : scheme ≠ "https") :
    EndpointFault read key e (.invalidParameters (key ++ " must use http or https, got " ++ scheme))

variable {read : UrlReader} {key e : String} {err : DriverError}

/-- A text is an endpoint or something is wrong with it. -/
theorem isEndpoint_or_fault (read : UrlReader) (key e : String) :
    IsEndpoint read e ∨ ∃ err, EndpointFault read key e err := by
  cases h : read e with
  | error why => exact .inr ⟨_, .noUrl h⟩
  | ok scheme =>
    by_cases hhttp : scheme = "http"
    · exact .inl (.inl (by rw [h, hhttp]))
    by_cases hhttps : scheme = "https"
    · exact .inl (.inr (by rw [h, hhttps]))
    exact .inr ⟨_, .otherScheme h hhttp hhttps⟩

theorem EndpointFault.not_isEndpoint (h : EndpointFault read key e err) : ¬ IsEndpoint read e := by
  unfold IsEndpoint
  cases h with
  | noUrl h => simp [h]
  | otherScheme h hhttp hhttps => simp [h, hhttp, hhttps]

theorem checkGiven_of_blank (h : Text.isBlank e = true) :
    checkGiven key e = .error (.missingParameter key) :=
  if_pos h

theorem checkGiven_of_not_blank (h : Text.isBlank e = false) : checkGiven key e = .ok () :=
  if_neg (Bool.eq_false_iff.1 h)

theorem checkEndpoint_of_blank (h : Text.isBlank e = true) :
    checkEndpoint read key e = .error (.missingParameter key) := by
  rw [checkEndpoint, checkGiven_of_blank h]
  rfl

theorem checkEndpoint_of_isEndpoint (hblank : Text.isBlank e = false) (h : IsEndpoint read e) :
    checkEndpoint read key e = .ok () := by
  rw [checkEndpoint, checkGiven_of_not_blank hblank]
  rcases h with h | h
  · rw [h]
    rfl
  · rw [h]
    rfl

theorem checkEndpoint_of_fault (hblank : Text.isBlank e = false)
    (h : EndpointFault read key e err) : checkEndpoint read key e = .error err := by
  rw [checkEndpoint, checkGiven_of_not_blank hblank]
  cases h with
  | noUrl h =>
    rw [h]
    rfl
  | @otherScheme scheme h hhttp hhttps =>
    have hnot : ¬ (scheme = "http" ∨ scheme = "https") := not_or.2 ⟨hhttp, hhttps⟩
    rw [h]
    exact if_neg hnot

/-- A text that is not blank is turned down for what is wrong with it. -/
theorem checkEndpoint_eq_error_iff (hblank : Text.isBlank e = false) :
    checkEndpoint read key e = .error err ↔ EndpointFault read key e err := by
  refine ⟨fun h => ?_, checkEndpoint_of_fault hblank⟩
  rcases isEndpoint_or_fault read key e with hvalid | ⟨err', hfault⟩
  · rw [checkEndpoint_of_isEndpoint hblank hvalid] at h
    cases h
  · rw [checkEndpoint_of_fault hblank hfault] at h
    cases h
    exact hfault

/-! ## The steps -/

section Steps

variable {k s : String}

theorem createBy_of_isEndpoint (hk : Text.isBlank k = false) (hs : Text.isBlank s = false)
    (he : Text.isBlank e = false) (h : IsEndpoint read e) :
    createBy read k s e = .ok ⟨k, s, e, defaultRegion, none, none, false⟩ := by
  rw [createBy, checkGiven_of_not_blank hk, checkGiven_of_not_blank hs,
    checkEndpoint_of_isEndpoint he h]
  rfl

theorem createBy_of_endpoint_error (hk : Text.isBlank k = false) (hs : Text.isBlank s = false)
    (h : checkEndpoint read endpointKey e = .error err) : createBy read k s e = .error err := by
  rw [createBy, checkGiven_of_not_blank hk, checkGiven_of_not_blank hs, h]
  rfl

theorem createBy_of_blank_secret (hk : Text.isBlank k = false) (hs : Text.isBlank s = true) :
    createBy read k s e = .error (.missingParameter secretAccessKeyKey) := by
  rw [createBy, checkGiven_of_not_blank hk, checkGiven_of_blank hs]
  rfl

theorem createBy_of_blank_key (hk : Text.isBlank k = true) :
    createBy read k s e = .error (.missingParameter accessKeyIdKey) := by
  rw [createBy, checkGiven_of_blank hk]
  rfl

/-- The endpoint that is meant: the given one unless it is blank. -/
def meant (endpoint : Option String) : Option String :=
  endpoint.filter (!Text.isBlank ·)

theorem isBlank_eq_false_iff {v : String} : Text.isBlank v = false ↔ Text.trim v ≠ "" := by
  rw [Bool.eq_false_iff, Ne, Text.isBlank_iff_trim_eq_empty]

theorem meant_eq_some_iff {endpoint : Option String} :
    meant endpoint = some e ↔ endpoint = some e ∧ Text.trim e ≠ "" := by
  rw [meant, Option.filter_eq_some_iff, Bool.not_eq_true', isBlank_eq_false_iff]

theorem isBlank_of_meant {endpoint : Option String} (h : meant endpoint = some e) :
    Text.isBlank e = false :=
  isBlank_eq_false_iff.2 (meant_eq_some_iff.1 h).2

theorem withIdentityEndpointBy_of_isEndpoint {endpoint : Option String}
    (h : ∀ e, meant endpoint = some e → IsEndpoint read e) (p : Parameters) :
    p.withIdentityEndpointBy read endpoint =
      .ok { p with identityEndpoint? := meant endpoint } := by
  rw [withIdentityEndpointBy, ← meant]
  cases hmeant : meant endpoint with
  | none => rfl
  | some e =>
    dsimp only
    rw [checkEndpoint_of_isEndpoint (isBlank_of_meant hmeant) (h e hmeant)]
    rfl

theorem withIdentityEndpointBy_of_fault {endpoint : Option String}
    (hmeant : meant endpoint = some e) (h : EndpointFault read identityEndpointKey e err)
    (p : Parameters) : p.withIdentityEndpointBy read endpoint = .error err := by
  rw [withIdentityEndpointBy, ← meant, hmeant]
  dsimp only
  rw [checkEndpoint_of_fault (isBlank_of_meant hmeant) h]
  rfl

end Steps

/-! ## The data of a secret -/

/-- Data give a value under a key: it is there and not blank. -/
def Gives (d : Dict String) (key value : String) : Prop :=
  d.get? key = some value ∧ Text.trim value ≠ ""

section Data

variable {d : Dict String} {v : String}

theorem gives_or_silent (d : Dict String) (key : String) :
    (∃ v, Gives d key v) ∨ Silent d key := by
  rcases Secret.says_or_silent d key with ⟨_, v, hv, rfl, hne⟩ | hsilent
  · exact .inl ⟨v, hv, hne⟩
  · exact .inr hsilent

theorem Gives.not_silent (h : Gives d key v) : ¬ Silent d key :=
  fun hsilent => h.2 (hsilent v h.1)

theorem Gives.isBlank (h : Gives d key v) : Text.isBlank v = false :=
  isBlank_eq_false_iff.2 h.2

theorem Gives.getD (h : Gives d key v) : (d.get? key).getD "" = v := by
  rw [h.1]
  rfl

theorem isBlank_of_silent (h : Silent d key) : Text.isBlank ((d.get? key).getD "") = true := by
  cases hv : d.get? key with
  | none => rfl
  | some v => exact (Text.isBlank_iff_trim_eq_empty v).2 (h v hv)

/-- The endpoint that is meant is the one that data give. -/
theorem meant_get?_eq_some_iff : meant (d.get? key) = some e ↔ Gives d key e :=
  meant_eq_some_iff

theorem meant_get?_of_silent (h : Silent d key) : meant (d.get? key) = none := by
  cases hmeant : meant (d.get? key) with
  | none => rfl
  | some e => exact absurd h (meant_get?_eq_some_iff.1 hmeant).not_silent

theorem readDebug_of_silent (h : Silent d key) : readDebug (d.get? key) = .ok false := by
  cases hv : d.get? key with
  | none => rfl
  | some v =>
    rw [readDebug, h v hv]
    rfl

theorem readDebug_of_true (h : Gives d key v) (htrue : Text.trim v = "true") :
    readDebug (d.get? key) = .ok true := by
  rw [h.1, readDebug, htrue]
  rfl

theorem readDebug_of_false (h : Gives d key v) (hfalse : Text.trim v = "false") :
    readDebug (d.get? key) = .ok false := by
  rw [h.1, readDebug, hfalse]
  rfl

theorem readDebug_of_other (h : Gives d key v) (htrue : Text.trim v ≠ "true")
    (hfalse : Text.trim v ≠ "false") :
    readDebug (d.get? key) = .error (.invalidParameters "debug must be true or false") := by
  rw [h.1, readDebug]
  split
  case h_1 hempty => exact absurd hempty h.2
  case h_2 hf => exact absurd hf hfalse
  case h_3 ht => exact absurd ht htrue
  case h_4 => rfl

/-- Only the empty text has no bytes. -/
theorem encode_ne_nil (h : v ≠ "") : Text.Utf8.encode v ≠ [] := by
  intro hnil
  have hread := Text.Utf8.decode?_encode v
  rw [hnil] at hread
  exact h (Option.some.inj hread).symm

/-- What data must be to be accepted. -/
structure Acceptable (read : UrlReader) (d : Dict String) : Prop where
  /-- There is the identifier of a key. -/
  accessKeyId : ∃ v, Gives d "accessKeyId" v
  /-- There is the secret of a key. -/
  secretAccessKey : ∃ v, Gives d "secretAccessKey" v
  /-- There is an endpoint. -/
  endpoint : ∃ e, Gives d "endpoint" e ∧ IsEndpoint read e
  /-- If there is something for the identity service, it is an endpoint. -/
  identityEndpoint : ∀ e, Gives d "iamEndpoint" e → IsEndpoint read e
  /-- If there is something for the log, it is a truth value. -/
  debug : ∀ v, Gives d "debug" v → Text.trim v = "true" ∨ Text.trim v = "false"

/-- The first requirement that data do not meet, those in front of it being met, by the error that
reports it. -/
inductive FirstFault (read : UrlReader) (d : Dict String) : DriverError → Prop where
  | accessKeyId (h : Silent d "accessKeyId") : FirstFault read d (.missingParameter "accessKeyId")
  | secretAccessKey {k : String} (hk : Gives d "accessKeyId" k) (h : Silent d "secretAccessKey") :
    FirstFault read d (.missingParameter "secretAccessKey")
  | noEndpoint {k s : String} (hk : Gives d "accessKeyId" k) (hs : Gives d "secretAccessKey" s)
    (h : Silent d "endpoint") : FirstFault read d (.missingParameter "endpoint")
  | endpoint {k s e : String} {err : DriverError} (hk : Gives d "accessKeyId" k)
    (hs : Gives d "secretAccessKey" s) (he : Gives d "endpoint" e)
    (h : EndpointFault read "endpoint" e err) : FirstFault read d err
  | identityEndpoint {k s e i : String} {err : DriverError} (hk : Gives d "accessKeyId" k)
    (hs : Gives d "secretAccessKey" s) (he : Gives d "endpoint" e) (hvalid : IsEndpoint read e)
    (hi : Gives d "iamEndpoint" i) (h : EndpointFault read "iamEndpoint" i err) :
    FirstFault read d err
  | debug {k s e v : String} (hk : Gives d "accessKeyId" k) (hs : Gives d "secretAccessKey" s)
    (he : Gives d "endpoint" e) (hvalid : IsEndpoint read e)
    (hi : ∀ i, Gives d "iamEndpoint" i → IsEndpoint read i) (hv : Gives d "debug" v)
    (htrue : Text.trim v ≠ "true") (hfalse : Text.trim v ≠ "false") :
    FirstFault read d (.invalidParameters "debug must be true or false")

/-- Parameters are those that data give. -/
structure ReadFrom (d : Dict String) (p : Parameters) : Prop where
  /-- The identifier of the key is unchanged. -/
  accessKeyId : d.get? "accessKeyId" = some p.accessKeyId
  /-- The secret of the key is unchanged. -/
  secretAccessKey : d.get? "secretAccessKey" = some p.secretAccessKey
  /-- The endpoint is unchanged. -/
  endpoint : d.get? "endpoint" = some p.endpoint
  /-- A region is trimmed. -/
  region : ∀ v, Gives d "region" v → p.region = Text.trim v
  /-- Without one there is the default. -/
  defaultRegion : Silent d "region" → p.region = "us-east-1"
  /-- An endpoint of the identity service is unchanged. -/
  identityEndpoint : ∀ e, Gives d "iamEndpoint" e → p.identityEndpoint = e
  /-- Without one there is the common one. -/
  commonEndpoint : Silent d "iamEndpoint" → p.identityEndpoint = p.endpoint
  /-- A certificate is trusted by its bytes, blank or not. -/
  tlsTrust : ∀ c, d.get? "tlsCert" = some c → c ≠ "" → p.tlsTrust = some c.toUTF8.data.toList
  /-- Without one there is no trust. -/
  noTrust : (∀ c, d.get? "tlsCert" = some c → c = "") → p.tlsTrust = none
  /-- Requests are logged when the data say so. -/
  debug : p.debug = true ↔ ∃ v, Gives d "debug" v ∧ Text.trim v = "true"

/-- What data give for the identity service is an endpoint, or something is wrong with it. -/
theorem identity_or_fault (read : UrlReader) (d : Dict String) :
    (∀ i, Gives d "iamEndpoint" i → IsEndpoint read i) ∨
      ∃ i err, Gives d "iamEndpoint" i ∧ EndpointFault read "iamEndpoint" i err := by
  by_cases h : ∃ i, Gives d "iamEndpoint" i ∧ ¬ IsEndpoint read i
  · obtain ⟨i, hgives, hnot⟩ := h
    obtain ⟨err, hfault⟩ := (isEndpoint_or_fault read "iamEndpoint" i).resolve_left hnot
    exact .inr ⟨i, err, hgives, hfault⟩
  · exact .inl fun i hgives => Classical.not_not.1 fun hnot => h ⟨i, hgives, hnot⟩

/-- Data are accepted or have a first fault. -/
theorem acceptable_or_fault (read : UrlReader) (d : Dict String) :
    Acceptable read d ∨ ∃ err, FirstFault read d err := by
  -- Requirement by requirement, in the order of the faults.
  refine (gives_or_silent d "accessKeyId").elim (fun ⟨k, hk⟩ => ?_)
    (fun h => .inr ⟨_, .accessKeyId h⟩)
  refine (gives_or_silent d "secretAccessKey").elim (fun ⟨s, hs⟩ => ?_)
    (fun h => .inr ⟨_, .secretAccessKey hk h⟩)
  refine (gives_or_silent d "endpoint").elim (fun ⟨e, he⟩ => ?_)
    (fun h => .inr ⟨_, .noEndpoint hk hs h⟩)
  refine (isEndpoint_or_fault read "endpoint" e).elim (fun hvalid => ?_)
    (fun ⟨_, h⟩ => .inr ⟨_, .endpoint hk hs he h⟩)
  refine (identity_or_fault read d).elim (fun hi => ?_)
    (fun ⟨_, _, hgives, h⟩ => .inr ⟨_, .identityEndpoint hk hs he hvalid hgives h⟩)
  by_cases hdebug : ∃ v, Gives d "debug" v ∧ ¬ (Text.trim v = "true" ∨ Text.trim v = "false")
  · obtain ⟨v, hv, hnot⟩ := hdebug
    obtain ⟨htrue, hfalse⟩ := not_or.1 hnot
    exact .inr ⟨_, .debug hk hs he hvalid hi hv htrue hfalse⟩
  · exact .inl ⟨⟨k, hk⟩, ⟨s, hs⟩, ⟨e, he, hvalid⟩, hi,
      fun v hv => Classical.not_not.1 fun hnot => hdebug ⟨v, hv, hnot⟩⟩

/-! ## Reading the data -/

/-- What a failure to make parameters of keys and endpoint is to the data. -/
theorem ofSecretBy_of_createBy_error
    (h : createBy read ((d.get? accessKeyIdKey).getD "") ((d.get? secretAccessKeyKey).getD "")
      ((d.get? endpointKey).getD "") = .error err) : ofSecretBy read d = .error err := by
  rw [ofSecretBy]
  dsimp only
  rw [h]
  rfl

/-- The parameters of keys and endpoint, with the settings that the data give. -/
theorem ofSecretBy_of_gives {k s : String} (hk : Gives d accessKeyIdKey k)
    (hs : Gives d secretAccessKeyKey s) (he : Gives d endpointKey e) (hvalid : IsEndpoint read e) :
    ofSecretBy read d = do
      let p : Parameters := ⟨k, s, e, defaultRegion, none, none, false⟩
      let p := p.withRegion (d.get? regionKey)
      let p ← p.withIdentityEndpointBy read (d.get? identityEndpointKey)
      let debug ← readDebug (d.get? debugKey)
      return (p.withTlsTrust ((d.get? tlsTrustKey).map Text.Utf8.encode)).withDebug debug := by
  rw [ofSecretBy]
  dsimp only
  rw [hk.getD, hs.getD, he.getD, createBy_of_isEndpoint hk.isBlank hs.isBlank he.isBlank hvalid]
  rfl

/-- The first fault is reported. -/
theorem ofSecretBy_of_fault (h : FirstFault read d err) : ofSecretBy read d = .error err := by
  cases h with
  | accessKeyId h =>
    exact ofSecretBy_of_createBy_error (createBy_of_blank_key (isBlank_of_silent h))
  | secretAccessKey hk h =>
    refine ofSecretBy_of_createBy_error (createBy_of_blank_secret ?_ (isBlank_of_silent h))
    rw [accessKeyIdKey, hk.getD]
    exact hk.isBlank
  | noEndpoint hk hs h =>
    refine ofSecretBy_of_createBy_error (createBy_of_endpoint_error ?_ ?_
      (checkEndpoint_of_blank (isBlank_of_silent h)))
    · rw [accessKeyIdKey, hk.getD]
      exact hk.isBlank
    · rw [secretAccessKeyKey, hs.getD]
      exact hs.isBlank
  | endpoint hk hs he h =>
    apply ofSecretBy_of_createBy_error
    rw [accessKeyIdKey, secretAccessKeyKey, endpointKey, hk.getD, hs.getD, he.getD]
    exact createBy_of_endpoint_error hk.isBlank hs.isBlank (checkEndpoint_of_fault he.isBlank h)
  | identityEndpoint hk hs he hvalid hi h =>
    rw [ofSecretBy_of_gives hk hs he hvalid, identityEndpointKey]
    dsimp only
    rw [withIdentityEndpointBy_of_fault (meant_get?_eq_some_iff.2 hi) h]
    rfl
  | debug hk hs he hvalid hi hv htrue hfalse =>
    rw [ofSecretBy_of_gives hk hs he hvalid, identityEndpointKey, debugKey,
      readDebug_of_other hv htrue hfalse]
    dsimp only
    rw [withIdentityEndpointBy_of_isEndpoint fun i hmeant => hi i (meant_get?_eq_some_iff.1 hmeant)]
    rfl

theorem Gives.unique {w : String} (hv : Gives d key v) (hw : Gives d key w) : w = v :=
  Option.some.inj (hw.1.symm.trans hv.1)

/-- A truth value is read, and is on when the data say so. -/
theorem readDebug_of_acceptable (h : Acceptable read d) : ∃ debug,
    readDebug (d.get? debugKey) = .ok debug ∧
      (debug = true ↔ ∃ v, Gives d "debug" v ∧ Text.trim v = "true") := by
  rcases gives_or_silent d "debug" with ⟨v, hv⟩ | hsilent
  · rcases h.debug v hv with htrue | hfalse
    · exact ⟨true, readDebug_of_true hv htrue, fun _ => ⟨v, hv, htrue⟩, fun _ => rfl⟩
    · refine ⟨false, readDebug_of_false hv hfalse, nofun, ?_⟩
      rintro ⟨w, hw, htrue⟩
      rw [hv.unique hw, hfalse] at htrue
      exact absurd htrue (by decide)
  · exact ⟨false, readDebug_of_silent hsilent, nofun,
      fun ⟨_, hv, _⟩ => absurd hsilent hv.not_silent⟩

theorem certificate_read {c : String} (hc : d.get? "tlsCert" = some c) (hne : c ≠ "") :
    ((d.get? tlsTrustKey).map Text.Utf8.encode).filter (· ≠ []) = some c.toUTF8.data.toList := by
  rw [tlsTrustKey, hc, Option.map_some, Option.filter_some_pos (by simpa using encode_ne_nil hne),
    Text.Utf8.encode_eq]

theorem certificate_missing (h : ∀ c, d.get? "tlsCert" = some c → c = "") :
    ((d.get? tlsTrustKey).map Text.Utf8.encode).filter (· ≠ []) = none := by
  rw [tlsTrustKey]
  cases hc : d.get? "tlsCert" with
  | none => rfl
  | some c =>
    rw [h c hc]
    rfl

/-- Data that are accepted are read. -/
theorem ofSecretBy_of_acceptable (h : Acceptable read d) :
    ∃ p, ofSecretBy read d = .ok p ∧ ReadFrom d p := by
  obtain ⟨k, hk⟩ := h.accessKeyId
  obtain ⟨s, hs⟩ := h.secretAccessKey
  obtain ⟨e, he, hvalid⟩ := h.endpoint
  obtain ⟨debug, hdebug, hon⟩ := readDebug_of_acceptable h
  have hidentity : ∀ i, meant (d.get? identityEndpointKey) = some i → IsEndpoint read i :=
    fun i hi => h.identityEndpoint i (meant_get?_eq_some_iff.1 hi)
  rw [ofSecretBy_of_gives hk hs he hvalid, hdebug]
  dsimp only
  rw [withIdentityEndpointBy_of_isEndpoint hidentity]
  refine ⟨_, rfl, ?_⟩
  constructor
  case accessKeyId => exact hk.1
  case secretAccessKey => exact hs.1
  case endpoint => exact he.1
  case region =>
    intro v hv
    show (Secret.given d "region").getD _ = Text.trim v
    rw [Secret.given_of_said ⟨v, hv.1, rfl, hv.2⟩]
    rfl
  case defaultRegion =>
    intro hsilent
    show (Secret.given d "region").getD _ = "us-east-1"
    rw [Secret.given_of_silent hsilent]
    rfl
  case identityEndpoint =>
    intro i hi
    show (meant (d.get? "iamEndpoint")).getD e = i
    rw [meant_get?_eq_some_iff.2 hi]
    rfl
  case commonEndpoint =>
    intro hsilent
    show (meant (d.get? "iamEndpoint")).getD e = e
    rw [meant_get?_of_silent hsilent]
    rfl
  case tlsTrust => exact fun _ => certificate_read
  case noTrust => exact certificate_missing
  case debug => exact hon

/-- What becomes of data: they are acceptable and read, or have a first fault and are refused for
it. -/
theorem ofSecretBy_cases (read : UrlReader) (d : Dict String) :
    (∃ p, ofSecretBy read d = .ok p ∧ Acceptable read d ∧ ReadFrom d p) ∨
      ∃ err, ofSecretBy read d = .error err ∧ FirstFault read d err := by
  rcases acceptable_or_fault read d with hacceptable | ⟨err, hfault⟩
  · obtain ⟨p, hp, hread⟩ := ofSecretBy_of_acceptable hacceptable
    exact .inl ⟨p, hp, hacceptable, hread⟩
  · exact .inr ⟨err, ofSecretBy_of_fault hfault, hfault⟩

/-- Data are accepted exactly when they are acceptable, and read as they stand there; otherwise the
first fault is reported. No other key matters. -/
theorem data_accepted_iff (read : UrlReader) (d : Dict String) :
    ((∃ p, ofSecretBy read d = .ok p) ↔ Acceptable read d) ∧
    (∀ err, ofSecretBy read d = .error err ↔ FirstFault read d err) ∧
    (∀ p, ofSecretBy read d = .ok p → ReadFrom d p) ∧
    ∀ d' : Dict String, (∀ key ∈ ["accessKeyId", "secretAccessKey", "endpoint", "region",
      "iamEndpoint", "tlsCert", "debug"], d'.get? key = d.get? key) →
      ofSecretBy read d' = ofSecretBy read d := by
  refine ⟨⟨fun ⟨p, hp⟩ => ?_, fun h => ?_⟩, fun err => ⟨fun herr => ?_, ofSecretBy_of_fault⟩,
    fun p hp => ?_, fun d' h => ?_⟩
  · obtain ⟨_, -, h, -⟩ | ⟨err, herr, -⟩ := ofSecretBy_cases read d
    · exact h
    · cases hp.symm.trans herr
  · obtain ⟨p, hp, -⟩ := ofSecretBy_of_acceptable h
    exact ⟨p, hp⟩
  · obtain ⟨p, hp, -⟩ | ⟨_, herr', hfault⟩ := ofSecretBy_cases read d
    · cases hp.symm.trans herr
    · cases herr.symm.trans herr'
      exact hfault
  · obtain ⟨_, hp', -, hread⟩ | ⟨err, herr, -⟩ := ofSecretBy_cases read d
    · cases hp.symm.trans hp'
      exact hread
    · cases hp.symm.trans herr
  · simp only [List.forall_mem_cons] at h
    obtain ⟨hk, hs, he, hr, hi, ht, hd, -⟩ := h
    simp only [ofSecretBy, accessKeyIdKey, secretAccessKeyKey, endpointKey, regionKey,
      identityEndpointKey, tlsTrustKey, debugKey, hk, hs, he, hr, hi, ht, hd]

end Data

/-- Data with blanks around most values. -/
def padded : Dict String :=
  .ofList [("accessKeyId", " AK"), ("secretAccessKey", "SK\n"), ("endpoint", "http://[::1]:9000"),
    ("region", " eu-west-1\n"), ("iamEndpoint", "\t"), ("tlsCert", " "), ("debug", "\u3000true ")]

/-- Data with three faults. -/
def doubtful : Dict String :=
  .ofList [("accessKeyId", "AK"), ("secretAccessKey", "SK"), ("endpoint", "ftp://[::1]"),
    ("iamEndpoint", "localhost"), ("debug", "yes")]

/-- Keys keep their blanks, a region loses them, a blank endpoint counts as none and a blank
certificate as one. Of three faults the first is reported. -/
theorem data_accepted_iff_padded :
    (∃ p, ofSecretBy Url.read padded = .ok p ∧ p.accessKeyId = " AK" ∧ p.region = "eu-west-1" ∧
      p.identityEndpoint = p.endpoint ∧ p.tlsTrust = some [0x20] ∧ p.debug = true) ∧
    ofSecretBy Url.read doubtful =
      .error (.invalidParameters "endpoint must use http or https, got ftp") := by
  have hacceptable : Acceptable Url.read padded :=
    { accessKeyId := ⟨" AK", by decide, by decide⟩
      secretAccessKey := ⟨"SK\n", by decide, by decide⟩
      endpoint := ⟨"http://[::1]:9000", ⟨by decide, by decide⟩, by decide +kernel⟩
      identityEndpoint := by
        rintro e ⟨⟨⟩, hne⟩
        exact absurd hne (by decide)
      debug := by
        rintro v ⟨⟨⟩, -⟩
        decide }
  have hscheme : Url.read "ftp://[::1]" = .ok "ftp" := read_eq_ok_iff.2 (by decide +kernel)
  have hother : EndpointFault Url.read "endpoint" "ftp://[::1]"
      (.invalidParameters "endpoint must use http or https, got ftp") :=
    .otherScheme hscheme (by decide) (by decide)
  have hkey : Gives doubtful "accessKeyId" "AK" := ⟨by decide, by decide⟩
  have hsecret : Gives doubtful "secretAccessKey" "SK" := ⟨by decide, by decide⟩
  have hfault : FirstFault Url.read doubtful
      (.invalidParameters "endpoint must use http or https, got ftp") :=
    .endpoint hkey hsecret ⟨by decide, by decide⟩ hother
  obtain ⟨p, hp⟩ := (data_accepted_iff Url.read padded).1.2 hacceptable
  have hread := (data_accepted_iff Url.read padded).2.2.1 p hp
  refine ⟨⟨p, hp, ?_, ?_, ?_, ?_, ?_⟩, ((data_accepted_iff Url.read doubtful).2.1 _).2 hfault⟩
  · exact (Option.some.inj hread.accessKeyId).symm
  · exact (hread.region " eu-west-1\n" ⟨by decide, by decide⟩).trans (by decide)
  · refine hread.commonEndpoint ?_
    rintro v ⟨⟩
    decide
  · exact (hread.tlsTrust " " (by decide) (by decide)).trans (by decide)
  · exact hread.debug.2 ⟨"\u3000true ", ⟨by decide, by decide⟩, by decide⟩

end BucketDriver.Parameters
