import BucketDriver.Proofs.Blank
import BucketDriver.Secret.Resolver

/-!
# The secret that a request chooses

A request says something under a key when a text is left of its value after trimming, and is silent
under it otherwise (`Says`, `Silent`). A request that says both the name and the namespace of a
secret is resolved with that one, whatever the default is; half a reference fails; and only a
request that says neither is resolved with the default: `named_secret_alone`.

What is read on the way is said by `resolveIn`, of which `Resolver.resolve` is the case without
effects. A request that `Uses` a reference has the effects of one read of it, in any monad, and one
that `Fails` has none.
-/

namespace BucketDriver.Secret

/-! ## What requests say -/

/-- A request says a text under a key: it is left after trimming. -/
def Says (request : Dict String) (key text : String) : Prop :=
  ∃ value, request.get? key = some value ∧ Text.trim value = text ∧ text ≠ ""

/-- A request says nothing under a key: its value is missing or blank. -/
def Silent (request : Dict String) (key : String) : Prop :=
  ∀ value, request.get? key = some value → Text.trim value = ""

variable {request : Dict String} {key text : String}

theorem given_of_said (h : Says request key text) : given request key = some text := by
  obtain ⟨value, hvalue, rfl, hne⟩ := h
  have hgiven : ¬ Text.isBlank value = true :=
    fun hblank => hne ((Text.isBlank_iff_trim_eq_empty value).1 hblank)
  unfold given
  rw [hvalue]
  exact if_neg hgiven

theorem given_of_silent (h : Silent request key) : given request key = none := by
  unfold given
  cases hvalue : request.get? key with
  | none => rfl
  | some value => exact if_pos ((Text.isBlank_iff_trim_eq_empty value).2 (h value hvalue))

/-- There is nothing between saying a text and being silent. -/
theorem says_or_silent (request : Dict String) (key : String) :
    (∃ text, Says request key text) ∨ Silent request key := by
  by_cases h : ∃ value, request.get? key = some value ∧ Text.trim value ≠ ""
  · obtain ⟨value, hvalue, hne⟩ := h
    exact .inl ⟨Text.trim value, value, hvalue, rfl, hne⟩
  · exact .inr fun value hvalue => Classical.not_not.1 fun hne => h ⟨value, hvalue, hne⟩

/-! ## What is read -/

/-- A request is resolved with one secret, with a default: the parameters are those of the secret,
and nothing is read but it, once. -/
structure Uses (fallback : Option Reference) (request : Dict String) (r : Reference) : Prop where
  /-- The parameters are those of the secret, in every store. -/
  resolve : ∀ store : Store,
    Resolver.resolve ⟨store, fallback⟩ request = store r >>= Parameters.ofSecret
  /-- There is one read. -/
  reads : ∀ {m : Type → Type} [Monad m] (read : Reference → m (Except DriverError (Dict String))),
    resolveIn read fallback request = do return (← read r) >>= Parameters.ofSecret

/-- A request fails with an error, with a default: whatever the store is, and without reading. -/
structure Fails (fallback : Option Reference) (request : Dict String) (e : DriverError) : Prop where
  /-- There is the error, in every store. -/
  resolve : ∀ store : Store, Resolver.resolve ⟨store, fallback⟩ request = .error e
  /-- There is no read. -/
  reads : ∀ {m : Type → Type} [Monad m] (read : Reference → m (Except DriverError (Dict String))),
    resolveIn read fallback request = pure (.error e)

variable {fallback : Option Reference}

theorem uses_of_chosen {r : Reference} (h : chosen fallback request = .ok r) :
    Uses fallback request r := by
  have hreads {m : Type → Type} [Monad m]
      (read : Reference → m (Except DriverError (Dict String))) :
      resolveIn read fallback request = do return (← read r) >>= Parameters.ofSecret := by
    unfold resolveIn
    rw [h]
  -- A resolver reads its store without effects.
  exact ⟨fun store => hreads (m := Id) fun reference => pure (store reference), hreads⟩

theorem fails_of_chosen {e : DriverError} (h : chosen fallback request = .error e) :
    Fails fallback request e := by
  have hreads {m : Type → Type} [Monad m]
      (read : Reference → m (Except DriverError (Dict String))) :
      resolveIn read fallback request = pure (.error e) := by
    unfold resolveIn
    rw [h]
  exact ⟨fun store => hreads (m := Id) fun reference => pure (store reference), hreads⟩

/-! ## The choice -/

/-- The choice depends on what stands under the two keys of a reference. -/
theorem chosen_congr {request' : Dict String} (hname : request'.get? nameKey = request.get? nameKey)
    (hspace : request'.get? spaceKey = request.get? spaceKey) :
    chosen fallback request' = chosen fallback request := by
  have hgiven {key : String} (h : request'.get? key = request.get? key) :
      given request' key = given request key := by
    unfold given
    rw [h]
  unfold chosen
  rw [hgiven hname, hgiven hspace]

variable {name space : String}

/-- A request that says both chooses the secret of that reference. -/
theorem uses_of_said (hname : Says request nameKey name) (hspace : Says request spaceKey space) :
    Uses fallback request ⟨name, space⟩ := by
  apply uses_of_chosen
  unfold chosen
  rw [given_of_said hname, given_of_said hspace]

/-- A request that says a name alone misses the namespace. -/
theorem fails_of_name (hname : Says request nameKey name) (hspace : Silent request spaceKey) :
    Fails fallback request (.missingParameter spaceKey) := by
  apply fails_of_chosen
  unfold chosen
  rw [given_of_said hname, given_of_silent hspace]

/-- A request that says a namespace alone misses the name. -/
theorem fails_of_space (hname : Silent request nameKey) (hspace : Says request spaceKey space) :
    Fails fallback request (.missingParameter nameKey) := by
  apply fails_of_chosen
  unfold chosen
  rw [given_of_silent hname, given_of_said hspace]

/-- A request that says neither takes the default. -/
theorem uses_fallback {r : Reference} (hname : Silent request nameKey)
    (hspace : Silent request spaceKey) : Uses (some r) request r := by
  apply uses_of_chosen
  unfold chosen
  rw [given_of_silent hname, given_of_silent hspace]

/-- A request that says neither fails when there is no default. -/
theorem fails_of_silent (hname : Silent request nameKey) (hspace : Silent request spaceKey) :
    Fails none request (.missingParameter nameKey) := by
  apply fails_of_chosen
  unfold chosen
  rw [given_of_silent hname, given_of_silent hspace]

/-- A request is resolved with one secret or fails without any. -/
theorem uses_or_fails (fallback : Option Reference) (request : Dict String) :
    (∃ r, Uses fallback request r) ∨ ∃ e, Fails fallback request e := by
  -- By what the request says of the name, and then of the namespace.
  rcases says_or_silent request nameKey with ⟨name, hname⟩ | hname
  · rcases says_or_silent request spaceKey with ⟨space, hspace⟩ | hspace
    · exact .inl ⟨_, uses_of_said hname hspace⟩
    · exact .inr ⟨_, fails_of_name hname hspace⟩
  · rcases says_or_silent request spaceKey with ⟨space, hspace⟩ | hspace
    · exact .inr ⟨_, fails_of_space hname hspace⟩
    · cases fallback with
      | some r => exact .inl ⟨r, uses_fallback hname hspace⟩
      | none => exact .inr ⟨_, fails_of_silent hname hspace⟩

/-- A request that names a secret never falls back to another one. If it says the name and the
namespace, then it is resolved with that secret whatever the default is, so that no other secret and
no default can change the result. If it says one of both, it fails for the other one, with every
store and default. If it says neither, it is resolved with the default, and fails for the name when
there is none. Nothing else in the request matters, and in each case one secret is read at most. -/
theorem named_secret_alone (request : Dict String) :
    (∀ name space, Says request nameKey name → Says request spaceKey space →
      (∀ fallback, Uses fallback request ⟨name, space⟩) ∧
      ∀ r r' : Resolver, r.store ⟨name, space⟩ = r'.store ⟨name, space⟩ →
        r.resolve request = r'.resolve request) ∧
    (∀ name, Says request nameKey name → Silent request spaceKey →
      ∀ fallback, Fails fallback request (.missingParameter "objectStorageSecretNamespace")) ∧
    (∀ space, Silent request nameKey → Says request spaceKey space →
      ∀ fallback, Fails fallback request (.missingParameter "objectStorageSecretName")) ∧
    (Silent request nameKey → Silent request spaceKey →
      (∀ r, Uses (some r) request r) ∧
      Fails none request (.missingParameter "objectStorageSecretName")) ∧
    (∀ request' : Dict String, request'.get? nameKey = request.get? nameKey →
      request'.get? spaceKey = request.get? spaceKey →
      ∀ r : Resolver, r.resolve request' = r.resolve request) ∧
    ∀ fallback, (∃ r, Uses fallback request r) ∨ ∃ e, Fails fallback request e := by
  refine ⟨fun name space hname hspace => ⟨fun _ => uses_of_said hname hspace, fun r r' h => ?_⟩,
    fun name hname hspace _ => fails_of_name hname hspace,
    fun space hname hspace _ => fails_of_space hname hspace,
    fun hname hspace => ⟨fun _ => uses_fallback hname hspace, fails_of_silent hname hspace⟩,
    fun request' hname hspace r => ?_, fun fallback => uses_or_fails fallback request⟩
  · calc r.resolve request
        = r.store ⟨name, space⟩ >>= Parameters.ofSecret := (uses_of_said hname hspace).resolve _
      _ = r'.store ⟨name, space⟩ >>= Parameters.ofSecret := by rw [h]
      _ = r'.resolve request := ((uses_of_said hname hspace).resolve _).symm
  · unfold Resolver.resolve resolveIn
    rw [chosen_congr hname hspace]

/-- A store with one tenant's secret, and what it has under every other reference. -/
def storeOf (tenant : Dict String) (others : Except DriverError (Dict String)) : Store :=
  fun r => if r = ⟨"tenant", "team-a"⟩ then .ok tenant else others

/-- A request that names the secret of a tenant, with blanks around. -/
def tenantRequest : Dict String :=
  .ofList [(nameKey, " tenant\n"), (spaceKey, "\u3000team-a"), ("region", "x")]

/-- A request that names the secret of a tenant, with a blank namespace. -/
def halfRequest : Dict String :=
  .ofList [(nameKey, "tenant"), (spaceKey, " \t")]

/-- A request that names no secret. -/
def blankRequest : Dict String :=
  .ofList [(spaceKey, "\u2003"), ("region", "x")]

/-- The request of a tenant is resolved alike with two stores that have nothing but the tenant's
secret in common, with a default and without one. With half a reference it fails, also where the
default would do. -/
theorem named_secret_alone_tenant :
    (∀ tenant others,
      Resolver.resolve ⟨storeOf tenant (.ok others), some ⟨"admin", "kube-system"⟩⟩ tenantRequest =
        Resolver.resolve ⟨storeOf tenant (.error (.io "no disk")), none⟩ tenantRequest) ∧
    Fails (some ⟨"admin", "kube-system"⟩) halfRequest
      (.missingParameter "objectStorageSecretNamespace") ∧
    Uses (some ⟨"admin", "kube-system"⟩) blankRequest ⟨"admin", "kube-system"⟩ := by
  have hname : Says tenantRequest nameKey "tenant" := ⟨" tenant\n", by decide, by decide, by decide⟩
  have hspace : Says tenantRequest spaceKey "team-a" :=
    ⟨"\u3000team-a", by decide, by decide, by decide⟩
  have hhalf : Says halfRequest nameKey "tenant" := ⟨"tenant", by decide, by decide, by decide⟩
  have hempty : Silent halfRequest spaceKey := by
    rintro value ⟨⟩
    decide
  have hnone : Silent blankRequest nameKey := nofun
  have hblank : Silent blankRequest spaceKey := by
    rintro value ⟨⟩
    decide
  exact ⟨fun tenant others => ((named_secret_alone tenantRequest).1 _ _ hname hspace).2 _ _ rfl,
    (named_secret_alone halfRequest).2.1 _ hhalf hempty _,
    ((named_secret_alone blankRequest).2.2.2.1 hnone hblank).1 _⟩

end BucketDriver.Secret
