import BucketDriver.Proofs.Blank
import BucketDriver.Provider.Normalize

/-!
# Absence and settled errors

What `settle` makes of a provider error. An error that says that a resource is absent counts as
success where the action tolerates absence (`settle_of_isAbsence`). With the identity service's
table that is the only error that ever does, since no entry of the table stands for success
(`settle_identity_error`). `FailsAs` lists the rules by which an error becomes a failure, none of
which gives the code of success.
-/

namespace BucketDriver

/-- A code that, trimmed, says that a resource is absent. -/
def IsAbsenceCode (code : String) : Prop :=
  isAbsence (Text.trim code) = true

instance : DecidablePred IsAbsenceCode := fun code =>
  inferInstanceAs (Decidable (isAbsence (Text.trim code) = true))

/-- An error whose code says that a resource is absent. -/
def ProviderError.IsAbsence (e : ProviderError) : Prop :=
  ∃ code, e.code? = some code ∧ isAbsence code = true

/-- The empty text is no absence code. -/
theorem isAbsence_empty : isAbsence "" = false := by decide

/-- An error with a code says that a resource is absent exactly when its trimmed code does. -/
theorem ProviderError.isAbsence_withCode_iff {code detail : String} :
    (ProviderError.withCode code detail).IsAbsence ↔ IsAbsenceCode code := by
  have hcode : (ProviderError.withCode code detail).code? = Text.trimmed? code := rfl
  unfold ProviderError.IsAbsence IsAbsenceCode
  rw [hcode, Text.trimmed?]
  split
  case isTrue hblank =>
    -- Nothing is left of a blank code, and nothing is no absence code.
    rw [(Text.isBlank_iff_trim_eq_empty code).1 hblank, isAbsence_empty]
    simp
  case isFalse => simp

variable {α : Type} {a : Action} {resource : String} {e : ProviderError}

/-- An absent resource counts as success where the action tolerates it, whatever the table. -/
theorem settle_of_isAbsence {t : ErrorTable} (ha : a.toleratesAbsence = true) (he : e.IsAbsence) :
    settle (α := α) (.error e) a resource t = .ok none := by
  obtain ⟨code, hcode, habsent⟩ := he
  simp [settle, normalize, hcode, classify, habsent, ha, Except.map]

/-- What a look-up in a table finds is an entry of it. -/
theorem ErrorTable.mem_entries_of_get? {t : ErrorTable} {code : String} {m : Mapping}
    (h : t.get? code = some m) : (code, m) ∈ t.entries := by
  obtain ⟨before, after, hentries, -⟩ := List.lookup_eq_some_iff.1 h
  rw [hentries]
  simp

/-- No code of the identity service stands for success. -/
theorem identityErrors_code_ne_ok {code : String} {m : Mapping}
    (h : identityErrors.get? code = some m) : m.code ≠ .ok := by
  have hall : ∀ entry ∈ identityErrors.entries, entry.2.code ≠ .ok := by decide
  exact hall (code, m) (ErrorTable.mem_entries_of_get? h)

/-- Every other code of the identity service means a failure. -/
theorem classify_identity_error {code : String}
    (h : ¬ (a.toleratesAbsence = true ∧ isAbsence code = true)) :
    ∃ f, classify a resource code identityErrors = .error f := by
  unfold classify
  split
  case isTrue habsent =>
    have ha : ¬ a.toleratesAbsence = true := fun ha => h ⟨ha, habsent⟩
    exact ⟨_, if_neg ha⟩
  case isFalse =>
    cases hm : identityErrors.get? code with
    | none => exact ⟨_, rfl⟩
    | some m => exact ⟨_, if_neg (identityErrors_code_ne_ok hm)⟩

/-- Every other error of the identity service is a failure. -/
theorem settle_identity_error (h : ¬ (a.toleratesAbsence = true ∧ e.IsAbsence)) :
    ∃ f, settle (α := α) (.error e) a resource identityErrors = .error f := by
  have hn : ∃ f, normalize a resource e identityErrors = .error f := by
    unfold normalize
    cases hcode : e.code? with
    | none => exact ⟨_, rfl⟩
    | some code =>
      exact classify_identity_error fun ⟨ha, habsent⟩ => h ⟨ha, code, hcode, habsent⟩
  obtain ⟨f, hf⟩ := hn
  exact ⟨f, by rw [settle, hf]; rfl⟩

/-- A settled error is a failure exactly when it is normalized to that failure. -/
theorem settle_error_eq_error_iff {t : ErrorTable} {f : Failure} :
    settle (α := α) (.error e) a resource t = .error f ↔ normalize a resource e t = .error f := by
  simp only [settle]
  cases normalize a resource e t <;> simp [Except.map]

/-- The failure that an error is normalized to, by the rule that gave it. -/
inductive FailsAs (a : Action) (resource : String) (t : ErrorTable) : Option String → Failure → Prop
    where
  /-- There is no code. -/
  | codeless : FailsAs a resource t none (.internal unclassifiedMessage)
  /-- The code says that the resource is absent, and the action needs it. -/
  | absent {code : String} (habsent : isAbsence code = true) (ha : a.toleratesAbsence = false) :
    FailsAs a resource t (some code) (a.absent resource)
  /-- The table does not have the code. -/
  | unknown {code : String} (habsent : isAbsence code = false) (hm : t.get? code = none) :
    FailsAs a resource t (some code) a.failure
  /-- The table has the code, and not as one of success. -/
  | listed {code : String} {m : Mapping} (habsent : isAbsence code = false)
    (hm : t.get? code = some m) (hok : m.code ≠ .ok) :
    FailsAs a resource t (some code) ⟨m.code, m.clientMessage resource⟩

/-- Every failure that an error is normalized to comes from one of the rules. -/
theorem failsAs_of_normalize {t : ErrorTable} {f : Failure}
    (h : normalize a resource e t = .error f) : FailsAs a resource t e.code? f := by
  unfold normalize at h
  cases hcode : e.code? with
  | none =>
    rw [hcode] at h
    cases h
    exact .codeless
  | some code =>
    rw [hcode] at h
    dsimp only [classify] at h
    cases habsent : isAbsence code with
    | true =>
      rw [habsent, if_pos rfl] at h
      cases ha : a.toleratesAbsence with
      | true =>
        rw [ha] at h
        cases h
      | false =>
        rw [ha] at h
        cases h
        exact .absent habsent ha
    | false =>
      rw [habsent, if_neg Bool.false_ne_true] at h
      cases hm : t.get? code with
      | none =>
        rw [hm] at h
        cases h
        exact .unknown habsent hm
      | some m =>
        rw [hm] at h
        dsimp only at h
        split at h
        case isTrue => cases h
        case isFalse hok =>
          cases h
          exact .listed habsent hm hok

/-- No failure that an error is normalized to has the code of success. -/
theorem FailsAs.code_ne_ok {t : ErrorTable} {code? : Option String} {f : Failure}
    (h : FailsAs a resource t code? f) : f.code ≠ .ok := by
  cases h with
  | codeless => exact fun heq => nomatch heq
  | absent => exact fun heq => nomatch heq
  | unknown => exact fun heq => nomatch heq
  | listed _ _ hok => exact hok

/-- No failure that a result settles to has the code of success. -/
theorem settle_code_ne_ok {result : Except ProviderError α} {t : ErrorTable} {f : Failure}
    (h : settle result a resource t = .error f) : f.code ≠ .ok := by
  cases result with
  | ok v => cases h
  | error e => exact (failsAs_of_normalize (settle_error_eq_error_iff.1 h)).code_ne_ok

/-- An action that does not tolerate absence fails on every error of the identity service. -/
theorem settle_of_not_tolerates (ha : a.toleratesAbsence = false) :
    ∃ f, settle (α := α) (.error e) a resource identityErrors = .error f :=
  settle_identity_error fun h => by rw [ha] at h; cases h.1

/-- An error whose code stands in a table, neither for absence nor for success, is a failure with
the outcome of its entry. -/
theorem settle_of_code {t : ErrorTable} {code : String} {m : Mapping}
    (hcode : e.code? = some code) (habsent : isAbsence code = false)
    (hm : t.get? code = some m) (hok : m.code ≠ .ok) :
    settle (α := α) (.error e) a resource t = .error ⟨m.code, m.clientMessage resource⟩ := by
  simp [settle, normalize, hcode, classify, habsent, hm, hok, Except.map]

/-- A code of a table that stands neither for absence nor for success is a failure with the outcome
of its entry. -/
theorem settle_of_get? {t : ErrorTable} {code detail : String} {m : Mapping}
    (hcode : Text.trimmed? code = some code) (habsent : isAbsence code = false)
    (hm : t.get? code = some m) (hok : m.code ≠ .ok) :
    settle (α := α) (.error (.withCode code detail)) a resource t =
      .error ⟨m.code, m.clientMessage resource⟩ :=
  settle_of_code hcode habsent hm hok

/-- Of the identity service's codes only one says that something is already there. -/
theorem code_of_alreadyExists {f : Failure} (h : normalize a resource e identityErrors = .error f)
    (hf : f.code = .alreadyExists) : e.code? = some "EntityAlreadyExists" := by
  have hall : ∀ entry ∈ identityErrors.entries,
      entry.2.code = .alreadyExists → entry.1 = "EntityAlreadyExists" := by decide
  have hwhy := failsAs_of_normalize h
  generalize e.code? = code? at hwhy ⊢
  cases hwhy with
  | codeless => cases hf
  | absent => cases hf
  | unknown => cases hf
  | listed _ hm _ => exact congrArg some (hall _ (ErrorTable.mem_entries_of_get? hm) hf)

/-- Beside those that say that something is absent, only one of the object store's codes stands for
success. -/
theorem code_of_done (h : normalize a resource e objectStoreErrors = .ok ()) :
    ∃ code, e.code? = some code ∧ (isAbsence code = true ∨ code = "BucketAlreadyOwnedByYou") := by
  have hall : ∀ entry ∈ objectStoreErrors.entries,
      entry.2.code = .ok → entry.1 = "BucketAlreadyOwnedByYou" := by decide
  unfold normalize at h
  cases hcode : e.code? with
  | none =>
    rw [hcode] at h
    cases h
  | some code =>
    rw [hcode] at h
    dsimp only [classify] at h
    refine ⟨code, rfl, ?_⟩
    cases habsent : isAbsence code with
    | true => exact .inl rfl
    | false =>
      rw [habsent, if_neg Bool.false_ne_true] at h
      cases hm : objectStoreErrors.get? code with
      | none =>
        rw [hm] at h
        cases h
      | some m =>
        rw [hm] at h
        dsimp only at h
        split at h
        case isTrue hok => exact .inr (hall _ (ErrorTable.mem_entries_of_get? hm) hok)
        case isFalse => cases h

/-- A code of a table that stands for success and not for absence is success. -/
theorem settle_of_done {t : ErrorTable} {code detail : String} {m : Mapping}
    (hcode : Text.trimmed? code = some code) (habsent : isAbsence code = false)
    (hm : t.get? code = some m) (hok : m.code = .ok) :
    settle (α := α) (.error (.withCode code detail)) a resource t = .ok none := by
  have hcode' : (ProviderError.withCode code detail).code? = some code := hcode
  simp [settle, normalize, hcode', classify, habsent, hm, hok, Except.map]

end BucketDriver
