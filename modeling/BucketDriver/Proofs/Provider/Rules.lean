import BucketDriver.Proofs.Absence
import BucketDriver.Proofs.Blank
import BucketDriver.Proofs.Service.Resource

/-!
# The rules of normalization

An error means what the first rule that covers its trimmed code (`ProviderError.bareCode`) says: no
code at all, a code that says that something is absent, a code outside the table of the service, an
entry of the table. There is one equation and one lemma `ByRules.…` for each of them.

Main statement: `normalize_byRules`. For every code, every action and both services, `ByRules` says
exactly which errors are successes, and of every other error which failure it is.
-/

namespace BucketDriver

/-- The code of an error without the blank characters around it; empty where there is none. -/
def ProviderError.bareCode (e : ProviderError) : String :=
  (e.rawCode.map Text.trim).getD ""

/-- A code that says that something is absent. -/
def SaysAbsent (code : String) : Prop :=
  code = "NoSuchBucket" ∨ code = "NoSuchEntity" ∨ code = "NotFound"

instance : DecidablePred SaysAbsent := fun _ => inferInstanceAs (Decidable (_ ∨ _ ∨ _))

/-- An action that deletes: what is absent is what it wants. -/
inductive Deleting : Action → Prop where
  | bucket : Deleting .deleteBucket
  | access (step : RevokeStep) : Deleting (.revoke step)
  | staleKey : Deleting (.grant .deleteStaleAccessKey)

/-- A code that stands for success. -/
inductive CountsAsDone (service : ProviderService) (a : Action) (code : String) : Prop where
  /-- What is to be deleted is absent. -/
  | absent (hcode : SaysAbsent code) (ha : Deleting a)
  /-- The bucket is there and belongs to the caller. -/
  | owned (hservice : service = .objectStore) (hcode : code = "BucketAlreadyOwnedByYou")

/-- The failure for a code that does not stand for success. -/
structure FailureFor (service : ProviderService) (a : Action) (resource code : String)
    (f : Failure) : Prop where
  /-- It does not have the code of success. -/
  code_ne_ok : f.code ≠ .ok
  /-- It has the code `notFound` exactly for the codes of absence. -/
  notFound_iff : f.code = .notFound ↔ SaysAbsent code
  /-- Then it names the resource and its kind. -/
  absent : SaysAbsent code → f.message = a.resourceKind ++ " " ++ resource ++ " not found"
  /-- Without a code there is one message for all. -/
  codeless : code = "" →
    f = ⟨.internal, "an internal error occurred while contacting the storage provider"⟩
  /-- For a code outside the table the message tells the action alone. -/
  unlisted : code ≠ "" → ¬ SaysAbsent code → (∀ m, (code, m) ∉ service.errors.entries) →
    f = ⟨.internal, "failed to " ++ a.text⟩
  /-- For every other code it is that of the entry. -/
  listed : ¬ SaysAbsent code → ∀ m, (code, m) ∈ service.errors.entries →
    f = ⟨m.code, m.clientMessage resource⟩

/-- What an error with the given trimmed code comes to, where `done` stands for success. -/
structure ByRules {α : Type} (service : ProviderService) (a : Action) (resource code : String)
    (done : α) (result : Except Failure α) : Prop where
  /-- It comes to success exactly for the codes that stand for it. -/
  done_iff : result = .ok done ↔ CountsAsDone service a code
  /-- Every other code comes to a failure. -/
  failed : ¬ CountsAsDone service a code →
    ∃ f, result = .error f ∧ FailureFor service a resource code f

/-! ## Codes and tables -/

variable {service : ProviderService} {a : Action} {resource code : String} {m : Mapping}

/-- What counts of an error is its trimmed code, unless nothing is left of it. -/
theorem ProviderError.code?_eq (e : ProviderError) :
    e.code? = if e.bareCode = "" then none else some e.bareCode := by
  obtain ⟨rawCode, detail⟩ := e
  cases rawCode with
  | none => rfl
  | some raw =>
    have hblank : Text.isBlank raw = true ↔ Text.trim raw = "" := Text.isBlank_iff_trim_eq_empty raw
    have hbare : (ProviderError.mk (some raw) detail).bareCode = Text.trim raw := rfl
    have hcode : (ProviderError.mk (some raw) detail).code? = Text.trimmed? raw := rfl
    rw [hbare, hcode, Text.trimmed?]
    by_cases h : Text.trim raw = ""
    · rw [if_pos h, if_pos (hblank.2 h)]
    · rw [if_neg h, if_neg fun hb => h (hblank.1 hb)]

theorem isAbsence_iff : isAbsence code = true ↔ SaysAbsent code := by
  simp [isAbsence, absenceCodes, SaysAbsent]

theorem toleratesAbsence_iff : a.toleratesAbsence = true ↔ Deleting a := by
  constructor
  · intro h
    match a, h with
    | .deleteBucket, _ => exact .bucket
    | .revoke step, _ => exact .access step
    | .grant .deleteStaleAccessKey, _ => exact .staleKey
  · rintro (_ | _ | _) <;> rfl

theorem not_saysAbsent_empty : ¬ SaysAbsent "" := by decide

/-- No code stands twice in a table. -/
theorem nodup_codes (service : ProviderService) :
    (service.errors.entries.map Prod.fst).Nodup := by
  cases service <;> decide +kernel

/-- A look-up finds the entries of the table and no others. -/
theorem errors_get?_eq_some_iff :
    service.errors.get? code = some m ↔ (code, m) ∈ service.errors.entries := by
  refine ⟨ErrorTable.mem_entries_of_get?, fun hm => ?_⟩
  obtain ⟨before, after, hentries⟩ := List.append_of_mem hm
  refine List.lookup_eq_some_iff.2 ⟨before, after, hentries, fun entry hentry => ?_⟩
  have hnodup := nodup_codes service
  rw [hentries, List.map_append, List.map_cons] at hnodup
  have hne : entry.1 ≠ code := fun heq =>
    (List.nodup_append.1 hnodup).2.2 entry.1 (List.mem_map_of_mem hentry) code
      List.mem_cons_self heq
  simpa using hne.symm

/-- So a code has one entry at most. -/
theorem mapping_unique {m' : Mapping} (hm : (code, m) ∈ service.errors.entries)
    (hm' : (code, m') ∈ service.errors.entries) : m' = m := by
  have hget := errors_get?_eq_some_iff.2 hm
  rw [errors_get?_eq_some_iff.2 hm'] at hget
  exact Option.some.inj hget

/-- The entries have codes. -/
theorem ne_empty_of_mem (hm : (code, m) ∈ service.errors.entries) : code ≠ "" := by
  have hall : ∀ entry ∈ service.errors.entries, entry.1 ≠ "" := by
    cases service <;> decide +kernel
  exact hall (code, m) hm

/-- One entry of both tables stands for success. -/
theorem code_eq_ok_iff (hm : (code, m) ∈ service.errors.entries) :
    m.code = .ok ↔ service = .objectStore ∧ code = "BucketAlreadyOwnedByYou" := by
  have hall : ∀ entry ∈ service.errors.entries,
      entry.2.code = .ok ↔ service = .objectStore ∧ entry.1 = "BucketAlreadyOwnedByYou" := by
    cases service <;> decide +kernel
  exact hall (code, m) hm

/-- Only the codes of absence have entries with the code `notFound`. -/
theorem saysAbsent_of_notFound (hm : (code, m) ∈ service.errors.entries)
    (hcode : m.code = .notFound) : SaysAbsent code := by
  have hall : ∀ entry ∈ service.errors.entries,
      entry.2.code = .notFound → SaysAbsent entry.1 := by
    cases service <;> decide +kernel
  exact hall (code, m) hm hcode

/-- A code without an entry in the table is not the one of success. -/
theorem not_owned_of_unlisted (hm : ∀ m, (code, m) ∉ service.errors.entries) :
    ¬ (service = .objectStore ∧ code = "BucketAlreadyOwnedByYou") := by
  rintro ⟨rfl, rfl⟩
  exact hm _ List.mem_cons_self

/-- A code that says nothing of absence stands for success only as that of an owned bucket. -/
theorem done_iff_owned (hcode : ¬ SaysAbsent code) :
    CountsAsDone service a code ↔ service = .objectStore ∧ code = "BucketAlreadyOwnedByYou" := by
  constructor
  · rintro (⟨habsent, -⟩ | ⟨hservice, howned⟩)
    · exact absurd habsent hcode
    · exact ⟨hservice, howned⟩
  · rintro ⟨hservice, howned⟩
    exact .owned hservice howned

/-- A code that says that something is absent stands for success where that is wanted. -/
theorem done_iff_deleting (hcode : SaysAbsent code) : CountsAsDone service a code ↔ Deleting a := by
  constructor
  · rintro (⟨-, ha⟩ | ⟨-, rfl⟩)
    · exact ha
    · exact absurd hcode (by decide)
  · exact .absent hcode

/-! ## The rules, in order -/

/-- An error without a code. -/
theorem normalize_of_codeless {e : ProviderError} {t : ErrorTable} (h : e.bareCode = "") :
    normalize a resource e t = .error (.internal unclassifiedMessage) := by
  rw [normalize, e.code?_eq, if_pos h]

/-- An error with a code. -/
theorem normalize_of_code {e : ProviderError} {t : ErrorTable} (h : e.bareCode ≠ "") :
    normalize a resource e t = classify a resource e.bareCode t := by
  rw [normalize, e.code?_eq, if_neg h]

/-- A code of absence, whether the table has it or not. -/
theorem classify_of_saysAbsent {t : ErrorTable} (h : SaysAbsent code) :
    classify a resource code t =
      if a.toleratesAbsence then .ok () else .error (a.absent resource) := by
  rw [classify, if_pos (isAbsence_iff.2 h)]

/-- A code that the table does not have. -/
theorem classify_of_unlisted (h : ¬ SaysAbsent code)
    (hm : ∀ m, (code, m) ∉ service.errors.entries) :
    classify a resource code service.errors = .error a.failure := by
  have hnone : service.errors.get? code = none :=
    Option.eq_none_iff_forall_ne_some.2 fun m hsome => hm m (errors_get?_eq_some_iff.1 hsome)
  rw [classify, if_neg fun habsent => h (isAbsence_iff.1 habsent), hnone]

/-- A code that the table has. -/
theorem classify_of_listed (h : ¬ SaysAbsent code) (hm : (code, m) ∈ service.errors.entries) :
    classify a resource code service.errors =
      if m.code = .ok then .ok () else .error ⟨m.code, m.clientMessage resource⟩ := by
  rw [classify, if_neg fun habsent => h (isAbsence_iff.1 habsent), errors_get?_eq_some_iff.2 hm]

namespace ByRules

/-- A failure for a code that does not stand for success. -/
theorem of_error {f : Failure} (hdone : ¬ CountsAsDone service a code)
    (hf : FailureFor service a resource code f) :
    ByRules service a resource code () (.error f) :=
  ⟨⟨nofun, fun h => absurd h hdone⟩, fun _ => ⟨f, rfl, hf⟩⟩

/-- Success for a code that stands for it. -/
theorem of_done (hdone : CountsAsDone service a code) :
    ByRules service a resource code () (.ok ()) :=
  ⟨⟨fun _ => hdone, fun _ => rfl⟩, fun h => absurd hdone h⟩

/-- Success with another value. -/
theorem map {α : Type} {result : Except Failure Unit}
    (h : ByRules service a resource code () result) (done : α) :
    ByRules service a resource code done (result.map fun _ => done) := by
  constructor
  · rw [← h.done_iff]
    cases result with
    | error f => exact ⟨nofun, nofun⟩
    | ok v => exact ⟨fun _ => rfl, fun _ => rfl⟩
  · intro hdone
    obtain ⟨f, rfl, hf⟩ := h.failed hdone
    exact ⟨f, rfl, hf⟩

/-- The first rule: nothing is told of an error without a code. -/
theorem codeless : ByRules service a resource "" () (.error (.internal unclassifiedMessage)) := by
  have hempty : ¬ SaysAbsent "" := not_saysAbsent_empty
  refine of_error ?_ ?_
  · rw [done_iff_owned hempty]
    exact fun howned => absurd howned.2 (by decide)
  · exact {
      code_ne_ok := nofun
      notFound_iff := ⟨nofun, fun h => absurd h hempty⟩
      absent := fun h => absurd h hempty
      codeless := fun _ => rfl
      unlisted := fun h => absurd rfl h
      listed := fun _ m hm => absurd rfl (ne_empty_of_mem hm) }

/-- The second rule: what is absent is what a deletion wants, and any other action misses it. -/
theorem saysAbsent (h : SaysAbsent code) :
    ByRules service a resource code ()
      (if a.toleratesAbsence then .ok () else .error (a.absent resource)) := by
  split
  case isTrue ha => exact of_done ((done_iff_deleting h).2 (toleratesAbsence_iff.1 ha))
  case isFalse ha =>
    refine of_error (fun hdone => ha (toleratesAbsence_iff.2 ((done_iff_deleting h).1 hdone))) ?_
    exact {
      code_ne_ok := nofun
      notFound_iff := ⟨fun _ => h, fun _ => rfl⟩
      absent := fun _ => rfl
      codeless := fun hcode => absurd (hcode ▸ h) not_saysAbsent_empty
      unlisted := fun _ hnot => absurd h hnot
      listed := fun hnot => absurd h hnot }

/-- The third rule: of a code outside the table no more is told than the action. -/
theorem unlisted (hcode : code ≠ "") (h : ¬ SaysAbsent code)
    (hm : ∀ m, (code, m) ∉ service.errors.entries) :
    ByRules service a resource code () (.error a.failure) := by
  refine of_error (fun hdone => not_owned_of_unlisted hm ((done_iff_owned h).1 hdone)) ?_
  exact {
    code_ne_ok := nofun
    notFound_iff := ⟨nofun, fun habsent => absurd habsent h⟩
    absent := fun habsent => absurd habsent h
    codeless := fun hempty => absurd hempty hcode
    unlisted := fun _ _ _ => rfl
    listed := fun _ m hmem => absurd hmem (hm m) }

/-- The fourth rule: an entry of the table stands for success, or for its own failure. -/
theorem listed (h : ¬ SaysAbsent code) (hm : (code, m) ∈ service.errors.entries) :
    ByRules service a resource code ()
      (if m.code = .ok then .ok () else .error ⟨m.code, m.clientMessage resource⟩) := by
  have hdone : CountsAsDone service a code ↔ m.code = .ok :=
    (done_iff_owned h).trans (code_eq_ok_iff hm).symm
  split
  case isTrue hok => exact of_done (hdone.2 hok)
  case isFalse hok =>
    refine of_error (fun hd => hok (hdone.1 hd)) ?_
    exact {
      code_ne_ok := hok
      notFound_iff := ⟨saysAbsent_of_notFound hm, fun habsent => absurd habsent h⟩
      absent := fun habsent => absurd habsent h
      codeless := fun hempty => absurd hempty (ne_empty_of_mem hm)
      unlisted := fun _ _ hnot => absurd hm (hnot m)
      listed := fun _ m' hm' => by rw [mapping_unique hm hm'] }

end ByRules

/-- A code comes to what the rules say. -/
theorem classify_byRules (hcode : code ≠ "") :
    ByRules service a resource code () (classify a resource code service.errors) := by
  by_cases h : SaysAbsent code
  · rw [classify_of_saysAbsent h]
    exact .saysAbsent h
  by_cases hlisted : ∃ m, (code, m) ∈ service.errors.entries
  · obtain ⟨m, hm⟩ := hlisted
    rw [classify_of_listed h hm]
    exact .listed h hm
  · rw [not_exists] at hlisted
    rw [classify_of_unlisted h hlisted]
    exact .unlisted hcode h hlisted

/-- Every error of either service comes to what the rules say of its trimmed code, for every action:
when it is normalized, and when the result of a call is settled. -/
theorem normalize_byRules (service : ProviderService) (a : Action) (resource : String)
    (e : ProviderError) :
    ByRules service a resource e.bareCode () (normalize a resource e service.errors) ∧
      ∀ α : Type, ByRules service a resource e.bareCode none
        (settle (α := α) (.error e) a resource service.errors) := by
  have hrules :
      ByRules service a resource e.bareCode () (normalize a resource e service.errors) := by
    by_cases hcode : e.bareCode = ""
    · rw [normalize_of_codeless hcode, hcode]
      exact .codeless
    · rw [normalize_of_code hcode]
      exact classify_byRules hcode
  exact ⟨hrules, fun α => hrules.map none⟩

end BucketDriver
