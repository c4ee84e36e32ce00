import BucketDriver.Proofs.Script.Walk

/-!
# Revocations along a script

A revocation looks for the user and, where there is one, deletes the policy, the keys that are
listed and the user, one lenient step each (`revokeSteps`). `revoke_on_script` says how it ends and
what it calls against any script of replies.
-/

namespace BucketDriver.Script

open Provision (revoke revoking deleteKeys)

variable {script : List Reply} {bucket account : String}

/-- The steps that leave a user bare: the policy is deleted, and of the keys those in the reply to
the listing, the second of the script. -/
def clearingSteps (bucket account : String) (script : List Reply) : List Step :=
  .lenient (.revoke .deleteUserPolicy) (.deleteUserPolicy account (Policy.name bucket)) ::
  .lenient (.revoke .listAccessKeys) (.listAccessKeys account) ::
  deletions (.revoke .deleteAccessKey) account (next (script.drop 1)).names

/-- The steps that take a user away. -/
def removalSteps (bucket account : String) (script : List Reply) : List Step :=
  clearingSteps bucket account script ++ [.lenient (.revoke .deleteUser) (.deleteUser account)]

/-- The steps of a revocation along a script: only the first when there is no user. -/
def revokeSteps (bucket account : String) (script : List Reply) : List Step :=
  .lenient (.revoke .getUser) (.getUser account) ::
    if (next script).succeeded then removalSteps bucket account (script.drop 1) else []

/-- The script begins with tolerated replies to the deletion of the policy, to the listing and to
the deletion of each listed key, and goes on with `rest`. -/
inductive Cleared : (script rest : List Reply) → Prop where
  | intro (policy listing : Reply) (keys rest : List Reply)
    (hpolicy : policy.tolerated = true) (hlisting : listing.tolerated = true)
    (hlength : keys.length = listing.names.length) (hkeys : ∀ r ∈ keys, r.tolerated = true) :
    Cleared (policy :: listing :: (keys ++ rest)) rest

/-- The scripts on which a revocation succeeds. -/
inductive Revoked : List Reply → Prop where
  /-- There is no user. -/
  | absent {e : ProviderError} (rest : List Reply) (he : e.IsAbsence) :
    Revoked (.failure e :: rest)
  /-- There is a user, whose policy and keys go, and the reply to its deletion is tolerated. -/
  | removed {user : List String} {last : Reply} {script rest : List Reply}
    (hcleared : Cleared script (last :: rest)) (hlast : last.tolerated = true) :
    Revoked (.success user :: script)

/-- Taking a user away is a walk along its steps. -/
theorem walks_removal :
    Walks
      (do
        let _ ← revoking .deleteUserPolicy account
          (.deleteUserPolicy account (Policy.name bucket))
        let keys : Option (List String) ← revoking .listAccessKeys account (.listAccessKeys account)
        deleteKeys (fun c => do let _ ← revoking .deleteAccessKey account c) account (keys.getD [])
        let _ ← revoking .deleteUser account (.deleteUser account))
      (removalSteps bucket account script) script (fun _ => True) (Normalized account) := by
  refine (Walks.lenient rfl).bind fun _ _ => ?_
  refine (Walks.lenient rfl).bind fun (keys : Option (List String)) hkeys => ?_
  have hnames : keys.getD [] = (next (script.drop 1)).names := by
    rw [hkeys.1]
    exact Reply.getD_listAccessKeys _ account
  rw [hnames]
  refine (walks_deleteKeys rfl _).bind fun _ _ => ?_
  exact (Walks.lenient (c := .deleteUser account) rfl).bind fun _ _ => Walks.pure trivial

/-- A revocation is a walk along its steps. -/
theorem walks_revoke (bucket account : String) :
    Walks (revoke bucket account) (revokeSteps bucket account script) script (fun _ => True)
      (Normalized account) := by
  refine (Walks.lenient (c := .getUser account) (a := .revoke .getUser) rfl).bind
    fun (user : Option Unit) huser => ?_
  rw [huser.1]
  cases hr : next script with
  | success texts => exact walks_removal
  | failure e => exact Walks.pure trivial

/-- The steps that leave a user bare are accepted on the scripts that do so, and take the replies up
to the rest. -/
theorem cleared_iff {rest : List Reply} :
    Cleared script rest ↔ refused? (clearingSteps bucket account script) script = none ∧
      rest = script.drop (clearingSteps bucket account script).length := by
  unfold clearingSteps
  rw [refused?_cons_eq_none rfl]
  constructor
  · rintro ⟨policy, listing, keys, -, hpolicy, hlisting, hlength, hkeys⟩
    have hdeletions : refused? (deletions (.revoke .deleteAccessKey) account listing.names)
        (keys ++ rest) = none := deletions_eq_none.2 ⟨keys, rest, rfl, hlength, hkeys⟩
    refine ⟨⟨policy, _, rfl, hpolicy, ?_⟩, ?_⟩
    · exact (refused?_cons_eq_none rfl).2 ⟨listing, _, rfl, hlisting, hdeletions⟩
    · simp [← hlength]
  · rintro ⟨⟨policy, script, rfl, hpolicy, h⟩, hrest⟩
    obtain ⟨listing, script, rfl, hlisting, h⟩ := (refused?_cons_eq_none rfl).1 h
    obtain ⟨keys, script, rfl, hlength, hkeys⟩ := deletions_eq_none.1 h
    -- The rest begins behind as many replies as there are names in the listing.
    have hnames : keys.length = listing.names.length := hlength
    have hrest' : rest = script := by
      rw [hrest]
      simp [← hnames]
    rw [hrest']
    exact .intro policy listing keys script hpolicy hlisting hnames hkeys

/-- The steps of a removal are all accepted when the user is left bare and the reply to its deletion
is tolerated. -/
theorem removal_iff : refused? (removalSteps bucket account script) script = none ↔
    ∃ last rest, Cleared script (last :: rest) ∧ last.tolerated = true := by
  unfold removalSteps
  rw [refused?_append, Option.or_eq_none_iff, refused?_cons_eq_none rfl]
  constructor
  · rintro ⟨hclear, last, rest, hrest, hlast, -⟩
    exact ⟨last, rest, cleared_iff.2 ⟨hclear, hrest.symm⟩, hlast⟩
  · rintro ⟨last, rest, hcleared, hlast⟩
    obtain ⟨hclear, hrest⟩ := cleared_iff.1 hcleared
    exact ⟨hclear, last, rest, hrest.symm, hlast, rfl⟩

/-- The steps of a revocation are all accepted on the scripts on which it succeeds. -/
theorem revoked_iff : refused? (revokeSteps bucket account script) script = none ↔
    Revoked script := by
  unfold revokeSteps
  rw [refused?_cons_eq_none rfl]
  constructor
  · rintro ⟨r, rest, rfl, hr, h⟩
    cases r with
    | success user =>
      obtain ⟨last, rest', hcleared, hlast⟩ := removal_iff.1 h
      exact .removed hcleared hlast
    | failure e => exact .absent rest (Reply.tolerated_failure_iff.1 hr)
  · rintro (⟨rest, he⟩ | ⟨hcleared, hlast⟩)
    · exact ⟨_, rest, rfl, Reply.tolerated_failure_iff.2 he, rfl⟩
    · exact ⟨_, _, rfl, rfl, removal_iff.2 ⟨_, _, hcleared, hlast⟩⟩

/-- Leaving a user bare does not delete it. -/
theorem deleteUser_not_mem_clearingSteps {st : Step}
    (h : st ∈ clearingSteps bucket account script) : st.call ≠ .deleteUser account := by
  simp only [clearingSteps, deletions, List.mem_cons, List.mem_map] at h
  rcases h with rfl | rfl | ⟨id, -, rfl⟩ <;> simp [Step.lenient]

/-- The user is deleted only after the user is left bare. -/
theorem cleared_of_deleteUser_mem
    (h : .deleteUser account ∈ calls (revokeSteps bucket account script) script) :
    ∃ user script' rest, script = .success user :: script' ∧ Cleared script' rest := by
  cases script with
  | nil => simp [revokeSteps, calls, next, Reply.succeeded, Step.lenient] at h
  | cons r script =>
    cases r with
    | failure e =>
      have hsteps : revokeSteps bucket account (.failure e :: script) =
          [.lenient (.revoke .getUser) (.getUser account)] := rfl
      rw [hsteps] at h
      obtain ⟨st, hst, hcall⟩ := mem_calls h
      rw [List.mem_singleton.1 hst] at hcall
      cases hcall
    | success user =>
      have hmem : .deleteUser account ∈ calls (removalSteps bucket account script) script := by
        simpa [revokeSteps, calls, Reply.succeeded, Reply.tolerated, Step.lenient] using h
      cases hclear : refused? (clearingSteps bucket account script) script with
      | none => exact ⟨user, script, _, rfl, cleared_iff.2 ⟨hclear, rfl⟩⟩
      | some refusal =>
        -- Had the clearing ended early, all calls would be its calls.
        rw [removalSteps, calls_append_of_refused hclear] at hmem
        obtain ⟨st, hst, hcall⟩ := mem_calls hmem
        exact absurd hcall (deleteUser_not_mem_clearingSteps hst)

/-- A revocation against a script of replies. It succeeds exactly on the scripts of `Revoked`; it
makes the calls of its steps up to the first whose reply is not tolerated, and fails with the
normalization of that reply. The user is deleted only when there was one and the deletion of every
listed key was tolerated. -/
theorem revoke_on_script (bucket account : String) (script : List Reply) :
    let played := play (revoke bucket account).run script
    (played.result = .ok () ↔ Revoked script) ∧
    played.calls = calls (revokeSteps bucket account script) script ∧
    (∀ f, played.result = .error f ↔ ∃ st e,
      refused? (revokeSteps bucket account script) script = some (st, .failure e) ∧
      normalize st.action account e identityErrors = .error f) ∧
    (.deleteUser account ∈ played.calls →
      ∃ user script' rest, script = .success user :: script' ∧ Cleared script' rest) := by
  intro played
  obtain ⟨hcalls, hend⟩ := (walks_revoke bucket account).play
  have hdeleted : .deleteUser account ∈ played.calls →
      ∃ user script' rest, script = .success user :: script' ∧ Cleared script' rest := by
    intro h
    exact cleared_of_deleteUser_mem (hcalls ▸ h)
  rcases hend with ⟨v, hresult, hnone, -⟩ | ⟨f, st, r, hresult, hrefused, e, rfl, hf⟩
  -- Every reply was tolerated, or the first one that was not is an error, whose normalization is
  -- the only failure.
  · refine ⟨iff_of_true hresult (revoked_iff.1 hnone), hcalls, fun f => ?_, hdeleted⟩
    rw [hresult, hnone]
    simp
  · have hnot : ¬ Revoked script := fun h => by
      rw [revoked_iff.2 h] at hrefused
      cases hrefused
    refine ⟨iff_of_false ?_ hnot, hcalls, fun f' => ?_, hdeleted⟩
    · rw [hresult]
      simp
    · rw [hresult, hrefused]
      constructor
      · rintro ⟨rfl⟩
        exact ⟨st, e, rfl, hf⟩
      · rintro ⟨_, _, ⟨rfl⟩, hf'⟩
        exact hf.symm.trans hf'

end BucketDriver.Script
