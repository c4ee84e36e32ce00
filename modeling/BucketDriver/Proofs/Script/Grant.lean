import BucketDriver.Proofs.Script.Walk

/-!
# Grants along a script

A grant creates the user, or adopts one that is already there, and then attaches the policy and
draws the key (`grantSteps`). Only the creation accepts an error that says that the user is there,
and only the deletion of a stale key accepts an absence. `grant_on_script` says how a grant ends and
what it calls against any script of replies.
-/

namespace BucketDriver.Script

open Provision (grant granting adopt ensureUser deleteKeys)

variable {script : List Reply} {bucket account : String}

/-- Whether an error says that the entity is already there. -/
def saysExists (e : ProviderError) : Bool :=
  e.code? = some "EntityAlreadyExists"

/-- The creation of the user: it may already be there. -/
def createStep (account : String) : Step where
  action := .grant .createUser
  call := .createUser account
  accepts
    | .success _ => true
    | .failure e => saysExists e

/-- The listing of the policies of a user that is already there: only the bucket's own may be
among them. -/
def inspectStep (bucket account : String) : Step where
  action := .grant .listUserPolicies
  call := .listUserPolicies account
  accepts
    | .success policies => policies.all (· = Policy.name bucket)
    | .failure _ => false

/-- The steps that make a user that is already there ready for a grant: the keys that are deleted
are those in the reply to the listing, the second of the script. -/
def adoptSteps (bucket account : String) (script : List Reply) : List Step :=
  inspectStep bucket account ::
  .strict (.grant .listAccessKeys) (.listAccessKeys account) ::
  deletions (.grant .deleteStaleAccessKey) account (next (script.drop 1)).names

/-- The steps that give the user a policy and a key. -/
def attachSteps (bucket account : String) : List Step :=
  [.strict (.grant .putUserPolicy)
      (.putUserPolicy account (Policy.name bucket) (Policy.document bucket)),
    .strict (.grant .createAccessKey) (.createAccessKey account)]

/-- The steps that make sure that there is a user: only the first when it is created. -/
def ensureSteps (bucket account : String) (script : List Reply) : List Step :=
  createStep account ::
    if (next script).succeeded then [] else adoptSteps bucket account (script.drop 1)

/-- The steps of a grant along a script. -/
def grantSteps (bucket account : String) (script : List Reply) : List Step :=
  ensureSteps bucket account script ++ attachSteps bucket account

/-- The script begins with replies that make sure that there is a user, and goes on with `rest`. -/
inductive Ensured (bucket : String) : (script rest : List Reply) → Prop where
  /-- The user is created. -/
  | created (user : List String) (rest : List Reply) : Ensured bucket (.success user :: rest) rest
  /-- The user is already there with no policy but the bucket's, its keys are listed, and the
  deletion of each of them is tolerated. -/
  | adopted (e : ProviderError) (policies ids : List String) (deleted rest : List Reply)
    (hexists : e.code? = some "EntityAlreadyExists")
    (hpolicies : ∀ policy ∈ policies, policy = Policy.name bucket)
    (hlength : deleted.length = ids.length) (hdeleted : ∀ r ∈ deleted, r.tolerated = true) :
    Ensured bucket (.failure e :: .success policies :: .success ids :: (deleted ++ rest)) rest

/-- The script begins with successes of the two steps that attach policy and key, and `key` is the
key. -/
inductive Attached (account : String) : (script : List Reply) → (key : AccessKey) → Prop where
  | intro (policy : List String) (drawn : Reply) (key : AccessKey) (rest : List Reply)
    (hdrawn : drawn.toResult (.createAccessKey account) = .ok key) :
    Attached account (.success policy :: drawn :: rest) key

/-- Why an adoption ends early: for a reply that is an error, or as taken when there are policies of
other buckets. -/
def NotAdopted (account : String) (taken f : Failure) (st : Step) (r : Reply) : Prop :=
  Normalized account f st r ∨ r.succeeded = true ∧ f = taken

/-- Replacing the keys of a user that is already there: one listing, and one deletion a key. -/
theorem walks_replaceKeys :
    Walks
      (do
        let keys : Option (List String) ←
          granting .listAccessKeys account (.listAccessKeys account)
        deleteKeys (fun c => do let _ ← granting .deleteStaleAccessKey account c) account
          (keys.getD []))
      (.strict (.grant .listAccessKeys) (.listAccessKeys account) ::
        deletions (.grant .deleteStaleAccessKey) account (next script).names)
      script (fun _ => True) (Normalized account) := by
  refine (Walks.strict rfl).bind fun (keys : Option (List String)) hkeys => ?_
  have hnames : keys.getD [] = (next script).names := by
    rw [hkeys.1]
    exact Reply.getD_listAccessKeys _ account
  rw [hnames]
  exact walks_deleteKeys rfl _

/-- An adoption is a walk along its steps. -/
theorem walks_adopt (bucket account : String) (taken : Failure) (script : List Reply) :
    Walks (adopt bucket account taken) (adoptSteps bucket account script) script (fun _ => True)
      (NotAdopted account taken) := by
  refine Walks.settled_bind (inspectStep bucket account) ?_ ?_
  · intro h
    cases hr : next script with
    | failure e =>
      rw [hr] at h
      cases h
    | success policies =>
      rw [hr] at h
      -- No policy is another bucket's, and the keys are replaced.
      have hown : ¬ policies.any (· ≠ Policy.name bucket) = true := by
        simpa [inspectStep] using h
      refine ⟨(some policies : Option (List String)), rfl, ?_⟩
      dsimp only [Option.getD_some]
      rw [if_neg hown, List.drop_one]
      exact walks_replaceKeys.mono fun _ _ _ hf => .inl hf
  · intro h
    cases hr : next script with
    | failure e =>
      obtain ⟨f, hf⟩ : ∃ f, settle ((Reply.failure e).toResult (.listUserPolicies account))
          (.grant .listUserPolicies) account identityErrors = .error f :=
        settle_of_not_tolerates rfl
      exact .inl ⟨f, hf, .inl ⟨e, rfl, settle_error_eq_error_iff.1 hf⟩⟩
    | success policies =>
      rw [hr] at h
      -- The listing went well, but the user has a policy of another bucket.
      have hforeign : policies.any (· ≠ Policy.name bucket) = true := by
        simpa [inspectStep] using h
      refine .inr ⟨(some policies : Option (List String)), taken, rfl, ?_, .inr ⟨rfl, rfl⟩⟩
      dsimp only [Option.getD_some]
      rw [if_pos hforeign]
      rfl

/-- Why a grant ends early: for a reply that is an error, or because the user belongs to another
bucket, with the failure that told that it is there. -/
def NotGranted (account : String) (script : List Reply) (f : Failure) (st : Step) (r : Reply) :
    Prop :=
  Normalized account f st r ∨
    r.succeeded = true ∧ Normalized account f (createStep account) (next script)

/-- A reply ends a grant with one failure only. -/
theorem NotGranted.unique {f f' : Failure} {st : Step} {r : Reply}
    (h : NotGranted account script f st r) (h' : NotGranted account script f' st r) : f = f' := by
  rcases h with hf | ⟨hsucceeded, hf⟩
  · rcases h' with hf' | ⟨hsucceeded', -⟩
    · exact hf.unique hf'
    · exact absurd hsucceeded' hf.not_succeeded
  · rcases h' with hf' | ⟨-, hf'⟩
    · exact absurd hsucceeded hf'.not_succeeded
    · exact hf.unique hf'

/-- What is done after the reply to the creation of the user. -/
def afterCreation (bucket account : String) (r : (Call.createUser account).Result) :
    Attempt Unit :=
  match settle r (.grant .createUser) account identityErrors with
  | .ok _ => return ()
  | .error failure =>
    if failure.code = .alreadyExists then adopt bucket account failure else throw failure

/-- An error that says that the user is there leads to its adoption. -/
theorem afterCreation_of_saysExists (bucket account : String) {e : ProviderError}
    (he : saysExists e = true) :
    ∃ taken, afterCreation bucket account (.error e) = adopt bucket account taken ∧
      Normalized account taken (createStep account) (.failure e) := by
  have hcode : e.code? = some "EntityAlreadyExists" := of_decide_eq_true he
  obtain ⟨taken, hsettle, htaken⟩ : ∃ f, settle (.error e : (Call.createUser account).Result)
      (.grant .createUser) account identityErrors = .error f ∧ f.code = .alreadyExists :=
    ⟨_, settle_of_code hcode (by decide) rfl (by decide), rfl⟩
  refine ⟨taken, ?_, e, rfl, settle_error_eq_error_iff.1 hsettle⟩
  rw [afterCreation, hsettle]
  exact if_pos htaken

/-- Any other error ends the grant. -/
theorem afterCreation_of_not_saysExists (bucket account : String) {e : ProviderError}
    (he : ¬ saysExists e = true) :
    ∃ f, afterCreation bucket account (.error e) = throw f ∧
      Normalized account f (createStep account) (.failure e) := by
  obtain ⟨f, hf⟩ : ∃ f, settle (.error e : (Call.createUser account).Result)
      (.grant .createUser) account identityErrors = .error f := settle_of_not_tolerates rfl
  have hnormalize := settle_error_eq_error_iff.1 hf
  have hcode : ¬ f.code = .alreadyExists := fun h =>
    he (decide_eq_true (code_of_alreadyExists hnormalize h))
  refine ⟨f, ?_, e, rfl, hnormalize⟩
  rw [afterCreation, hf]
  exact if_neg hcode

/-- Making sure that there is a user is a walk along its steps. -/
theorem walks_ensureUser :
    Walks (ensureUser bucket account) (ensureSteps bucket account script) script (fun _ => True)
      (NotGranted account script) := by
  have hrun : (ensureUser bucket account).run =
      .call (createStep account).call fun r => (afterCreation bucket account r).run := rfl
  refine Walks.call hrun ?_ ?_
  · intro h
    cases hr : next script with
    | success texts => exact Walks.pure trivial
    | failure e =>
      rw [hr] at h
      obtain ⟨taken, hadopt, htaken⟩ := afterCreation_of_saysExists bucket account h
      show Walks (afterCreation bucket account (.error e)) _ _ _ _
      rw [hadopt, ← List.drop_one]
      refine (walks_adopt bucket account taken (script.drop 1)).mono ?_
      rintro f st r (hf | ⟨hsucceeded, rfl⟩)
      · exact .inl hf
      · exact .inr ⟨hsucceeded, hr ▸ htaken⟩
  · intro h
    cases hr : next script with
    | success texts =>
      rw [hr] at h
      exact absurd rfl h
    | failure e =>
      rw [hr] at h
      obtain ⟨f, hf, hnormalized⟩ := afterCreation_of_not_saysExists bucket account h
      exact ⟨f, hf, .inl hnormalized⟩

/-- Attaching policy and key is a walk of two steps, with the credentials of the key that the second
reply gives. -/
theorem walks_attach {p : Parameters} :
    Walks
      (do
        let _ ← granting .putUserPolicy account
          (.putUserPolicy account (Policy.name bucket) (Policy.document bucket))
        let key : Option AccessKey ← granting .createAccessKey account (.createAccessKey account)
        match key with
        | some key => return Credentials.ofKey key p
        | none => throw (Action.grant .createAccessKey).failure)
      (attachSteps bucket account) script
      (fun c => ∃ key, (next (script.drop 1)).toResult (.createAccessKey account) = .ok key ∧
        c = .ofKey key p)
      (Normalized account) := by
  refine (Walks.strict (a := .grant .putUserPolicy) rfl).bind fun _ _ => ?_
  refine (Walks.strict (c := .createAccessKey account) rfl).bind
    fun (key : Option AccessKey) ⟨hkey, hsucceeded⟩ => ?_
  obtain ⟨drawn, hdrawn⟩ := Reply.toResult_of_succeeded hsucceeded (.createAccessKey account)
  rw [hkey, hdrawn]
  exact Walks.pure ⟨drawn, hdrawn, rfl⟩

/-- A grant is a walk along its steps. -/
theorem walks_grant (bucket account : String) (p : Parameters) :
    Walks (grant bucket account p) (grantSteps bucket account script) script
      (fun c => ∃ key,
        (next ((script.drop (ensureSteps bucket account script).length).drop 1)).toResult
          (.createAccessKey account) = .ok key ∧ c = .ofKey key p)
      (NotGranted account script) :=
  walks_ensureUser.bind fun _ _ => walks_attach.mono fun _ _ _ hf => .inl hf

/-- The steps that attach policy and key are accepted on the scripts that give a key. -/
theorem attached_iff (bucket : String) {key : AccessKey} :
    Attached account script key ↔ refused? (attachSteps bucket account) script = none ∧
      (next (script.drop 1)).toResult (.createAccessKey account) = .ok key := by
  unfold attachSteps
  rw [refused?_cons_eq_none rfl]
  constructor
  · rintro ⟨policy, drawn, key, rest, hdrawn⟩
    have hsucceeded : drawn.succeeded = true := by
      cases drawn with
      | success texts => rfl
      | failure e => cases hdrawn
    refine ⟨⟨_, _, rfl, rfl, (refused?_cons_eq_none rfl).2 ⟨_, _, rfl, hsucceeded, rfl⟩⟩, hdrawn⟩
  · rintro ⟨⟨put, script, rfl, hput, h⟩, hkey⟩
    obtain ⟨drawn, script, rfl, -, -⟩ := (refused?_cons_eq_none rfl).1 h
    cases put with
    | success policy => exact .intro policy drawn key script hkey
    | failure e => cases hput

/-- The steps of an adoption are accepted when no policy is another bucket's and the deletions of
the listed keys are tolerated. -/
theorem adopt_iff : refused? (adoptSteps bucket account script) script = none ↔
    ∃ policies ids deleted rest,
      script = .success policies :: .success ids :: (deleted ++ rest) ∧
      (∀ policy ∈ policies, policy = Policy.name bucket) ∧ deleted.length = ids.length ∧
      ∀ r ∈ deleted, r.tolerated = true := by
  unfold adoptSteps
  rw [refused?_cons_eq_none rfl]
  constructor
  · rintro ⟨listing, script, rfl, hlisting, h⟩
    obtain ⟨keys, script, rfl, hkeys, h⟩ := (refused?_cons_eq_none rfl).1 h
    obtain ⟨deleted, rest, rfl, hlength, hdeleted⟩ := deletions_eq_none.1 h
    cases listing with
    | failure e => cases hlisting
    | success policies =>
      cases keys with
      | failure e => cases hkeys
      | success ids =>
        refine ⟨policies, ids, deleted, rest, rfl, ?_, hlength, hdeleted⟩
        simpa [inspectStep] using hlisting
  · rintro ⟨policies, ids, deleted, rest, rfl, hpolicies, hlength, hdeleted⟩
    have hown : (inspectStep bucket account).accepts (.success policies) = true := by
      simpa [inspectStep] using hpolicies
    have hdeletions : refused? (deletions (.grant .deleteStaleAccessKey) account ids)
        (deleted ++ rest) = none := deletions_eq_none.2 ⟨deleted, rest, rfl, hlength, hdeleted⟩
    refine ⟨_, _, rfl, hown, (refused?_cons_eq_none rfl).2 ⟨_, _, rfl, rfl, hdeletions⟩⟩

/-- The steps that make sure that there is a user are accepted on the scripts that do so, and take
the replies up to the rest. -/
theorem ensured_iff (account : String) {rest : List Reply} :
    Ensured bucket script rest ↔ refused? (ensureSteps bucket account script) script = none ∧
      rest = script.drop (ensureSteps bucket account script).length := by
  unfold ensureSteps
  rw [refused?_cons_eq_none rfl]
  constructor
  · rintro (⟨user⟩ | ⟨e, policies, ids, deleted, -, hexists, hpolicies, hlength, hdeleted⟩)
    · exact ⟨⟨_, _, rfl, rfl, rfl⟩, rfl⟩
    -- The user is there already: its adoption takes two replies and one a key.
    · have hadopt : refused? (adoptSteps bucket account
          (.success policies :: .success ids :: (deleted ++ rest)))
          (.success policies :: .success ids :: (deleted ++ rest)) = none :=
        adopt_iff.2 ⟨policies, ids, deleted, rest, rfl, hpolicies, hlength, hdeleted⟩
      refine ⟨⟨_, _, rfl, decide_eq_true hexists, hadopt⟩, ?_⟩
      simp [Reply.succeeded, Reply.names, adoptSteps, ← hlength]
  · rintro ⟨⟨created, script, rfl, hcreated, h⟩, hrest⟩
    cases created with
    | success user =>
      have hrest' : rest = script := hrest
      rw [hrest']
      exact .created user script
    | failure e =>
      obtain ⟨policies, ids, deleted, rest', rfl, hpolicies, hlength, hdeleted⟩ := adopt_iff.1 h
      have hrest' : rest = rest' := by
        rw [hrest]
        simp [Reply.succeeded, Reply.names, adoptSteps, ← hlength]
      rw [hrest']
      exact .adopted e policies ids deleted rest' (of_decide_eq_true hcreated) hpolicies hlength
        hdeleted

/-- A grant against a script of replies. It succeeds exactly when the script begins with replies
that make sure that there is a user and goes on with replies that attach policy and key, with the
credentials of that key. It makes the calls of its steps up to the first whose reply is not
accepted, and fails for that reply. -/
theorem grant_on_script (bucket account : String) (p : Parameters) (script : List Reply) :
    let played := play (grant bucket account p).run script
    (∀ c, played.result = .ok c ↔ ∃ rest key, Ensured bucket script rest ∧
      Attached account rest key ∧ c = ⟨key, p.endpoint, p.region⟩) ∧
    played.calls = calls (grantSteps bucket account script) script ∧
    (∀ f, played.result = .error f ↔ ∃ st r,
      refused? (grantSteps bucket account script) script = some (st, r) ∧
      NotGranted account script f st r) := by
  intro played
  obtain ⟨hcalls, hend⟩ := (walks_grant bucket account p).play
  rcases hend with ⟨v, hresult, hnone, key, hkey, rfl⟩ | ⟨f, st, r, hresult, hrefused, hf⟩
  · refine ⟨fun c => ?_, hcalls, fun f => ?_⟩
    · rw [grantSteps, refused?_append, Option.or_eq_none_iff] at hnone
      rw [hresult]
      constructor
      · rintro ⟨rfl⟩
        exact ⟨_, key, (ensured_iff account).2 ⟨hnone.1, rfl⟩,
          (attached_iff bucket).2 ⟨hnone.2, hkey⟩, rfl⟩
      · rintro ⟨rest, key', hensured, hattached, rfl⟩
        -- The script determines the rest after the user is ensured, and so the key.
        have hrest := ((ensured_iff account).1 hensured).2
        have hkey' := ((attached_iff bucket).1 hattached).2
        rw [hrest, hkey] at hkey'
        cases hkey'
        rfl
    · rw [hresult, hnone]
      simp
  · refine ⟨fun c => iff_of_false ?_ ?_, hcalls, fun f' => ?_⟩
    · rw [hresult]
      simp
    · rintro ⟨rest, key, hensured, hattached, -⟩
      obtain ⟨hnone, rfl⟩ := (ensured_iff account).1 hensured
      have hnone' := ((attached_iff bucket).1 hattached).1
      rw [grantSteps, refused?_append, hnone, hnone'] at hrefused
      cases hrefused
    · rw [hresult, hrefused]
      constructor
      · rintro ⟨rfl⟩
        exact ⟨st, r, rfl, hf⟩
      · rintro ⟨_, _, ⟨rfl⟩, hf'⟩
        exact congrArg Except.error (hf.unique hf')

end BucketDriver.Script
