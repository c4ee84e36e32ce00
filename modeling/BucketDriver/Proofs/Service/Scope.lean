import BucketDriver.Proofs.Http.Agreement
import BucketDriver.Proofs.Policy.Matching
import BucketDriver.Proofs.Service.Dispatch

/-!
# What a grant opens

A grant leaves its account with one policy, whose document was written for the bucket of the
request. The dispatcher asks of the bucket's name only that it is not blank, so it depends on the
name whether the document opens other buckets, too: `grant_opens_own_iff`.
-/

namespace BucketDriver.Service

open Memory (State)
open Policy (IsName Literal Opens OpensIn bucketArn objectArn)

/-- After a successful grant the account has the document for the bucket and no other. -/
theorem policies_of_grant {d : Dispatcher State} (hd : d.OnMemory) {bucket account : String}
    {context : Dict String} {s s' : State} {response : Response}
    (h : d.answer (.grant bucket account context) s = (.ok response, s')) :
    ∃ r, s'.store.users.get? account = some r ∧
      r.policies.entries = [(Policy.name bucket, Policy.document bucket)] := by
  obtain ⟨p, hrun⟩ := hd.run_of_answer h
  have houtcome := Operation.outcome ⟨.grant bucket account context, p⟩ s
  rw [hrun] at houtcome
  cases houtcome with
  | bucket hservice => cases hservice
  | granted hgranted =>
    obtain ⟨r, hready, hu, -⟩ := hgranted.record
    exact ⟨_, hu, hready.attached_policies⟩

/-- What a grant opens. From any state of the memory store, with any faults queued: when the
dispatcher answers a grant with success, the account has one policy, which opens the bucket of the
grant and every object in it. And it opens no other bucket, and no object in one, exactly when the
first character of the bucket's name that is no lower-case letter, digit, dot or hyphen, if there is
one, is neither a wildcard nor a slash. -/
theorem grant_opens_own_iff {d : Dispatcher State} (hd : d.OnMemory) {bucket account : String}
    {context : Dict String} {s s' : State} {response : Response}
    (h : d.answer (.grant bucket account context) s = (.ok response, s')) :
    ∃ r document, s'.store.users.get? account = some r ∧
      r.policies.entries = [(Policy.name bucket, document)] ∧
      Opens document (bucketArn bucket) ∧ (∀ key, Opens document (objectArn bucket key)) ∧
      ((∀ name : String, IsName name.toList → OpensIn document name → name = bucket) ↔
        Literal bucket.toList) := by
  obtain ⟨r, hu, hpolicies⟩ := policies_of_grant hd h
  obtain ⟨hbucket, hobjects⟩ := Policy.opens_own bucket
  exact ⟨r, _, hu, hpolicies, hbucket, hobjects, Policy.opens_own_iff bucket⟩

/-- Every client of the service for single runs is of the memory store. -/
theorem onMemory_onMemory : Http.onMemory.OnMemory := by
  intro service p client h
  cases h
  rfl

/-- A dot in a bucket's name does not stand for other characters. -/
theorem grant_opens_own_iff_dotted :
    ∃ response s', Http.onMemory.answer (.grant "a.b" "u" .empty) Http.nothing =
        (.ok response, s') ∧
      ∃ r document, s'.store.users.get? "u" = some r ∧
        r.policies.entries = [(Policy.name "a.b", document)] ∧
        Opens document (objectArn "a.b" "k") ∧ ¬ OpensIn document "a-b" := by
  have hanswer : Http.onMemory.answer (.grant "a.b" "u" .empty) Http.nothing =
      (.ok (.granted "u" (.ofKey (Http.nothing.keys 0) Provision.sample)), _) := rfl
  obtain ⟨r, document, hu, hpolicies, -, hobjects, hown⟩ :=
    grant_opens_own_iff onMemory_onMemory hanswer
  refine ⟨_, _, hanswer, r, document, hu, hpolicies, hobjects "k", fun hopens => ?_⟩
  have hliteral : Literal "a.b".toList := fun c hc => nomatch hc
  exact absurd (hown.2 hliteral "a-b" (by decide) hopens) (by decide)

/-- Not every grant opens its own bucket only: the name `*` is accepted, and opens every bucket. -/
theorem not_forall_grant_opens_own :
    ¬ ∀ (d : Dispatcher State) (bucket account : String) (context : Dict String) (s s' : State)
        (response : Response), d.OnMemory →
      d.answer (.grant bucket account context) s = (.ok response, s') →
      ∀ r document, s'.store.users.get? account = some r →
        r.policies.get? (Policy.name bucket) = some document →
        ∀ name : String, IsName name.toList → OpensIn document name → name = bucket := by
  intro h
  have hanswer : Http.onMemory.answer (.grant "*" "u" .empty) Http.nothing =
      (.ok (.granted "u" (.ofKey (Http.nothing.keys 0) Provision.sample)), _) := rfl
  have hopens : OpensIn (Policy.document "*") "b" := by
    have hmatch : Policy.Matches "*".toList "b".toList := .run ['b'] .nil
    refine .inl ((Policy.opens_document_iff (Policy.bucketArn_toList "b")).2 ⟨[], by simp, ?_⟩)
    rwa [List.append_nil, List.append_nil]
  have hown : "b" = "*" :=
    h Http.onMemory "*" "u" .empty Http.nothing _ _ onMemory_onMemory hanswer _ _ rfl rfl "b"
      (by decide) hopens
  exact absurd hown (by decide)

end BucketDriver.Service
