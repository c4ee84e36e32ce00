import BucketDriver.Proofs.Memory.Locality
import BucketDriver.Proofs.Provision.Grant
import BucketDriver.Proofs.Service.History

/-!
# Operations on different resources

An operation on the memory store leaves everything but its own resource, whatever faults it meets
(`Operation.run_sameAt`), and without faults it depends on nothing else (`Operation.run_agree`). So
two operations on different resources do not see each other, and can be run in either order:
`operations_apart`.
-/

namespace BucketDriver.Service

open Memory (State Store KeySource Agree answer answer_sameAt answer_agree)

namespace Operation

variable {o : Operation} {s s' : State} {r : Resource}

/-- An operation leaves what it is not about. -/
theorem run_sameAt (hr : r ≠ o.request.resource) : s.store.SameAt (o.run s).2.store r := by
  have hstep : ∀ c : Call, c.About o.request.resource → ∀ s₁ : State, s.store.SameAt s₁.store r →
      s.store.SameAt (answer o.parameters.accessKeyId c s₁).2.store r :=
    fun c hc s₁ h => h.trans (answer_sameAt hc hr)
  exact (o.request.attempt_settling o.parameters).run_invariant hstep (.refl s.store r)

/-- An operation has the same result from states that agree on what it is about, and they agree
afterwards. -/
theorem run_agree (h : Agree o.request.resource s s') :
    (o.run s).1 = (o.run s').1 ∧ Agree o.request.resource (o.run s).2 (o.run s').2 := by
  refine (o.request.attempt_settling o.parameters).run_related ?_ h
  intro c hc s₁ s₁' h₁
  have hagree : (answer o.parameters.accessKeyId c s₁).1 = (answer o.parameters.accessKeyId c s₁').1 ∧
      Agree o.request.resource (answer o.parameters.accessKeyId c s₁).2
        (answer o.parameters.accessKeyId c s₁').2 := answer_agree hc h₁
  exact ⟨fun a resource => by rw [hagree.1], hagree.2⟩

/-- An operation leaves no fault where there was none. -/
theorem faultFree_run (h : s.store.FaultFree) : (o.run s).2.store.FaultFree :=
  h.of_spends (o.outcome s).spends

/-- Runs an operation on a store, with the keys that its own generator gives. -/
def runOn (o : Operation) (keys : KeySource) (s : Store) : Except Failure Response × Store :=
  ((o.run ⟨s, keys⟩).1, (o.run ⟨s, keys⟩).2.store)

end Operation

/-- After an operation on another resource, an operation has the result that it has before, and
leaves the same under its own. -/
theorem runOn_after {o o' : Operation} (hapart : o.request.resource ≠ o'.request.resource)
    {s : Store} (hs : s.FaultFree) (keys keys' : KeySource) :
    (o.runOn keys (o'.runOn keys' s).2).1 = (o.runOn keys s).1 ∧
      (o.runOn keys s).2.SameAt (o.runOn keys (o'.runOn keys' s).2).2 o.request.resource := by
  have hother : s.SameAt (o'.runOn keys' s).2 o.request.resource :=
    Operation.run_sameAt (s := ⟨s, keys'⟩) hapart
  have hfree : (o'.runOn keys' s).2.FaultFree := Operation.faultFree_run (s := ⟨s, keys'⟩) hs
  have hagree : Agree o.request.resource ⟨s, keys⟩ ⟨(o'.runOn keys' s).2, keys⟩ :=
    ⟨hother, rfl, hs, hfree⟩
  obtain ⟨hresult, hsame⟩ := Operation.run_agree hagree
  exact ⟨hresult.symm, hsame.same⟩

/-- Two operations on different resources leave a store without faults the same in both orders: each
resource is written by at most one of them. -/
theorem runOn_comm {o o' : Operation} (hapart : o.request.resource ≠ o'.request.resource)
    {s : Store} (hs : s.FaultFree) (keys keys' : KeySource) :
    (o'.runOn keys' (o.runOn keys s).2).2 = (o.runOn keys (o'.runOn keys' s).2).2 := by
  have hleave : ∀ (s : Store) (r : Resource), r ≠ o.request.resource →
      s.SameAt (o.runOn keys s).2 r :=
    fun s r hr => Operation.run_sameAt (s := ⟨s, keys⟩) hr
  have hleave' : ∀ (s : Store) (r : Resource), r ≠ o'.request.resource →
      s.SameAt (o'.runOn keys' s).2 r :=
    fun s r hr => Operation.run_sameAt (s := ⟨s, keys'⟩) hr
  refine Store.ext_sameAt (fun r => ?_) ?_
  · by_cases hr : r = o.request.resource
    · subst hr
      have hfirst := hleave' (o.runOn keys s).2 o.request.resource hapart
      exact (runOn_after hapart hs keys keys').2.symm.trans hfirst
    · have hlast := hleave (o'.runOn keys' s).2 r hr
      by_cases hr' : r = o'.request.resource
      · subst hr'
        exact hlast.symm.trans (runOn_after hapart.symm hs keys' keys).2
      -- Neither operation is about it.
      · have hboth : s.SameAt (o.runOn keys (o'.runOn keys' s).2).2 r :=
          (hleave' s r hr').trans hlast
        have hboth' : s.SameAt (o'.runOn keys' (o.runOn keys s).2).2 r :=
          (hleave s r hr).trans (hleave' _ r hr')
        exact hboth.symm.trans hboth'
  · have hfree : (o.runOn keys (o'.runOn keys' s).2).2.FaultFree :=
      Operation.faultFree_run (s := ⟨_, keys⟩) (Operation.faultFree_run (s := ⟨s, keys'⟩) hs)
    have hfree' : (o'.runOn keys' (o.runOn keys s).2).2.FaultFree :=
      Operation.faultFree_run (s := ⟨_, keys'⟩) (Operation.faultFree_run (s := ⟨s, keys⟩) hs)
    exact funext fun kind => (hfree' kind).trans (hfree kind).symm

/-- Operations on different resources do not touch each other. From any state, with any faults
queued, an operation leaves every bucket and every account but the one that it is about, whether it
succeeds or fails. And two operations on different resources, each with the keys of its own
generator, can be run in either order when no faults are queued: each has the same result in both
orders, and both orders end in the same store. -/
theorem operations_apart (o o' : Operation) :
    (∀ (s : State) (r : Resource), r ≠ o.request.resource →
      s.store.SameAt (o.run s).2.store r) ∧
    (o.request.resource ≠ o'.request.resource →
      ∀ (s : Store) (keys keys' : KeySource), s.FaultFree →
        (o.runOn keys (o'.runOn keys' s).2).1 = (o.runOn keys s).1 ∧
        (o'.runOn keys' (o.runOn keys s).2).1 = (o'.runOn keys' s).1 ∧
        (o'.runOn keys' (o.runOn keys s).2).2 = (o.runOn keys (o'.runOn keys' s).2).2) := by
  refine ⟨fun s r hr => Operation.run_sameAt hr, fun hapart s keys keys' hs => ?_⟩
  have hresult := (runOn_after hapart hs keys keys').1
  have hresult' := (runOn_after hapart.symm hs keys' keys).1
  exact ⟨hresult, hresult', runOn_comm hapart hs keys keys'⟩

/-- A store with two accounts that have access to the bucket `b`, each by a key of its own. -/
def sharedBucket : Store :=
  ⟨.ofList [("b", ⟨"AK", none⟩)],
    .ofList [("u", ⟨.ofList [(Policy.name "b", "")], .ofList [("k1", "s1")]⟩),
      ("v", ⟨.ofList [(Policy.name "b", "")], .ofList [("k2", "s2")]⟩)],
    fun _ => []⟩

/-- A grant that meets a fault on its way leaves the other accounts; and a grant to one account and
a revocation for another can be run in either order, though both are for the same bucket. -/
theorem operations_apart_sharedBucket :
    Provision.crowded.store.SameAt
        (Operation.run ⟨.grant "b" "u" .empty, Provision.sample⟩ Provision.crowded).2.store
        (.account "v") ∧
      sharedBucket.FaultFree ∧
      ∃ (o o' : Operation) (keys keys' : KeySource) (account : String) (c : Credentials),
        (o.runOn keys sharedBucket).1 = .ok (.granted account c) ∧
        (o.runOn keys (o'.runOn keys' sharedBucket).2).1 = .ok (.granted account c) ∧
        (o'.runOn keys' (o.runOn keys sharedBucket).2).1 = .ok .revoked ∧
        (o'.runOn keys' (o.runOn keys sharedBucket).2).2 =
          (o.runOn keys (o'.runOn keys' sharedBucket).2).2 := by
  have hfree : sharedBucket.FaultFree := fun _ => rfl
  have hframe := (operations_apart ⟨.grant "b" "u" .empty, Provision.sample⟩
    ⟨.revoke "b" "v" .empty, Provision.sample⟩).1 Provision.crowded (.account "v") (by decide)
  obtain ⟨hgrant, hrevoke, hstore⟩ := (operations_apart ⟨.grant "b" "u" .empty, Provision.sample⟩
    ⟨.revoke "b" "v" .empty, Provision.sample⟩).2 (by decide) sharedBucket
    (fun n => ⟨"a" ++ n.repr, "sa"⟩) (fun n => ⟨"b" ++ n.repr, "sb"⟩) hfree
  have hgranted : (Operation.runOn ⟨.grant "b" "u" .empty, Provision.sample⟩
      (fun n => ⟨"a" ++ n.repr, "sa"⟩) sharedBucket).1 =
      .ok (.granted "u" (.ofKey ⟨"a" ++ (0).repr, "sa"⟩ Provision.sample)) := rfl
  exact ⟨hframe, hfree, _, _, _, _, "u", _, hgranted, hgrant.trans hgranted, hrevoke, hstore⟩

end BucketDriver.Service
