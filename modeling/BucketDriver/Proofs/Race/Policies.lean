import BucketDriver.Proofs.Provision.Retry
import BucketDriver.Proofs.Race.Grant

/-!
# The policies of an account while grants take turns

A grant attaches its policy after it has found the account free for its bucket, and some calls
later. What its turns do to the policies is stated here for any bucket, since grants for other
buckets may take turns with it: no turn takes a policy away (`GrantTurn.holds`), and only the one
that attaches a policy can make an account less free (`GrantTurn.freeFor`).
-/

namespace BucketDriver.Provision

open Memory (State UserRecord)

/-- An account is there and has the policy of a bucket. -/
def Holds (bucket : String) (account : Option UserRecord) : Prop :=
  ∃ r, account = some r ∧ r.policies.get? (Policy.name bucket) = some (Policy.document bucket)

namespace GrantPhase

/-- Whether the account is known to be free and the policy is still to be attached. -/
def attaching : GrantPhase → Bool
  | listing | clearing _ => true
  | creating | checking _ | drawing | ended _ => false

/-- Whether the policy is attached. -/
def hasAttached : GrantPhase → Bool
  | drawing | ended (.ok _) => true
  | creating | checking _ | listing | clearing _ | ended (.error _) => false

end GrantPhase

variable {bucket account : String} {p : Parameters} {s s' : State} {φ next : GrantPhase}

theorem Holds.attached (bucket : String) (r : UserRecord) :
    Holds bucket (some (attached bucket r)) :=
  ⟨_, rfl, Dict.get?_insert_self _ _ _⟩

/-- Attaching the policy of a bucket leaves that of any bucket. -/
theorem Holds.of_attached {b : String} {r : UserRecord} (h : Holds b (some r)) :
    Holds b (some (Provision.attached bucket r)) := by
  obtain ⟨_, ⟨⟩, hpolicy⟩ := h
  refine ⟨_, rfl, ?_⟩
  unfold Provision.attached UserRecord.withPolicy
  dsimp only
  rw [Dict.get?_insert]
  split
  case isTrue hname => rw [Policy.name_inj.1 hname]
  case isFalse => exact hpolicy

/-- An account that is free for the bucket whose policy it has holds that policy and no other. -/
theorem Holds.entries {r : UserRecord} (h : Holds bucket (some r))
    (hfree : FreeFor bucket (some r)) :
    r.policies.entries = [(Policy.name bucket, Policy.document bucket)] := by
  obtain ⟨_, ⟨⟩, hpolicy⟩ := h
  rw [← Dict.insert_eq_self hpolicy, Dict.insert_eq_insert_empty (hfree r rfl)]
  rfl

/-- An account that holds the policy of one bucket and is free for another is so for the same. -/
theorem Holds.eq_of_freeFor {b : String} {record : Option UserRecord} (h : Holds b record)
    (hfree : FreeFor bucket record) : b = bucket := by
  obtain ⟨r, hr, hpolicy⟩ := h
  exact Policy.name_inj.1 (hfree r hr _ (Dict.mem_keys_iff.2 ⟨_, hpolicy⟩))

/-- An account with nothing is free for every bucket. -/
theorem freeFor_new (bucket : String) : FreeFor bucket (some .new) := by
  rintro _ ⟨⟩ name hname
  cases hname

/-- An account stays free for a bucket in every turn of a grant but one that attaches the policy of
another. -/
theorem GrantTurn.freeFor {b : String} (h : GrantTurn bucket account p s φ next s')
    (hattach : φ = .clearing [] → b = bucket) (hfree : FreeFor b (s.store.users.get? account)) :
    FreeFor b (s'.store.users.get? account) := by
  cases h with
  | created =>
    rw [Memory.Store.get?_setUser_self]
    exact freeFor_new b
  | cleared hu | drawn hu =>
    rw [Memory.Store.get?_setUser_self]
    rw [hu] at hfree
    exact hfree.of_policies (Dict.subset_refl _)
  | attached hu =>
    obtain rfl := hattach rfl
    rw [Memory.Store.get?_setUser_self]
    rw [hu] at hfree
    exact hfree.attached
  | _ => exact hfree

/-- No turn of a grant takes a policy away. -/
theorem GrantTurn.holds {b : String} (h : GrantTurn bucket account p s φ next s')
    (hholds : Holds b (s.store.users.get? account)) : Holds b (s'.store.users.get? account) := by
  cases h with
  | created hu =>
    obtain ⟨r, hr, -⟩ := hholds
    rw [hu] at hr
    cases hr
  | cleared hu | drawn hu =>
    rw [Memory.Store.get?_setUser_self]
    obtain ⟨r, hr, hpolicy⟩ := hholds
    obtain rfl := Option.some.inj (hu.symm.trans hr)
    exact ⟨_, rfl, hpolicy⟩
  | attached hu =>
    rw [Memory.Store.get?_setUser_self]
    rw [hu] at hholds
    exact hholds.of_attached
  | _ => exact hholds

/-- A grant that has attached its policy finds it attached. -/
theorem GrantTurn.holds_of_hasAttached (h : GrantTurn bucket account p s φ next s')
    (hφ : φ.hasAttached = true → Holds bucket (s.store.users.get? account))
    (hnext : next.hasAttached = true) : Holds bucket (s'.store.users.get? account) := by
  have hkept (hholds : Holds bucket (s.store.users.get? account)) := h.holds hholds
  cases h with
  | attached hu =>
    rw [Memory.Store.get?_setUser_self]
    exact .attached bucket _
  | drawn => exact hkept (hφ rfl)
  | ended => exact hφ hnext
  | _ => cases hnext

/-- The grants of a race that have attached their policies find them attached after every turn. -/
theorem holds_step {ι : Type} [DecidableEq ι] {buckets : ι → String} {φ : ι → GrantPhase} {i : ι}
    (h : ∀ j, (φ j).hasAttached = true → Holds (buckets j) (s.store.users.get? account))
    (hturn : GrantTurn (buckets i) account p s (φ i) next s') (j : ι)
    (hj : (Function.update φ i next j).hasAttached = true) :
    Holds (buckets j) (s'.store.users.get? account) := by
  by_cases hji : j = i
  · rw [hji] at hj ⊢
    rw [Function.update_self] at hj
    exact hturn.holds_of_hasAttached (h i) hj
  · rw [Function.update_of_ne hji] at hj
    exact hturn.holds (h j hj)

/-- A grant that becomes one that is attaching its policy finds the account free for its bucket. -/
theorem GrantTurn.freeFor_of_attaching (h : GrantTurn bucket account p s φ next s')
    (hφ : φ.attaching = true → FreeFor bucket (s.store.users.get? account))
    (hnext : next.attaching = true) : FreeFor bucket (s'.store.users.get? account) := by
  have hkept (hfree : FreeFor bucket (s.store.users.get? account)) := h.freeFor (fun _ => rfl) hfree
  cases h with
  | created =>
    rw [Memory.Store.get?_setUser_self]
    exact freeFor_new bucket
  | admitted hu hfree =>
    rw [hu]
    exact hfree
  | listed | cleared | skipped => exact hkept (hφ rfl)
  | _ => cases hnext

/-- When a user is there for a grant that has begun, a user is there after its turn. -/
theorem GrantTurn.present (h : GrantTurn bucket account p s φ next s')
    (hφ : φ ≠ .creating → ∃ r, s.store.users.get? account = some r) :
    ∃ r, s'.store.users.get? account = some r := by
  cases h with
  | created | cleared | attached | drawn => exact ⟨_, Memory.Store.get?_setUser_self⟩
  | found hu | admitted hu | refused hu | listed hu | full hu => exact ⟨_, hu⟩
  | skipped | ended => exact hφ fun heq => by cases heq
  | lost hu hneeds => exact hφ fun heq => by rw [heq] at hneeds; cases hneeds

/-- A grant that is attaching its policy to an account that is there attaches it or is still at it
after its turn. -/
theorem GrantTurn.attaching_or_holds (h : GrantTurn bucket account p s φ next s')
    (hthere : ∃ r, s.store.users.get? account = some r) (hφ : φ.attaching = true) :
    next.attaching = true ∨ Holds bucket (s'.store.users.get? account) := by
  obtain ⟨r, hr⟩ := hthere
  cases h with
  | listed | cleared | skipped => exact .inl rfl
  | attached hu =>
    rw [Memory.Store.get?_setUser_self]
    exact .inr (.attached bucket _)
  | lost hu =>
    rw [hr] at hu
    cases hu
  | _ => cases hφ

end BucketDriver.Provision
