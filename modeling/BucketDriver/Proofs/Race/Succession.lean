import BucketDriver.Proofs.Race.Policies
import Mathlib.Data.Fintype.Card

/-!
# Grants of one account to one bucket at the same time

Grants of the same bucket to the same account delete each other's keys, since each deletes the keys
that it has listed. While none of them has failed, every live key is accounted for (`Accounted`): a
grant has returned it, or will delete it, or no grant has looked at the keys yet. The key that is
drawn last is deleted by nobody, because the grants that might do so have drawn their own keys by
then and have ended.

The main result is `last_key_live`: when all grants succeed, they leave the key drawn last, and no
key that is not one of theirs.
-/

namespace BucketDriver.Provision

open Memory (State UserRecord answer)

variable {bucket account : String} {p : Parameters} {s s' : State}

/-! ## Keys -/

/-- An account is there and has a key. -/
def Live (key : AccessKey) (account : Option UserRecord) : Prop :=
  ∃ r, account = some r ∧ r.keys.get? key.id = some key.secret

namespace GrantPhase

/-- Whether the grant has not looked at the keys yet. -/
def early : GrantPhase → Bool
  | creating | checking _ | listing => true
  | clearing _ | drawing | ended _ => false

/-- Whether the grant has succeeded. -/
def succeeded : GrantPhase → Bool
  | ended (.ok _) => true
  | creating | checking _ | listing | clearing _ | drawing | ended (.error _) => false

theorem succeeded_iff {φ : GrantPhase} : φ.succeeded = true ↔ ∃ c, φ = .ended (.ok c) := by
  constructor
  · intro h
    cases φ with
    | ended result =>
      cases result with
      | ok c => exact ⟨c, rfl⟩
      | error => cases h
    | _ => cases h
  · rintro ⟨c, rfl⟩
    rfl

end GrantPhase

section

variable {φ next : GrantPhase} (h : GrantTurn bucket account p s φ next s')
include h

/-- A key that is live after a turn of a grant was so before, or is the one just drawn. -/
theorem GrantTurn.live_before {key : AccessKey} (hkey : Live key (s'.store.users.get? account)) :
    Live key (s.store.users.get? account) ∨ ∃ c, next = .ended (.ok c) ∧ c.key = key := by
  obtain ⟨r', hr', hsecret⟩ := hkey
  cases h with
  | created =>
    rw [Memory.Store.get?_setUser_self] at hr'
    obtain rfl := Option.some.inj hr'
    cases hsecret
  | cleared hu =>
    rw [Memory.Store.get?_setUser_self] at hr'
    obtain rfl := Option.some.inj hr'
    exact .inl ⟨_, hu, Dict.erase_subset _ _ _ _ hsecret⟩
  | attached hu =>
    rw [Memory.Store.get?_setUser_self] at hr'
    obtain rfl := Option.some.inj hr'
    exact .inl ⟨_, hu, hsecret⟩
  | drawn hu =>
    rw [Memory.Store.get?_setUser_self] at hr'
    obtain rfl := Option.some.inj hr'
    unfold UserRecord.withKey at hsecret
    dsimp only at hsecret
    rw [Dict.get?_insert] at hsecret
    split at hsecret
    case isTrue hid =>
      refine .inr ⟨_, rfl, ?_⟩
      cases key
      cases hid
      cases hsecret
      rfl
    case isFalse => exact .inl ⟨_, hu, hsecret⟩
  | _ => exact .inl ⟨r', hr', hsecret⟩

/-- A grant that lists the keys is going to delete every live one. -/
theorem GrantTurn.early_or_doomed {key : AccessKey} (hearly : φ.early = true)
    (hkey : Live key (s'.store.users.get? account)) :
    next.early = true ∨ (∃ f, next = .ended (.error f)) ∨
      ∃ keys, next = .clearing keys ∧ key.id ∈ keys := by
  obtain ⟨r', hr', hsecret⟩ := hkey
  cases h with
  | created =>
    rw [Memory.Store.get?_setUser_self] at hr'
    obtain rfl := Option.some.inj hr'
    cases hsecret
  | found | admitted => exact .inl rfl
  | refused | lost => exact .inr (.inl ⟨_, rfl⟩)
  | listed hu =>
    obtain rfl := Option.some.inj (hu.symm.trans hr')
    exact .inr (.inr ⟨_, rfl, Dict.mem_keys_iff.2 ⟨_, hsecret⟩⟩)
  | _ => cases hearly

/-- A key that is to be deleted by a grant and is live after its turn is still to be deleted. -/
theorem GrantTurn.still_doomed {keys : List String} {key : AccessKey} (hφ : φ = .clearing keys)
    (hid : key.id ∈ keys) (hkey : Live key (s'.store.users.get? account)) :
    ∃ keys', next = .clearing keys' ∧ key.id ∈ keys' := by
  obtain ⟨r', hr', hsecret⟩ := hkey
  cases h with
  | cleared hu =>
    cases hφ
    rw [Memory.Store.get?_setUser_self] at hr'
    obtain rfl := Option.some.inj hr'
    rcases List.mem_cons.1 hid with hgone | hid
    · unfold UserRecord.withoutKey at hsecret
      rw [hgone, Dict.get?_erase_self] at hsecret
      cases hsecret
    · exact ⟨_, rfl, hid⟩
  | skipped hu | lost hu =>
    rw [hu] at hr'
    cases hr'
  | attached =>
    cases hφ
    cases hid
  | _ => cases hφ

/-- A grant that succeeds in its turn has drawn the next key, and it is live; in other turns no key
is drawn. -/
theorem GrantTurn.drawn_or_not :
    (φ.succeeded = false ∧ next = .ended (.ok (.ofKey (s.keys 0) p)) ∧
      s'.keys = (fun n => s.keys (n + 1)) ∧ Live (s.keys 0) (s'.store.users.get? account)) ∨
    next.succeeded = φ.succeeded ∧ s'.keys = s.keys := by
  cases h with
  | drawn hu =>
    refine .inl ⟨rfl, rfl, rfl, _, Memory.Store.get?_setUser_self, ?_⟩
    exact Dict.get?_insert_self _ _ _
  | lost hu hneeds =>
    refine .inr ⟨?_, rfl⟩
    cases φ with
    | ended => cases hneeds
    | _ => rfl
  | _ => exact .inr ⟨rfl, rfl⟩

end

/-! ## How many have succeeded -/

variable {k : ℕ} {φ : Fin k → GrantPhase} {i : Fin k} {next : GrantPhase}

/-- How many grants have succeeded. -/
def successes (φ : Fin k → GrantPhase) : ℕ :=
  (Finset.univ.filter fun i => (φ i).succeeded = true).card

theorem successes_update_of_eq (h : next.succeeded = (φ i).succeeded) :
    successes (Function.update φ i next) = successes φ := by
  unfold successes
  congr 2
  funext j
  by_cases hj : j = i
  · rw [hj, Function.update_self, h]
  · rw [Function.update_of_ne hj]

theorem successes_update (h : (φ i).succeeded = false) (hnext : next.succeeded = true) :
    successes (Function.update φ i next) = successes φ + 1 := by
  have hi : i ∉ Finset.univ.filter fun i => (φ i).succeeded = true := by simp [h]
  unfold successes
  rw [← Finset.card_insert_of_notMem hi]
  congr 1
  ext j
  by_cases hj : j = i
  · simp [hj, hnext]
  · simp [hj]

theorem successes_eq (h : ∀ i, (φ i).succeeded = true) : successes φ = k := by
  simp [successes, h]

/-! ## The invariant -/

/-- What a live key is to the grants. -/
inductive Accounted (φ : Fin k → GrantPhase) (key : AccessKey) : Prop where
  /-- A grant has returned it. -/
  | returned (i : Fin k) (c : Credentials) (hφ : φ i = .ended (.ok c)) (hkey : c.key = key)
  /-- A grant is going to delete it. -/
  | doomed (i : Fin k) (keys : List String) (hφ : φ i = .clearing keys) (hid : key.id ∈ keys)
  /-- No grant has looked at the keys yet. -/
  | unseen (hearly : ∀ i, (φ i).early = true)

/-- What holds as long as no grant has failed. -/
structure Succeeding (bucket account : String) (source : Nat → AccessKey) (φ : Fin k → GrantPhase)
    (s : State) : Prop where
  /-- The account is free for the bucket. -/
  free : FreeFor bucket (s.store.users.get? account)
  /-- The grants that have attached the policy find it attached. -/
  holds : ∀ i, (φ i).hasAttached = true → Holds bucket (s.store.users.get? account)
  /-- Every grant that has succeeded has drawn one key. -/
  keys : s.keys = fun n => source (n + successes φ)
  /-- Every live key is accounted for. -/
  accounted : ∀ key, Live key (s.store.users.get? account) → Accounted φ key
  /-- When all have succeeded the key drawn last is live. -/
  last : (∀ i, (φ i).succeeded = true) → ∃ i c, φ i = .ended (.ok c) ∧ c.key = source (k - 1) ∧
    Live c.key (s.store.users.get? account)

variable {source : Nat → AccessKey}

/-- A key that is live after a turn is accounted for, unless the grant has failed. -/
theorem Accounted.step {key : AccessKey} (h : Accounted φ key)
    (hturn : GrantTurn bucket account p s (φ i) next s')
    (hkey : Live key (s'.store.users.get? account)) (hnext : ∀ f, next ≠ .ended (.error f)) :
    Accounted (Function.update φ i next) key := by
  cases h with
  | returned j c hφ hc => exact .returned j c (hturn.update_of_ended hφ) hc
  | doomed j keys hφ hid =>
    -- The grant may have deleted one of its keys, but not this one, which is live.
    by_cases hj : j = i
    · rw [hj] at hφ
      obtain ⟨keys', hnext', hid'⟩ := hturn.still_doomed hφ hid hkey
      exact .doomed i keys' (by rw [Function.update_self, hnext']) hid'
    · exact .doomed j keys (by rw [Function.update_of_ne hj, hφ]) hid
  | unseen hearly =>
    -- The first grant to look at the keys is going to delete all of them.
    rcases hturn.early_or_doomed (hearly i) hkey with hstill | ⟨f, hf⟩ | ⟨keys, hkeys, hid⟩
    · refine .unseen fun j => ?_
      by_cases hj : j = i
      · rw [hj, Function.update_self, hstill]
      · rw [Function.update_of_ne hj, hearly j]
    · exact absurd hf (hnext f)
    · exact .doomed i keys (by rw [Function.update_self, hkeys]) hid

/-- When all grants have succeeded, a key that is accounted for was returned by one of them. -/
theorem Accounted.exists_returned {key : AccessKey} {c : Fin k → Credentials} (hk : 0 < k)
    (h : Accounted φ key) (hended : ∀ i, φ i = .ended (.ok (c i))) : ∃ i, (c i).key = key := by
  cases h with
  | returned i ci hi hkey =>
    rw [hended i] at hi
    cases hi
    exact ⟨i, hkey⟩
  | doomed i keys hi =>
    rw [hended i] at hi
    cases hi
  | unseen hearly =>
    have hfirst := hearly ⟨0, hk⟩
    rw [hended] at hfirst
    cases hfirst

namespace Succeeding

variable (h : Succeeding bucket account source φ s)
  (hturn : GrantTurn bucket account p s (φ i) next s')
include h hturn

theorem keys_step : s'.keys = fun n => source (n + successes (Function.update φ i next)) := by
  rcases hturn.drawn_or_not with ⟨hφ, hnext, hkeys, -⟩ | ⟨hsame, hkeys⟩
  · rw [successes_update hφ (by rw [hnext]; rfl), hkeys, h.keys]
    funext n
    show source (n + 1 + successes φ) = source (n + (successes φ + 1))
    rw [Nat.add_right_comm, Nat.add_assoc]
  · rw [successes_update_of_eq hsame, hkeys, h.keys]

theorem accounted_step (hnext : ∀ f, next ≠ .ended (.error f)) (key : AccessKey)
    (hkey : Live key (s'.store.users.get? account)) :
    Accounted (Function.update φ i next) key := by
  rcases hturn.live_before hkey with hbefore | ⟨c, hc, hckey⟩
  · exact (h.accounted key hbefore).step hturn hkey hnext
  · exact .returned i c (by rw [Function.update_self, hc]) hckey

/-- The key drawn last is live, since all other grants have ended by then. -/
theorem last_step (hall : ∀ j, (Function.update φ i next j).succeeded = true) :
    ∃ j c, Function.update φ i next j = .ended (.ok c) ∧ c.key = source (k - 1) ∧
      Live c.key (s'.store.users.get? account) := by
  rcases hturn.drawn_or_not with ⟨hφ, hnext, -, hlive⟩ | ⟨hsame, -⟩
  -- This turn draws the last key: `k - 1` keys have been drawn before.
  · have hcount := successes_eq hall
    rw [successes_update hφ (by rw [hnext]; rfl)] at hcount
    have hlast : s.keys 0 = source (k - 1) := by
      rw [h.keys]
      refine congrArg source ?_
      omega
    exact ⟨i, _, by rw [Function.update_self, hnext], hlast, hlive⟩
  -- All grants had ended before, and the turn does nothing.
  · have hi := hall i
    rw [Function.update_self, hsame] at hi
    obtain ⟨c, hc⟩ := GrantPhase.succeeded_iff.1 hi
    rw [hc] at hturn
    obtain ⟨hnext, rfl⟩ := hturn.of_ended
    rw [hnext, ← hc, Function.update_eq_self] at hall ⊢
    exact h.last hall

/-- Every turn in which no grant fails preserves the invariant. -/
theorem step (hnext : ∀ f, next ≠ .ended (.error f)) :
    Succeeding bucket account source (Function.update φ i next) s' where
  free := hturn.freeFor (fun _ => rfl) h.free
  holds := holds_step h.holds hturn
  keys := h.keys_step hturn
  accounted := h.accounted_step hturn hnext
  last := h.last_step hturn

end Succeeding

/-- A grant has failed, or the invariant holds. -/
def FailedOrSucceeding (bucket account : String) (source : Nat → AccessKey)
    (φ : Fin k → GrantPhase) (s : State) : Prop :=
  (∃ i f, φ i = .ended (.error f)) ∨ Succeeding bucket account source φ s

/-- Every turn preserves that, since a grant that has failed stays so. -/
theorem FailedOrSucceeding.step (h : FailedOrSucceeding bucket account source φ s)
    (hturn : GrantTurn bucket account p s (φ i) next s') :
    FailedOrSucceeding bucket account source (Function.update φ i next) s' := by
  rcases h with ⟨j, f, hf⟩ | h
  · exact .inl ⟨j, f, hturn.update_of_ended hf⟩
  · by_cases hnext : ∃ f, next = .ended (.error f)
    · obtain ⟨f, hf⟩ := hnext
      exact .inl ⟨i, f, by rw [Function.update_self, hf]⟩
    · exact .inr (h.step hturn fun f hf => hnext ⟨f, hf⟩)

/-- How a race of grants of the same bucket to the same account begins. -/
theorem FailedOrSucceeding.start (hk : 0 < k) (hfree : FreeFor bucket (s.store.users.get? account)) :
    FailedOrSucceeding bucket account s.keys (fun _ : Fin k => .creating) s := by
  refine .inr ⟨hfree, ?_, ?_, ?_, ?_⟩
  · exact fun i hi => by cases hi
  · simp [successes, GrantPhase.succeeded]
  · exact fun key _ => .unseen fun _ => rfl
  · exact fun hall => by cases hall ⟨0, hk⟩

/-! ## The result -/

/-- Any number of grants of the same bucket to the same account race, from any state without faults
in which the account is free for the bucket. When all of them succeed, the account has the bucket's
policy and no other, every live key is one that a grant has returned, one key was drawn for each
grant, and the last one of these is live. -/
theorem last_key_live {callers : Fin k → String} {params : Fin k → Parameters} (hk : 0 < k)
    (hs : s.store.FaultFree) (hfree : FreeFor bucket (s.store.users.get? account))
    {turns : List (Fin k)} {r : Race (fun _ => Except Failure Credentials) State}
    (hrun : (grants (fun _ => bucket) account params s).run (fun i => answer (callers i)) turns = r)
    {c : Fin k → Credentials} (hall : ∀ i, r.programs i = .done (.ok (c i))) :
    ∃ u, r.state.store.users.get? account = some u ∧
      u.policies.entries = [(Policy.name bucket, Policy.document bucket)] ∧
      (∀ id secret, u.keys.get? id = some secret → ∃ i, (c i).key = ⟨id, secret⟩) ∧
      r.state.keys = (fun n => s.keys (n + k)) ∧
      ∃ i, (c i).key = s.keys (k - 1) ∧ u.keys.get? (c i).key.id = some (c i).key.secret := by
  obtain ⟨φ, s', hφ, -, hinv⟩ : ∃ φ s', (grants (fun _ => bucket) account params s).run
      (fun i => answer (callers i)) turns = grantsAt (fun _ => bucket) account params φ s' ∧
      s'.store.FaultFree ∧ FailedOrSucceeding bucket account s.keys φ s' :=
    grants_invariant (P := fun _ => True)
      (fun φ s i next s' _ h hturn => FailedOrSucceeding.step h hturn) hs
      (FailedOrSucceeding.start hk hfree) fun _ _ => trivial
  rw [hφ] at hrun
  subst hrun
  have hended : ∀ i, φ i = .ended (.ok (c i)) := fun i => GrantPhase.program_eq_done_iff.1 (hall i)
  rcases hinv with ⟨i, f, hf⟩ | hinv
  · rw [hended i] at hf
    cases hf
  · have hsucceeded : ∀ i, (φ i).succeeded = true := fun i => by rw [hended i]; rfl
    obtain ⟨i, ci, hi, hkey, u, hu, hlive⟩ := hinv.last hsucceeded
    obtain rfl : c i = ci := by
      rw [hended i] at hi
      cases hi
      rfl
    have hkeys := hinv.keys
    rw [successes_eq hsucceeded] at hkeys
    have hholds := hinv.holds i (by rw [hended i]; rfl)
    have hfree' := hinv.free
    rw [hu] at hholds hfree'
    refine ⟨u, hu, hholds.entries hfree', fun id secret hsecret => ?_, hkeys, i, hkey, hlive⟩
    exact (hinv.accounted ⟨id, secret⟩ ⟨u, hu, hsecret⟩).exists_returned hk hended

/-- Three grants find the account as it was. The first one deletes the old key and ends, the others
list and delete the first one's key, and then both go on to draw one. -/
def relay : List (Fin 3) :=
  [0, 1, 2, 0, 1, 2, 0, 0, 0, 0, 1, 2, 1, 1, 2, 1, 2, 2].filterMap ((List.finRange 3)[·]?)

/-- All three succeed, the first one's key is dead, and the third one's is live. -/
theorem last_key_live_relay :
    ∃ r u, (grants (fun _ => "b") "u" (fun _ => sample) shared).run (fun _ => answer "AK") relay = r ∧
      (∀ i, r.programs i = .done (.ok (.ofKey (shared.keys i) sample))) ∧
      r.state.store.users.get? "u" = some u ∧ u.keys.get? (shared.keys 0).id = none ∧
      u.keys.get? (shared.keys 2).id = some (shared.keys 2).secret := by
  have hrun : (grants (fun _ => "b") "u" (fun _ => sample) shared).run (fun _ => answer "AK") relay =
    _ := rfl
  obtain ⟨u, hu, -, -, -, i, hkey, hlive⟩ := last_key_live (by decide) (fun _ => rfl) shared_freeFor
    hrun (c := fun i => .ofKey (shared.keys i) sample) (fun | 0 => rfl | 1 => rfl | 2 => rfl)
  refine ⟨_, u, hrun, fun | 0 => rfl | 1 => rfl | 2 => rfl, hu, ?_, ?_⟩
  · rw [← Option.some.inj hu]
    rfl
  · rw [hkey] at hlive
    exact hlive

end BucketDriver.Provision
