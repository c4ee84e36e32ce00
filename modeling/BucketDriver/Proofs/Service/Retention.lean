import BucketDriver.Proofs.Service.Isolation

/-!
# What other operations take from a grant

A grant is of a bucket to an account. Without faults, operations that do not name both leave the
user and the policy of the grant (`Holds.kept`, `Holds.stripped`), but a revocation from the account
takes the key whichever bucket it names, before it fails: `grant_kept_iff`.
-/

namespace BucketDriver.Service

open Memory (State Store UserRecord KeySource)
open Memory.Store (FaultFree TookOnly TookNone)
open Provision (FreeFor Ready Kept bare)

namespace Request

/-- A request for or against the grant of a bucket to an account. -/
def Names (bucket account : String) : Request → Prop
  | createBucket .. | deleteBucket .. => False
  | grant b a _ | revoke b a _ => b = bucket ∧ a = account

/-- A request to take a grant away from an account. -/
def Revokes (account : String) : Request → Prop
  | createBucket .. | deleteBucket .. | grant .. => False
  | revoke _ a _ => a = account

/-- A request about a bucket alone takes no grant away. -/
theorem not_revokes_of_objectStore {account : String} {q : Request}
    (hservice : q.service = .objectStore) : ¬ q.Revokes account := by
  cases q with
  | createBucket | deleteBucket | grant => exact id
  | revoke => cases hservice

end Request

/-- The state that operations without faults lead to from the empty store. -/
def reached (source : KeySource) (operations : List Operation) : State :=
  ((History.start source).run (operations.map .operation)).state

/-- Without faults queued, an account has the policy of a bucket and no other. -/
structure Holds (bucket account : String) (s : State) (r : UserRecord) : Prop where
  /-- No faults are queued. -/
  faultFree : s.store.FaultFree
  /-- The account exists. -/
  user : s.store.users.get? account = some r
  /-- It has the policy of the bucket and no other. -/
  policies : r.policies.entries = [(Policy.name bucket, Policy.document bucket)]

variable {bucket account : String} {s s' : State} {r : UserRecord} {o : Operation}
  {res : Except Failure Response}

namespace Holds

/-- The account is free for no other bucket. -/
theorem not_freeFor {b : String} (h : Holds bucket account s r) (hb : b ≠ bucket) :
    ¬ FreeFor b (s.store.users.get? account) := by
  intro hfree
  have hkeys : Policy.name bucket ∈ r.policies.keys := by
    unfold Dict.keys
    rw [h.policies]
    exact List.mem_cons_self
  have hname := hfree r h.user _ hkeys
  exact hb (Policy.name_inj.1 hname).symm

/-- An operation that neither names the grant nor revokes from the account leaves the account. -/
theorem kept (h : Holds bucket account s r) (hout : Outcome s o res s')
    (hnames : ¬ o.request.Names bucket account) (hrevokes : ¬ o.request.Revokes account) :
    Holds bucket account s' r := by
  refine ⟨h.faultFree.of_spends hout.spends, ?_, h.policies⟩
  -- A grant of another bucket gets no account ready that is not free, and leaves it as it is.
  rw [← h.user]
  cases hout with
  | bucket hservice hsame => rw [hsame.users]
  | @granted b a context p c s' hg =>
    by_cases ha : a = account
    · subst ha
      have hb : b ≠ bucket := fun hb => hnames ⟨hb, rfl⟩
      obtain ⟨_, hready, -⟩ := hg.record
      exact absurd hready.free (h.not_freeFor hb)
    · exact hg.others account (Ne.symm ha)
  | @refused b a context p f s' hr =>
    by_cases ha : a = account
    · subst ha
      have hb : b ≠ bucket := fun hb => hnames ⟨hb, rfl⟩
      rcases hr.record with (hsame | ⟨_, hready, -⟩) | ⟨_, hready, -⟩
      · exact hsame
      · exact absurd hready.free (h.not_freeFor hb)
      · exact absurd hready.free (h.not_freeFor hb)
    · exact hr.others account (Ne.symm ha)
  | revoked hr => exact hr.others account (Ne.symm hrevokes)
  | revokeFailed hr => exact hr.others account (Ne.symm hrevokes)

/-- A revocation of another bucket from the account fails and takes all its keys. -/
theorem stripped (h : Holds bucket account s r) (hout : Outcome s o res s')
    (hnames : ¬ o.request.Names bucket account) (hrevokes : o.request.Revokes account) :
    Holds bucket account s' ⟨r.policies, .empty⟩ := by
  refine ⟨h.faultFree.of_spends hout.spends, ?_, h.policies⟩
  cases hout with
  | bucket hservice hsame => exact absurd hrevokes (Request.not_revokes_of_objectStore hservice)
  | granted hg => exact hrevokes.elim
  | refused hr => exact hrevokes.elim
  | @revoked b a context p s' hr =>
    obtain rfl : a = account := hrevokes
    have hb : b ≠ bucket := fun hb => hnames ⟨hb, rfl⟩
    exact absurd (hr.gone (.of_faultFree h.faultFree)).2 (h.not_freeFor hb)
  | @revokeFailed b a context p f s' hr =>
    obtain rfl : a = account := hrevokes
    have hb : b ≠ bucket := fun hb => hnames ⟨hb, rfl⟩
    obtain ⟨old, hold, -, -, hbare⟩ := hr.cause (.of_faultFree h.faultFree)
    obtain rfl : r = old := Option.some.inj (h.user.symm.trans hold)
    -- The policy that the revocation is for is not there, so only the keys are missing.
    have hnone : r.policies.get? (Policy.name b) = none := by
      unfold Dict.get?
      rw [h.policies, Dict.valueOf, if_neg (fun hname => hb (Policy.name_inj.1 hname))]
      rfl
    rw [hbare, bare, Dict.erase_eq_self hnone]

/-- Operations that do not name the grant leave the user and the policies, and the keys exactly when
none of them revokes from the account: by induction on the operations. -/
theorem run {h : History} {after : List Operation} (hs : Holds bucket account h.state r)
    (hafter : ∀ o ∈ after, ¬ o.request.Names bucket account) :
    ∃ r', Holds bucket account (h.run (after.map .operation)).state r' ∧
      ((r'.keys = r.keys ∧ ∀ o ∈ after, ¬ o.request.Revokes account) ∨
        r'.keys = .empty ∧ ∃ o ∈ after, o.request.Revokes account) := by
  induction after generalizing h r with
  | nil => exact ⟨r, hs, .inl ⟨rfl, fun o ho => nomatch ho⟩⟩
  | cons o after ih =>
    obtain ⟨ho, hafter⟩ := List.forall_mem_cons.1 hafter
    have hout := o.outcome h.state
    by_cases hrevokes : o.request.Revokes account
    · have hnext : Holds bucket account (h.step (.operation o)).state ⟨r.policies, .empty⟩ :=
        hs.stripped hout ho hrevokes
      obtain ⟨r', hr', ⟨hkeys, -⟩ | ⟨hkeys, -⟩⟩ := ih hnext hafter
      · exact ⟨r', hr', .inr ⟨hkeys, o, List.mem_cons_self, hrevokes⟩⟩
      · exact ⟨r', hr', .inr ⟨hkeys, o, List.mem_cons_self, hrevokes⟩⟩
    · have hnext : Holds bucket account (h.step (.operation o)).state r :=
        hs.kept hout ho hrevokes
      obtain ⟨r', hr', ⟨hkeys, hnone⟩ | ⟨hkeys, o', ho', hsome⟩⟩ := ih hnext hafter
      · exact ⟨r', hr', .inl ⟨hkeys, List.forall_mem_cons.2 ⟨hrevokes, hnone⟩⟩⟩
      · exact ⟨r', hr', .inr ⟨hkeys, o', List.mem_cons_of_mem o ho', hsome⟩⟩

end Holds

/-- Operations run one after the other. -/
theorem reached_append (source : KeySource) (before after : List Operation) (o : Operation) :
    reached source (before ++ o :: after) =
      ((((History.start source).run (before.map .operation)).step (.operation o)).run
        (after.map .operation)).state := by
  unfold reached History.run
  rw [List.map_append, List.foldl_append, List.map_cons, List.foldl_cons]

/-- Operations queue no faults. -/
theorem faultFree_reached (source : KeySource) (operations : List Operation) :
    (reached source operations).store.FaultFree := by
  have hstep : ∀ h e, (∃ o, e = Event.operation o) → h.state.store.FaultFree →
      (History.step h e).state.store.FaultFree := by
    rintro h _ ⟨o, rfl⟩ hfree
    exact hfree.of_spends (o.outcome h.state).spends
  refine History.run_invariant hstep (fun _ => rfl) fun e he => ?_
  obtain ⟨o, -, rfl⟩ := List.mem_map.1 he
  exact ⟨o, rfl⟩

/-- After a successful grant without faults the account has the policy and the key and no other. -/
theorem holds_of_granted {p : Parameters} {c : Credentials} (hfree : s.store.FaultFree)
    (hg : Provision.Granted bucket account p s s' c) :
    ∃ r, Holds bucket account s' r ∧ r.keys.get? c.key.id = some c.key.secret := by
  obtain ⟨r, hready, hu, -⟩ := hg.record
  refine ⟨_, ⟨hfree.of_spends hg.spends, hu, hready.attached_policies⟩, ?_⟩
  rw [hg.credentials]
  exact Dict.get?_insert_self _ _ _

/-- What is kept of a grant. After a successful grant without faults, and any operations without
faults that do not name its bucket and its account, the user is there with the policy of the bucket
and no other, and the key of the grant is there exactly when none of the operations revokes from the
account. -/
theorem grant_kept_iff (source : KeySource) (before after : List Operation)
    {bucket account : String} {context : Dict String} {p : Parameters} {c : Credentials}
    (hgrant : (Operation.run ⟨.grant bucket account context, p⟩ (reached source before)).1 =
      .ok (.granted account c))
    (hafter : ∀ o ∈ after, ¬ o.request.Names bucket account) :
    ∃ r, (reached source
        (before ++ ⟨.grant bucket account context, p⟩ :: after)).store.users.get? account = some r ∧
      r.policies.entries = [(Policy.name bucket, Policy.document bucket)] ∧
      (r.keys.get? c.key.id = some c.key.secret ↔ ∀ o ∈ after, ¬ o.request.Revokes account) := by
  have hout := Operation.outcome ⟨.grant bucket account context, p⟩ (reached source before)
  rw [hgrant] at hout
  cases hout with
  | bucket hservice => cases hservice
  | granted hg =>
    obtain ⟨r, hr, hkey⟩ := holds_of_granted (faultFree_reached source before) hg
    let h : History := ((History.start source).run (before.map .operation)).step
      (.operation ⟨.grant bucket account context, p⟩)
    have hs : Holds bucket account h.state r := hr
    obtain ⟨r', hr', hkeys⟩ := hs.run hafter
    rw [reached_append]
    refine ⟨r', hr'.user, hr'.policies, ?_⟩
    rcases hkeys with ⟨hkeys, hnone⟩ | ⟨hkeys, o, ho, hsome⟩
    · rw [hkeys]
      exact iff_of_true hkey hnone
    · rw [hkeys]
      exact iff_of_false (fun hlost => nomatch hlost) fun hnone => hnone o ho hsome

/-- Without a revocation from the account the key of a grant is kept, whatever other grants and
revocations there are. -/
theorem grant_kept_iff_regranted :
    ∃ r, (reached longerKeys [grantOf "b1" "u", grantOf "b2" "u",
        revokeOf "b1" "v"]).store.users.get? "u" = some r ∧
      r.policies.entries = [(Policy.name "b1", Policy.document "b1")] ∧
      r.keys.get? (longerKeys 0).id = some (longerKeys 0).secret := by
  have hgrant : ((grantOf "b1" "u").run (reached longerKeys [])).1 =
      .ok (.granted "u" (.ofKey (longerKeys 0) Provision.sample)) := rfl
  have hafter : ∀ o ∈ [grantOf "b2" "u", revokeOf "b1" "v"],
      ¬ o.request.Names "b1" "u" ∧ ¬ o.request.Revokes "u" := by
    intro o ho
    simp only [List.mem_cons, List.not_mem_nil, or_false] at ho
    rcases ho with rfl | rfl <;> simp [grantOf, revokeOf, Request.Names, Request.Revokes]
  obtain ⟨r, hr, hpolicies, hkey⟩ :=
    grant_kept_iff longerKeys [] [grantOf "b2" "u", revokeOf "b1" "v"] hgrant
      fun o ho => (hafter o ho).1
  exact ⟨r, hr, hpolicies, hkey.2 fun o ho => (hafter o ho).2⟩

/-- Not every successful grant is kept by the operations that do not name it: a revocation of
another bucket from its account takes the key. -/
theorem not_forall_grant_kept :
    ¬ ∀ (source : KeySource) (before after : List Operation) (bucket account : String)
        (context : Dict String) (p : Parameters) (c : Credentials),
      (Operation.run ⟨.grant bucket account context, p⟩ (reached source before)).1 =
        .ok (.granted account c) →
      (∀ o ∈ after, ¬ o.request.Names bucket account) →
      ∃ r, (reached source
          (before ++ ⟨.grant bucket account context, p⟩ :: after)).store.users.get? account =
          some r ∧
        r.policies.get? (Policy.name bucket) = some (Policy.document bucket) ∧
        r.keys.get? c.key.id = some c.key.secret := by
  intro h
  have hafter : ∀ o ∈ [revokeOf "b2" "u"], ¬ o.request.Names "b1" "u" := by
    intro o ho hnames
    obtain rfl := List.mem_singleton.1 ho
    exact absurd hnames.1 (by decide)
  obtain ⟨r, hr, -, hkey⟩ := h longerKeys [] [revokeOf "b2" "u"] "b1" "u" .empty Provision.sample
    (.ofKey (longerKeys 0) Provision.sample) rfl hafter
  have hgone : some r.keys = some .empty := congrArg (Option.map UserRecord.keys) hr.symm
  rw [Option.some.inj hgone] at hkey
  cases hkey

end BucketDriver.Service
