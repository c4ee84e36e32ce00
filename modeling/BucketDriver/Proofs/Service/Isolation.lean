import BucketDriver.Proofs.Service.History

/-!
# No key comes to open another bucket

In every history from the empty store, with any faults queued along the way, the inline policies of
a user open at most one bucket (`OpensOnly`), and a key that was given out for a bucket is on a user
whose policies open that bucket or none, as long as no fault says that a key to be deleted is gone:
`issued_key_opens_only_its_bucket`.

What a user has is either taken away or given by a grant, so a property that lasts while things are
taken away (`Lasting`) has to be looked at only where grants give something (`EveryUser.granted`,
`EveryUser.refused`). The invariants are `Sound`, which also says that the keys to come are new, and
`Isolated`.
-/

namespace BucketDriver.Service

open Memory (State Store UserRecord KeySource Confined)
open Memory.Store (Spends TookOnly TookNoAbsence)
open Provision (Granted Refused Revoked RevokeFailed Ready Stripped Remains attached)

/-- Inline policies that open no bucket but one: none at all, or the bucket's own and no other. -/
def OpensOnly (bucket : String) (policies : Dict String) : Prop :=
  policies.entries = [] ∨ policies.entries = [(Policy.name bucket, Policy.document bucket)]

/-- Every user of a store has a property. -/
def EveryUser (P : UserRecord → Prop) (store : Store) : Prop :=
  ∀ user r, store.users.get? user = some r → P r

/-- A property of users that have nothing, which lasts when policies and keys are taken away. -/
structure Lasting (P : UserRecord → Prop) : Prop where
  /-- A new user has it. -/
  new : P .new
  /-- It lasts when keys and a policy are taken away. -/
  stripped : ∀ bucket old r, Stripped bucket old r → P old → P r

variable {bucket account : String} {p : Parameters} {s s' : State} {P : UserRecord → Prop}

namespace Lasting

/-- An account that was made ready has the property that all users had. -/
theorem of_ready (hP : Lasting P) (hs : EveryUser P s.store) {r : UserRecord}
    (hready : Ready bucket (s.store.users.get? account) r) : P r := by
  have hstripped : Stripped bucket ((s.store.users.get? account).getD .new) r :=
    ⟨.inl hready.policies, hready.keys⟩
  cases hold : s.store.users.get? account with
  | none =>
    rw [hold] at hstripped
    exact hP.stripped bucket _ r hstripped hP.new
  | some old =>
    rw [hold] at hstripped
    exact hP.stripped bucket old r hstripped (hs account old hold)

/-- What remains of an account has the property that all users had. -/
theorem of_remains (hP : Lasting P) (hs : EveryUser P s.store) {after : Option UserRecord}
    (hremains : Remains bucket (s.store.users.get? account) after) {r : UserRecord}
    (hr : after = some r) : P r := by
  obtain ⟨old, hold, hstripped⟩ := hremains r hr
  exact hP.stripped bucket old r hstripped (hs account old hold)

end Lasting

namespace EveryUser

/-- Where one user differs, it is enough to look at that user. -/
theorem of_confined {t t' : Store} (hs : EveryUser P t) (hconf : Confined account t t')
    (haccount : ∀ r, t'.users.get? account = some r → P r) : EveryUser P t' := by
  intro user r hr
  by_cases huser : user = account
  · rw [huser] at hr
    exact haccount r hr
  · rw [hconf.others user huser] at hr
    exact hs user r hr

/-- After a successful grant it is enough to look at the account with its policy and its key. -/
theorem granted {c : Credentials} (hP : Lasting P) (hs : EveryUser P s.store)
    (h : Granted bucket account p s s' c)
    (hgiven : ∀ r, Ready bucket (s.store.users.get? account) r → P r →
      (TookNoAbsence [.deleteAccessKey] s.store s'.store → r.keys = .empty) →
      P ((attached bucket r).withKey (s.keys 0))) : EveryUser P s'.store := by
  obtain ⟨r, hready, hu, hgone⟩ := h.record
  refine hs.of_confined h.toConfined fun r' hr' => ?_
  rw [hu] at hr'
  obtain rfl := Option.some.inj hr'
  exact hgiven r hready (hP.of_ready hs hready) hgone

/-- After a failed grant it is enough to look at the account with its policy. -/
theorem refused {f : Failure} (hP : Lasting P) (hs : EveryUser P s.store)
    (h : Refused bucket account s s' f)
    (hgiven : ∀ r, Ready bucket (s.store.users.get? account) r → P r →
      (TookNoAbsence [.deleteAccessKey] s.store s'.store → r.keys = .empty) →
      P (attached bucket r)) : EveryUser P s'.store := by
  refine hs.of_confined h.toConfined fun r' hr' => ?_
  rcases h.record with (hsame | ⟨r, hready, hu⟩) | ⟨r, hready, hu, hgone⟩
  · rw [hsame] at hr'
    exact hs account r' hr'
  · rw [hu] at hr'
    obtain rfl := Option.some.inj hr'
    exact hP.of_ready hs hready
  · rw [hu] at hr'
    obtain rfl := Option.some.inj hr'
    exact hgiven r hready (hP.of_ready hs hready) hgone

/-- A successful revocation takes away only. -/
theorem revoked (hP : Lasting P) (hs : EveryUser P s.store) (h : Revoked bucket account s s') :
    EveryUser P s'.store :=
  hs.of_confined h.toConfined fun _ hr => hP.of_remains hs h.record hr

/-- A failed revocation takes away only. -/
theorem revokeFailed {f : Failure} (hP : Lasting P) (hs : EveryUser P s.store)
    (h : RevokeFailed bucket account s s' f) : EveryUser P s'.store :=
  hs.of_confined h.toConfined fun _ hr => hP.of_remains hs h.record hr

end EveryUser

/-! ## Properties that last -/

/-- Policies that open no bucket but one do so still when one is taken away. -/
theorem OpensOnly.of_stripped {b : String} {old r : UserRecord} (h : OpensOnly b old.policies)
    (hstripped : Stripped bucket old r) : OpensOnly b r.policies := by
  rcases hstripped.policies with hsame | herase
  · rw [hsame]
    exact h
  · have hentries : r.policies.entries =
        old.policies.entries.filter (·.1 ≠ Policy.name bucket) := by
      rw [herase]
      rfl
    rcases h with hnone | hsole
    · left
      rw [hentries, hnone]
      rfl
    · rw [hsole, List.filter_cons] at hentries
      split at hentries
      · exact .inr hentries
      · exact .inl hentries

/-- The only bucket that has its policy there is the one opened. -/
theorem OpensOnly.eq_of_get? {b b' : String} {policies : Dict String} (h : OpensOnly b policies)
    (hget : policies.get? (Policy.name b') ≠ none) : b' = b := by
  unfold Dict.get? at hget
  rcases h with hnone | hsole
  · rw [hnone] at hget
    exact absurd rfl hget
  · rw [hsole, Dict.valueOf] at hget
    split at hget
    case isTrue hname => exact Policy.name_inj.1 hname
    case isFalse => exact absurd rfl hget

/-- That the policies of a user open one bucket at most lasts. -/
theorem lasting_opens : Lasting fun r => ∃ b, OpensOnly b r.policies where
  new := ⟨"", .inl rfl⟩
  stripped := by
    intro bucket old r hstripped ⟨b, hb⟩
    exact ⟨b, hb.of_stripped hstripped⟩

/-- That a user does not have a key lasts. -/
theorem lasting_without (id : String) : Lasting fun r => r.keys.get? id = none where
  new := rfl
  stripped _ _ _ hstripped hold := Dict.get?_eq_none_of_subset hstripped.keys hold

/-- A user with the key opens no bucket but one. -/
def KeyOpensOnly (bucket id : String) (r : UserRecord) : Prop :=
  r.keys.get? id ≠ none → OpensOnly bucket r.policies

/-- That a user with a key opens no bucket but one lasts. -/
theorem lasting_keyOpensOnly (b id : String) : Lasting (KeyOpensOnly b id) where
  new := fun hid => absurd rfl hid
  stripped := by
    intro bucket old r hstripped hold hid
    refine (hold fun hnone => hid ?_).of_stripped hstripped
    exact Dict.get?_eq_none_of_subset hstripped.keys hnone

/-! ## The invariants -/

/-- What holds of every history: each user's policies open one bucket at most, and the keys to come
are new. -/
structure Sound (h : History) : Prop where
  /-- Each user's policies open one bucket at most. -/
  opens : EveryUser (fun r => ∃ b, OpensOnly b r.policies) h.state.store
  /-- No key will come twice. -/
  distinct : ∀ i j, (h.state.keys i).id = (h.state.keys j).id → i = j
  /-- No user has a key that is to come. -/
  unused : ∀ i, EveryUser (fun r => r.keys.get? (h.state.keys i).id = none) h.state.store
  /-- No key that is to come was given out. -/
  unissued : ∀ i, ∀ k ∈ h.issued, k.key.id ≠ (h.state.keys i).id

/-- What holds of a history without faults that say that a key to be deleted is gone. -/
structure Isolated (h : History) : Prop extends Sound h where
  /-- No such fault is queued. -/
  honest : ∀ code ∈ h.state.store.faults .deleteAccessKey, ¬ IsAbsenceCode code
  /-- A user with a key opens only the bucket that the key was given out for. -/
  issuedOpens : ∀ k ∈ h.issued, EveryUser (KeyOpensOnly k.bucket k.key.id) h.state.store

variable {h : History} {o : Operation} {res : Except Failure Response}

/-- Where keys come as before and none was given out, only the users are to be looked at. -/
theorem Sound.of_users {given : List Issued} (hs : Sound h) (hgiven : given = h.issued)
    (hkeys : s'.keys = h.state.keys)
    (hopens : EveryUser (fun r => ∃ b, OpensOnly b r.policies) s'.store)
    (hunused : ∀ i, EveryUser (fun r => r.keys.get? (h.state.keys i).id = none) s'.store) :
    Sound ⟨s', given⟩ := by
  subst hgiven
  refine ⟨hopens, ?_, ?_, ?_⟩ <;> dsimp only <;> rw [hkeys]
  · exact hs.distinct
  · exact hunused
  · exact hs.unissued

/-- A successful grant keeps a history sound: the policies are the bucket's own, and the key is the
first of those to come, which are all different. -/
theorem Sound.granted {c : Credentials} (hs : Sound h) (hg : Granted bucket account p h.state s' c) :
    Sound ⟨s', h.issued ++ [⟨bucket, c.key⟩]⟩ := by
  -- The keys to come are those behind the one that was drawn, so they are other keys.
  have hnext : ∀ i, s'.keys i = h.state.keys (i + 1) := fun i => by rw [hg.keys]
  have hne : ∀ i, (h.state.keys (i + 1)).id ≠ (h.state.keys 0).id := fun i heq =>
    absurd (hs.distinct _ _ heq) (Nat.succ_ne_zero i)
  refine ⟨?_, ?_, ?_, ?_⟩ <;> dsimp only
  · refine hs.opens.granted lasting_opens hg fun r hready _ _ => ?_
    exact ⟨bucket, .inr hready.attached_policies⟩
  · intro i j hij
    rw [hnext, hnext] at hij
    exact Nat.succ.inj (hs.distinct _ _ hij)
  · intro i
    rw [hnext]
    refine (hs.unused (i + 1)).granted (lasting_without _) hg fun r _ hr _ => ?_
    unfold UserRecord.withKey
    dsimp only
    rw [Dict.get?_insert, if_neg (hne i)]
    exact hr
  · intro i k hk
    rw [hnext]
    rcases List.mem_append.1 hk with hk | hk
    · exact hs.unissued (i + 1) k hk
    · obtain rfl := List.mem_singleton.1 hk
      rw [hg.credentials]
      exact (hne i).symm

/-- Every operation keeps a history sound. -/
theorem Sound.outcome (hs : Sound h) (hout : Outcome h.state o res s') :
    Sound ⟨s', h.issued ++ o.issued res⟩ := by
  cases hout with
  | granted hg => exact hs.granted hg
  | bucket hservice hsame =>
    have hnone : h.issued ++ o.issued res = h.issued := by
      rw [Operation.issued_of_objectStore hservice, List.append_nil]
    refine hs.of_users hnone hsame.keys ?_ ?_ <;> unfold EveryUser <;> rw [hsame.users]
    · exact hs.opens
    · exact hs.unused
  | refused hr =>
    refine hs.of_users (List.append_nil _) hr.keys ?_ fun i => ?_
    · refine hs.opens.refused lasting_opens hr fun r hready _ _ => ?_
      exact ⟨_, .inr hready.attached_policies⟩
    · exact (hs.unused i).refused (lasting_without _) hr fun r _ hr _ => hr
  | revoked hr =>
    refine hs.of_users (List.append_nil _) hr.keys ?_ fun i => ?_
    · exact hs.opens.revoked lasting_opens hr
    · exact (hs.unused i).revoked (lasting_without _) hr
  | revokeFailed hr =>
    refine hs.of_users (List.append_nil _) hr.keys ?_ fun i => ?_
    · exact hs.opens.revokeFailed lasting_opens hr
    · exact (hs.unused i).revokeFailed (lasting_without _) hr

/-- Every event keeps a history sound. -/
theorem Sound.step (hs : Sound h) (e : Event) : Sound (h.step e) := by
  cases e with
  | operation o => exact hs.outcome (o.outcome h.state)
  | fault kind code => exact hs.of_users rfl rfl hs.opens hs.unused

/-- No fault says of a key to be deleted that it is gone. -/
def Event.Honest (e : Event) : Prop :=
  ∀ code, e = .fault .deleteAccessKey code → ¬ IsAbsenceCode code

/-- What an operation takes of an honest queue are honest faults. -/
theorem Isolated.tookNoAbsence (hs : Isolated h) :
    TookNoAbsence [.deleteAccessKey] h.state.store s'.store := by
  refine TookOnly.of_queued fun kind hkind => ?_
  obtain rfl := List.mem_singleton.1 hkind
  exact hs.honest

/-- A key of before opens what it opened: where a bucket's policy is attached, no key of before is
left. -/
theorem Isolated.kept (hs : Isolated h) (hout : Outcome h.state o res s') {k : Issued}
    (hk : k ∈ h.issued) : EveryUser (KeyOpensOnly k.bucket k.key.id) s'.store := by
  have hlasting := lasting_keyOpensOnly k.bucket k.key.id
  have hold := hs.issuedOpens k hk
  have hid := hs.unissued 0 k hk
  cases hout with
  | bucket hservice hsame =>
    unfold EveryUser
    rw [hsame.users]
    exact hold
  | granted hg =>
    refine hold.granted hlasting hg fun r _ _ hgone hkey => ?_
    unfold attached UserRecord.withKey UserRecord.withPolicy at hkey
    dsimp only at hkey
    -- All keys of before were deleted, and the new one is another.
    rw [hgone hs.tookNoAbsence, Dict.get?_insert, if_neg hid] at hkey
    exact absurd rfl hkey
  | refused hr =>
    refine hold.refused hlasting hr fun r _ _ hgone hkey => ?_
    unfold attached UserRecord.withPolicy at hkey
    dsimp only at hkey
    rw [hgone hs.tookNoAbsence] at hkey
    exact absurd rfl hkey
  | revoked hr => exact hold.revoked hlasting hr
  | revokeFailed hr => exact hold.revokeFailed hlasting hr

/-- A key that an operation gives out opens the bucket it is given out for: no account had it
before, and the one that gets it has the policy of that bucket and no other. -/
theorem Isolated.given (hs : Isolated h) (hout : Outcome h.state o res s') {k : Issued}
    (hk : k ∈ o.issued res) : EveryUser (KeyOpensOnly k.bucket k.key.id) s'.store := by
  obtain ⟨account, p, c, hg, hkey⟩ := hout.granted_of_mem_issued hk
  have hold : EveryUser (KeyOpensOnly k.bucket k.key.id) h.state.store := by
    intro user r hr hid
    rw [hkey, hg.credentials] at hid
    exact absurd (hs.unused 0 user r hr) hid
  refine hold.granted (lasting_keyOpensOnly _ _) hg fun r hready _ _ _ => ?_
  exact .inr hready.attached_policies

/-- Every operation keeps a history isolated. -/
theorem Isolated.outcome (hs : Isolated h) (hout : Outcome h.state o res s') :
    Isolated ⟨s', h.issued ++ o.issued res⟩ := by
  refine ⟨hs.toSound.outcome hout, ?_, ?_⟩
  · intro code hcode
    exact hs.honest code ((hout.spends .deleteAccessKey).subset hcode)
  · intro k hk
    rcases List.mem_append.1 hk with hk | hk
    · exact hs.kept hout hk
    · exact hs.given hout hk

/-- Every honest event keeps a history isolated. -/
theorem Isolated.step (hs : Isolated h) {e : Event} (he : e.Honest) : Isolated (h.step e) := by
  cases e with
  | operation o => exact hs.outcome (o.outcome h.state)
  | fault kind code =>
    refine ⟨hs.toSound.step _, ?_, hs.issuedOpens⟩
    intro queued hqueued
    unfold History.step Store.failNext Store.setFaults at hqueued
    dsimp only at hqueued
    split at hqueued
    case isTrue hkind =>
      rw [← hkind] at hqueued
      rcases List.mem_append.1 hqueued with hqueued | hqueued
      · exact hs.honest queued hqueued
      · obtain rfl := List.mem_singleton.1 hqueued
        exact he queued (by rw [hkind])
    case isFalse => exact hs.honest queued hqueued

/-! ## All histories -/

variable {events : List Event} {source : KeySource}

/-- Events keep a history sound, by induction on them. -/
theorem Sound.run (hs : Sound h) (events : List Event) : Sound (h.run events) := by
  have hstep : ∀ h e, True → Sound h → Sound (h.step e) := fun _ e _ hs => hs.step e
  exact History.run_invariant hstep hs fun _ _ => trivial

/-- Honest events keep a history isolated, by induction on them. -/
theorem Isolated.run (hs : Isolated h) (hevents : ∀ e ∈ events, e.Honest) :
    Isolated (h.run events) := by
  have hstep : ∀ h e, Event.Honest e → Isolated h → Isolated (h.step e) :=
    fun _ _ he hs => hs.step he
  exact History.run_invariant hstep hs hevents

/-- At the start there are no users, and nothing is queued. -/
theorem Isolated.start (hsource : ∀ i j, (source i).id = (source j).id → i = j) :
    Isolated (.start source) where
  opens := fun _ _ hr => nomatch hr
  distinct := hsource
  unused := fun _ _ _ hr => nomatch hr
  unissued := fun _ _ hk => nomatch hk
  honest := fun _ hcode => nomatch hcode
  issuedOpens := fun _ hk => nomatch hk

/-- No key comes to open another bucket. In every history from the empty store, of operations and
faults in any order, with keys that never repeat: each user's policies open one bucket at most, and
unless a fault said that a key to be deleted was gone, whoever has a key that was given out for a
bucket has inline policies that open that bucket and no other. -/
theorem issued_key_opens_only_its_bucket (hsource : ∀ i j, (source i).id = (source j).id → i = j)
    (events : List Event) :
    let h := (History.start source).run events
    (∀ user r, h.state.store.users.get? user = some r → ∃ b, OpensOnly b r.policies) ∧
    ((∀ code, .fault .deleteAccessKey code ∈ events → ¬ IsAbsenceCode code) →
      ∀ k ∈ h.issued, ∀ user r, h.state.store.users.get? user = some r →
        r.keys.get? k.key.id ≠ none →
        OpensOnly k.bucket r.policies ∧
          ∀ b, r.policies.get? (Policy.name b) ≠ none → b = k.bucket) := by
  have hstart := Isolated.start hsource
  constructor
  · exact (hstart.toSound.run events).opens
  · intro hhonest k hk user r hr hid
    have hisolated : Isolated ((History.start source).run events) := by
      refine hstart.run fun e he code hcode => hhonest code ?_
      rw [← hcode]
      exact he
    have hopens : OpensOnly k.bucket r.policies := hisolated.issuedOpens k hk user r hr hid
    exact ⟨hopens, fun b hb => hopens.eq_of_get? hb⟩

/-- Keys that never repeat: the next one is longer. -/
def longerKeys : KeySource :=
  fun n => ⟨String.ofList (List.replicate n 'k'), "secret"⟩

/-- A grant with the parameters of single runs. -/
def grantOf (bucket account : String) : Operation :=
  ⟨.grant bucket account .empty, Provision.sample⟩

/-- A revocation with the parameters of single runs. -/
def revokeOf (bucket account : String) : Operation :=
  ⟨.revoke bucket account .empty, Provision.sample⟩

/-- A grant, a revocation that stops half-way, and a grant of another bucket to the account. -/
def handover : List Event :=
  [.operation (grantOf "b1" "u"), .fault .deleteAccessKey "Throttling",
    .operation (revokeOf "b1" "u"), .operation (grantOf "b2" "u")]

/-- The account that the second grant has adopted has the second key, which opens its bucket only.
-/
theorem issued_key_opens_only_its_bucket_handover :
    ∃ r, ((History.start longerKeys).run handover).state.store.users.get? "u" = some r ∧
      r.keys.get? (longerKeys 1).id ≠ none ∧ OpensOnly "b2" r.policies := by
  have hsource : ∀ i j, (longerKeys i).id = (longerKeys j).id → i = j := by
    intro i j hij
    have hlength := congrArg List.length (String.ofList_injective hij)
    simpa using hlength
  have hhonest : ∀ code, .fault .deleteAccessKey code ∈ handover → ¬ IsAbsenceCode code := by
    intro code hcode
    obtain rfl : code = "Throttling" := by simpa [handover] using hcode
    decide
  have hissued : ⟨"b2", longerKeys 1⟩ ∈ ((History.start longerKeys).run handover).issued :=
    List.mem_cons_of_mem _ List.mem_cons_self
  have hall := (issued_key_opens_only_its_bucket hsource handover).2 hhonest _ hissued
  exact ⟨_, rfl, by decide, (hall "u" _ rfl (by decide)).1⟩

end BucketDriver.Service
