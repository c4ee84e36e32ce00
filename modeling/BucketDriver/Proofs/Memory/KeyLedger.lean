import Mathlib.Logic.Function.Basic
import BucketDriver.Proofs.Memory.Account

/-!
# The ledger of keys

A run of the memory store: calls by whoever makes them, and faults queued between them, in any
order. `Logged` keeps the state with the calls answered so far. A key is `Live` on a user when the
store has it there with its secret, and `Outstanding` when a call has created it for the user and no
later one has deleted it. `keys_accounted` says that the two are the same after every run in which
no identifier is drawn twice, and what follows from it for quotas and for the deletion of users.

The store's keys are looked at as a function of the user (`Store.keysOf`), in which users without
keys and users that do not exist are alike. `KeyEffect` says once what a call can do to that
function, and `Balanced` is the invariant.
-/

namespace BucketDriver.Memory

/-! ## Runs -/

/-- A call with the result that it was answered with. -/
structure Answered where
  /-- The call. -/
  call : Call
  /-- The result. -/
  result : call.Result

namespace Answered

/-- A key was created for a user. -/
def created (user : String) (key : AccessKey) : Answered :=
  ⟨.createAccessKey user, .ok key⟩

/-- A key of a user was deleted. -/
def deleted (user keyId : String) : Answered :=
  ⟨.deleteAccessKey user keyId, .ok ()⟩

/-- A key was created or deleted. -/
def MovesKey : Answered → Prop
  | ⟨.createAccessKey _, .ok _⟩ | ⟨.deleteAccessKey _ _, .ok _⟩ => True
  | _ => False

@[simp] theorem created_inj {user user' : String} {key key' : AccessKey} :
    created user key = created user' key' ↔ user = user' ∧ key = key' := by
  constructor
  · intro h
    cases h
    exact ⟨rfl, rfl⟩
  · rintro ⟨rfl, rfl⟩
    rfl

@[simp] theorem deleted_inj {user user' id id' : String} :
    deleted user id = deleted user' id' ↔ user = user' ∧ id = id' := by
  constructor
  · intro h
    cases h
    exact ⟨rfl, rfl⟩
  · rintro ⟨rfl, rfl⟩
    rfl

@[simp] theorem created_ne_deleted {user user' id : String} {key : AccessKey} :
    created user key ≠ deleted user' id := nofun

@[simp] theorem deleted_ne_created {user user' id : String} {key : AccessKey} :
    deleted user' id ≠ created user key := nofun

/-- A call that fails moves no key. -/
theorem not_movesKey_of_error (c : Call) (e : ProviderError) : ¬ MovesKey ⟨c, .error e⟩ := by
  cases c <;> exact id

end Answered

open Answered (created deleted MovesKey)

/-- What can happen to the store. -/
inductive Event where
  /-- The key of a caller makes a call. -/
  | call (caller : String) (c : Call)
  /-- A fault is queued. -/
  | fault (kind : CallKind) (code : String)

/-- A state and the calls answered on the way to it. -/
structure Logged where
  /-- The state. -/
  state : State
  /-- The calls with their results, the first one first. -/
  log : List Answered

namespace Logged

/-- The empty store, before any call. -/
def start (source : KeySource) : Logged :=
  ⟨⟨.empty, source⟩, []⟩

/-- The run with one more event. -/
def step (h : Logged) : Event → Logged
  | .call caller c =>
    ⟨(answer caller c h.state).2, h.log ++ [⟨c, (answer caller c h.state).1⟩]⟩
  | .fault kind code => { h with state := { h.state with store := h.state.store.failNext kind code } }

/-- The run with more events. -/
def run (h : Logged) (events : List Event) : Logged :=
  events.foldl step h

end Logged

/-- The secrets of a user's keys, by identifier; none for a user that does not exist. -/
def Store.keysOf (s : Store) (user : String) : Dict String :=
  ((s.users.get? user).map (·.keys)).getD .empty

/-- A key is on a user, with its secret. -/
def Live (s : Store) (user : String) (key : AccessKey) : Prop :=
  (s.keysOf user).get? key.id = some key.secret

/-- A call has created a key for a user, and none after it has deleted the key. -/
def Outstanding (log : List Answered) (user : String) (key : AccessKey) : Prop :=
  ∃ before after, log = before ++ created user key :: after ∧ deleted user key.id ∉ after

variable {log : List Answered} {e : Answered} {user : String} {key : AccessKey}

/-- A key is outstanding after one more call when that call created it, or when it was outstanding
and the call did not delete it. -/
theorem outstanding_concat :
    Outstanding (log ++ [e]) user key ↔
      e = created user key ∨ (Outstanding log user key ∧ e ≠ deleted user key.id) := by
  constructor
  · rintro ⟨before, after, hlog, hkept⟩
    rcases List.eq_nil_or_concat after with rfl | ⟨earlier, last, rfl⟩
    · obtain ⟨-, hlast⟩ := List.append_inj' hlog rfl
      exact .inl (List.singleton_inj.1 hlast)
    · have hlog' : log ++ [e] = (before ++ created user key :: earlier) ++ [last] := by
        simpa using hlog
      obtain ⟨hfront, hlast⟩ := List.append_inj' hlog' rfl
      obtain rfl := List.singleton_inj.1 hlast
      simp only [List.concat_eq_append, List.mem_append, List.mem_singleton, not_or] at hkept
      exact .inr ⟨⟨before, earlier, hfront, hkept.1⟩, Ne.symm hkept.2⟩
  · rintro (rfl | ⟨⟨before, after, rfl, hkept⟩, hne⟩)
    · exact ⟨log, [], rfl, List.not_mem_nil⟩
    · refine ⟨before, after ++ [e], by simp, ?_⟩
      simpa [hkept] using hne.symm

/-! ## What a call does to keys -/

namespace Store

variable {s : Store} {record : UserRecord}

theorem keysOf_of_get? (h : s.users.get? user = some record) : s.keysOf user = record.keys := by
  rw [keysOf, h]
  rfl

theorem keysOf_of_absent (h : s.users.get? user = none) : s.keysOf user = .empty := by
  rw [keysOf, h]
  rfl

/-- With its record a user's keys are replaced. -/
theorem keysOf_setUser (s : Store) (user : String) (record : UserRecord) :
    (s.setUser user record).keysOf = Function.update s.keysOf user record.keys := by
  funext u
  by_cases hu : u = user
  · rw [hu, Function.update_self, keysOf_of_get? get?_setUser_self]
  · rw [Function.update_of_ne hu, keysOf, get?_setUser, if_neg hu]
    rfl

/-- A user that is dropped has no keys. -/
theorem keysOf_dropUser (s : Store) (user : String) :
    (s.dropUser user).keysOf = Function.update s.keysOf user .empty := by
  funext u
  by_cases hu : u = user
  · rw [hu, Function.update_self, keysOf_of_absent get?_dropUser_self]
  · rw [Function.update_of_ne hu, keysOf, get?_dropUser, if_neg hu]
    rfl

/-- A record with the keys that the user has changes no keys. -/
theorem keysOf_setUser_eq_self (h : record.keys = s.keysOf user) :
    (s.setUser user record).keysOf = s.keysOf := by
  rw [keysOf_setUser, h, Function.update_eq_self]

end Store

/-- What a call that is answered can do to the keys on users and to those to come. -/
inductive KeyEffect (s : State) : Answered → State → Prop where
  /-- No key is moved. -/
  | kept {e : Answered} {s' : State} (moves : ¬ e.MovesKey)
    (same : s'.store.keysOf = s.store.keysOf) (keys : s'.keys = s.keys) : KeyEffect s e s'
  /-- The next key is put on a user that has room for it. -/
  | created (user : String) {s' : State} (room : (s.store.keysOf user).size < maxKeys)
    (put : s'.store.keysOf = Function.update s.store.keysOf user
      ((s.store.keysOf user).insert (s.keys 0).id (s.keys 0).secret))
    (keys : s'.keys = fun n => s.keys (n + 1)) : KeyEffect s (created user (s.keys 0)) s'
  /-- A key of a user is taken away. -/
  | deleted (user keyId : String) {s' : State}
    (taken : s'.store.keysOf = Function.update s.store.keysOf user
      ((s.store.keysOf user).erase keyId))
    (keys : s'.keys = s.keys) : KeyEffect s (deleted user keyId) s'

variable {caller : String} {c : Call} {s s' : State}

/-- A call that fails and leaves the users alone moves no key. -/
theorem KeyEffect.of_error {err : ProviderError} (husers : s'.store.users = s.store.users)
    (hkeys : s'.keys = s.keys) : KeyEffect s ⟨c, .error err⟩ s' := by
  refine .kept (Answered.not_movesKey_of_error c err) ?_ hkeys
  funext user
  rw [Store.keysOf, husers, Store.keysOf]

/-- A call that no fault is queued for has one of the effects. The user that it names has no keys
where it is created or deleted, and keeps them where only its policies change. -/
theorem perform_keyEffect (caller : String) (c : Call) (s : State) :
    KeyEffect s ⟨c, (perform caller c s).1⟩ (perform caller c s).2 := by
  cases c with
  | createBucket bucket location =>
    simp only [perform]
    cases s.store.buckets.get? bucket with
    | none => exact .kept id rfl rfl
    | some existing => exact .of_error rfl rfl
  | deleteBucket bucket =>
    simp only [perform]
    cases s.store.buckets.get? bucket with
    | none => exact .of_error rfl rfl
    | some existing => exact .kept id rfl rfl
  | createUser user =>
    simp only [perform]
    cases hu : s.store.users.get? user with
    | none => exact .kept id (Store.keysOf_setUser_eq_self (Store.keysOf_of_absent hu).symm) rfl
    | some record => exact .of_error rfl rfl
  | getUser user | listUserPolicies user | listAccessKeys user =>
    simp only [perform]
    cases s.store.users.get? user with
    | none => exact .of_error rfl rfl
    | some record => exact .kept id rfl rfl
  | deleteUser user =>
    simp only [perform]
    cases hu : s.store.users.get? user with
    | none => exact .of_error rfl rfl
    | some record =>
      dsimp only
      split
      case isTrue hbare =>
        -- Only a user without keys goes.
        have hempty : s.store.keysOf user = .empty := by
          rw [Store.keysOf_of_get? hu]
          exact Dict.isEmpty_iff.1 (Bool.and_eq_true_iff.1 hbare).2
        refine .kept id ?_ rfl
        rw [Store.keysOf_dropUser, ← hempty, Function.update_eq_self]
      case isFalse => exact .of_error rfl rfl
  | putUserPolicy user policy document =>
    simp only [perform]
    cases hu : s.store.users.get? user with
    | none => exact .of_error rfl rfl
    | some record =>
      exact .kept id (Store.keysOf_setUser_eq_self (Store.keysOf_of_get? hu).symm) rfl
  | deleteUserPolicy user policy =>
    simp only [perform]
    cases hu : s.store.users.get? user with
    | none => exact .of_error rfl rfl
    | some record =>
      dsimp only
      split
      case isTrue =>
        exact .kept id (Store.keysOf_setUser_eq_self (Store.keysOf_of_get? hu).symm) rfl
      case isFalse => exact .of_error rfl rfl
  | createAccessKey user =>
    simp only [perform]
    cases hu : s.store.users.get? user with
    | none => exact .of_error rfl rfl
    | some record =>
      dsimp only
      split
      case isTrue => exact .of_error rfl rfl
      case isFalse hroom =>
        refine .created user ?_ ?_ rfl
        · rw [Store.keysOf_of_get? hu]
          exact Nat.lt_of_not_le hroom
        · rw [Store.keysOf_setUser, Store.keysOf_of_get? hu]
          rfl
  | deleteAccessKey user keyId =>
    simp only [perform]
    cases hu : s.store.users.get? user with
    | none => exact .of_error rfl rfl
    | some record =>
      dsimp only
      split
      case isTrue =>
        refine .deleted user keyId ?_ rfl
        rw [Store.keysOf_setUser, Store.keysOf_of_get? hu]
        rfl
      case isFalse => exact .of_error rfl rfl

/-- Every call has one of the effects; one that takes a fault moves no key. -/
theorem answer_keyEffect (caller : String) (c : Call) (s : State) :
    KeyEffect s ⟨c, (answer caller c s).1⟩ (answer caller c s).2 := by
  rcases answer_cases caller c s with ⟨code, s', hfault, hans⟩ | hans
  · rw [hans]
    exact .of_error hfault.users hfault.keys
  · rw [hans]
    exact perform_keyEffect caller c s

/-! ## The invariant -/

/-- What holds after every run: the store and the log agree on the keys, and the keys to come are
new. -/
structure Balanced (h : Logged) : Prop where
  /-- No key will come twice. -/
  distinct : ∀ i j, (h.state.keys i).id = (h.state.keys j).id → i = j
  /-- No user has a key that is to come. -/
  unused : ∀ i user, (h.state.store.keysOf user).get? (h.state.keys i).id = none
  /-- No user has more keys than it may. -/
  quota : ∀ user, (h.state.store.keysOf user).size ≤ maxKeys
  /-- No identifier is on two users. -/
  once : ∀ user user' id, (h.state.store.keysOf user).get? id ≠ none →
    (h.state.store.keysOf user').get? id ≠ none → user = user'
  /-- The keys on users are those outstanding. -/
  live_iff : ∀ user key, Live h.state.store user key ↔ Outstanding h.log user key

namespace Balanced

variable {h : Logged}

/-- A call that moves no key preserves it. -/
theorem kept (hb : Balanced h) (hmoves : ¬ e.MovesKey)
    (hsame : s'.store.keysOf = h.state.store.keysOf) (hkeys : s'.keys = h.state.keys) :
    Balanced ⟨s', h.log ++ [e]⟩ where
  distinct := by rw [hkeys]; exact hb.distinct
  unused := by rw [hsame, hkeys]; exact hb.unused
  quota := by rw [hsame]; exact hb.quota
  once := by rw [hsame]; exact hb.once
  live_iff user key := by
    have hcreated : e ≠ created user key := fun heq => hmoves (heq ▸ trivial)
    have hdeleted : e ≠ deleted user key.id := fun heq => hmoves (heq ▸ trivial)
    rw [outstanding_concat, ← hb.live_iff, Live, Live, hsame]
    simp [hcreated, hdeleted]

/-- The creation of a key preserves it: the key was on no user before. -/
theorem created (hb : Balanced h) {user : String}
    (hroom : (h.state.store.keysOf user).size < maxKeys)
    (hput : s'.store.keysOf = Function.update h.state.store.keysOf user
      ((h.state.store.keysOf user).insert (h.state.keys 0).id (h.state.keys 0).secret))
    (hkeys : s'.keys = fun n => h.state.keys (n + 1)) :
    Balanced ⟨s', h.log ++ [.created user (h.state.keys 0)]⟩ := by
  -- Under every user and identifier lies the new key or what lay there.
  have hget : ∀ u id, (s'.store.keysOf u).get? id =
      if u = user ∧ id = (h.state.keys 0).id then some (h.state.keys 0).secret
      else (h.state.store.keysOf u).get? id := by
    intro u id
    rw [hput]
    by_cases hu : u = user
    · subst hu
      simp [Dict.get?_insert]
    · simp [hu]
  have honly : ∀ u, (s'.store.keysOf u).get? (h.state.keys 0).id ≠ none → u = user := by
    intro u hid
    by_contra hne
    rw [hget, if_neg fun hand => hne hand.1] at hid
    exact hid (hb.unused 0 u)
  refine ⟨?_, ?_, ?_, ?_, ?_⟩
  · intro i j hij
    rw [hkeys] at hij
    exact Nat.succ.inj (hb.distinct _ _ hij)
  · intro i u
    have hnew : (h.state.keys (i + 1)).id ≠ (h.state.keys 0).id :=
      fun heq => Nat.succ_ne_zero i (hb.distinct _ _ heq)
    rw [hget, hkeys, if_neg fun hand => hnew hand.2]
    exact hb.unused (i + 1) u
  · intro u
    rw [hput]
    by_cases hu : u = user
    · rw [hu, Function.update_self]
      exact Nat.le_trans (Dict.size_insert_le _ _ _) hroom
    · rw [Function.update_of_ne hu]
      exact hb.quota u
  · intro u u' id hid hid'
    by_cases hnew : id = (h.state.keys 0).id
    · exact (honly u (hnew ▸ hid)).trans (honly u' (hnew ▸ hid')).symm
    · rw [hget, if_neg fun hand => hnew hand.2] at hid hid'
      exact hb.once u u' id hid hid'
  · intro u key
    rw [outstanding_concat, ← hb.live_iff, Live, Live, hget]
    by_cases hnew : u = user ∧ key.id = (h.state.keys 0).id
    · obtain ⟨rfl, hid⟩ := hnew
      rw [if_pos ⟨rfl, hid⟩, hid, hb.unused 0 u]
      constructor
      · intro hsecret
        obtain ⟨id, secret⟩ := key
        obtain rfl : id = (h.state.keys 0).id := hid
        obtain rfl : (h.state.keys 0).secret = secret := Option.some.inj hsecret
        exact .inl rfl
      · rintro (heq | ⟨hnone, -⟩)
        · rw [(Answered.created_inj.1 heq).2]
        · cases hnone
    · rw [if_neg hnew]
      have hne : Answered.created user (h.state.keys 0) ≠ Answered.created u key := by
        simp only [ne_eq, Answered.created_inj]
        rintro ⟨rfl, rfl⟩
        exact hnew ⟨rfl, rfl⟩
      simp [hne]

/-- The deletion of a key preserves it. -/
theorem deleted (hb : Balanced h) {user keyId : String}
    (htaken : s'.store.keysOf = Function.update h.state.store.keysOf user
      ((h.state.store.keysOf user).erase keyId))
    (hkeys : s'.keys = h.state.keys) :
    Balanced ⟨s', h.log ++ [.deleted user keyId]⟩ := by
  have hget : ∀ u id, (s'.store.keysOf u).get? id =
      if u = user ∧ id = keyId then none else (h.state.store.keysOf u).get? id := by
    intro u id
    rw [htaken]
    by_cases hu : u = user
    · subst hu
      simp [Dict.get?_erase]
    · simp [hu]
  have hbefore : ∀ u id, (s'.store.keysOf u).get? id ≠ none →
      (h.state.store.keysOf u).get? id ≠ none := by
    intro u id hid
    rw [hget] at hid
    exact fun hnone => hid (by rw [hnone, ite_self])
  refine ⟨?_, ?_, ?_, ?_, ?_⟩
  · rw [hkeys]
    exact hb.distinct
  · intro i u
    rw [hget, hkeys, hb.unused i u, ite_self]
  · intro u
    rw [htaken]
    by_cases hu : u = user
    · rw [hu, Function.update_self]
      exact Nat.le_trans (Dict.size_erase_le _ _) (hb.quota user)
    · rw [Function.update_of_ne hu]
      exact hb.quota u
  · intro u u' id hid hid'
    exact hb.once u u' id (hbefore u id hid) (hbefore u' id hid')
  · intro u key
    rw [outstanding_concat, ← hb.live_iff, Live, Live, hget]
    by_cases hgone : u = user ∧ key.id = keyId
    · obtain ⟨rfl, rfl⟩ := hgone
      simp
    · have hne : Answered.deleted user keyId ≠ Answered.deleted u key.id := by
        simp only [ne_eq, Answered.deleted_inj]
        rintro ⟨rfl, rfl⟩
        exact hgone ⟨rfl, rfl⟩
      rw [if_neg hgone]
      simp [hne]

/-- Every call preserves it. -/
theorem of_keyEffect (hb : Balanced h) (heffect : KeyEffect h.state e s') :
    Balanced ⟨s', h.log ++ [e]⟩ := by
  cases heffect with
  | kept hmoves hsame hkeys => exact hb.kept hmoves hsame hkeys
  | created user hroom hput hkeys => exact hb.created hroom hput hkeys
  | deleted user keyId htaken hkeys => exact hb.deleted htaken hkeys

/-- Every event preserves it. -/
theorem step (hb : Balanced h) (event : Event) : Balanced (h.step event) := by
  cases event with
  | call caller c => exact hb.of_keyEffect (answer_keyEffect caller c h.state)
  | fault kind code => exact ⟨hb.distinct, hb.unused, hb.quota, hb.once, hb.live_iff⟩

/-- It holds after every run from where it holds: by induction on the events. -/
theorem run (hb : Balanced h) (events : List Event) : Balanced (h.run events) := by
  induction events generalizing h with
  | nil => exact hb
  | cons event events ih => exact ih (hb.step event)

/-- It holds of the empty store. -/
theorem start {source : KeySource} (hsource : ∀ i j, (source i).id = (source j).id → i = j) :
    Balanced (.start source) where
  distinct := hsource
  unused _ _ := rfl
  quota _ := Nat.zero_le _
  once _ _ _ hid := absurd rfl hid
  live_iff user key := by
    constructor
    · intro hlive
      cases hlive
    · rintro ⟨before, after, hlog, -⟩
      exact absurd hlog.symm (by simp [Logged.start])

end Balanced

/-! ## The accounts -/

/-- A call that succeeds took no fault. -/
theorem perform_of_ok {v : c.Reply} (hans : (answer caller c s).1 = .ok v) :
    answer caller c s = perform caller c s := by
  rcases answer_cases caller c s with ⟨code, s', -, hfault⟩ | hperform
  · rw [hfault] at hans
    cases hans
  · exact hperform

/-- A user is deleted only without keys. -/
theorem keysOf_of_deleteUser (hans : (answer caller (.deleteUser user) s).1 = .ok ()) :
    s.store.keysOf user = .empty := by
  rw [perform_of_ok hans] at hans
  simp only [perform] at hans
  cases hu : s.store.users.get? user with
  | none => exact Store.keysOf_of_absent hu
  | some record =>
    rw [hu] at hans
    dsimp only at hans
    split at hans
    case isTrue hbare =>
      rw [Store.keysOf_of_get? hu]
      exact Dict.isEmpty_iff.1 (Bool.and_eq_true_iff.1 hbare).2
    case isFalse => cases hans

/-- Deleting a user leaves the keys of all users as they are. -/
theorem keysOf_deleteUser (hans : (answer caller (.deleteUser user) s).1 = .ok ()) :
    (answer caller (.deleteUser user) s).2.store.keysOf = s.store.keysOf := by
  have heffect := answer_keyEffect caller (.deleteUser user) s
  rw [hans] at heffect
  cases heffect with
  | kept _ hsame _ => exact hsame

/-- A user that is created has neither policies nor keys. -/
theorem get?_of_createUser (hans : (answer caller (.createUser user) s).1 = .ok ()) :
    (answer caller (.createUser user) s).2.store.users.get? user = some .new := by
  have hperform := perform_of_ok hans
  rw [hperform] at hans ⊢
  simp only [perform] at hans ⊢
  cases hu : s.store.users.get? user with
  | none => exact Store.get?_setUser_self
  | some record =>
    rw [hu] at hans
    cases hans

/-- What the store and the log say of keys after a run. -/
structure KeysAccounted (h : Logged) : Prop where
  /-- Every user has at most two keys. -/
  quota : ∀ user, (h.state.store.keysOf user).size ≤ 2
  /-- No identifier is on two users. -/
  once : ∀ user user' key key', Live h.state.store user key → Live h.state.store user' key' →
    key.id = key'.id → user = user'
  /-- A key is on a user exactly when it was created for the user and not deleted since. -/
  live_iff : ∀ user key, Live h.state.store user key ↔ Outstanding h.log user key
  /-- A user that is deleted had no keys, and no key of anyone is lost. -/
  deleteUser : ∀ caller user, (answer caller (.deleteUser user) h.state).1 = .ok () →
    ∀ key, ¬ Live h.state.store user key ∧ ∀ user',
      Live (answer caller (.deleteUser user) h.state).2.store user' key ↔
        Live h.state.store user' key
  /-- A user that is created, for the first time or again, has neither keys nor policies. -/
  createUser : ∀ caller user, (answer caller (.createUser user) h.state).1 = .ok () →
    (answer caller (.createUser user) h.state).2.store.users.get? user = some ⟨.empty, .empty⟩

/-- Where no identifier is drawn twice, the keys in the store are those that the calls answered so
far have created and not deleted, after every run. -/
theorem keys_accounted {source : KeySource}
    (hsource : ∀ i j, (source i).id = (source j).id → i = j) (events : List Event) :
    KeysAccounted ((Logged.start source).run events) := by
  have hb : Balanced ((Logged.start source).run events) := (Balanced.start hsource).run events
  refine ⟨hb.quota, ?_, hb.live_iff, ?_, fun caller user => get?_of_createUser⟩
  · intro user user' key key' hlive hlive' hid
    refine hb.once user user' key.id ?_ ?_
    · rw [hlive]
      exact nofun
    · rw [hid, hlive']
      exact nofun
  · intro caller user hans key
    constructor
    · rw [Live, keysOf_of_deleteUser hans]
      exact nofun
    · intro user'
      rw [Live, Live, keysOf_deleteUser hans]

/-- Keys that never repeat: identifier and secret of the next one are longer. -/
def countedKeys : KeySource :=
  fun n => ⟨String.ofList (List.replicate n 'k'), String.ofList (List.replicate n 's')⟩

/-- Two users with a key each, one of them after a fault, and the other's key deleted again. -/
def mixedCalls : List Event :=
  [.call "c1" (.createUser "u"), .call "c2" (.createUser "v"), .call "c1" (.createAccessKey "u"),
    .fault .createAccessKey "Throttling", .call "c2" (.createAccessKey "v"),
    .call "c2" (.createAccessKey "v"), .call "c1" (.deleteAccessKey "u" (countedKeys 0).id)]

/-- The one key is outstanding and the other is not, and the first is still there when the user
without keys has been deleted. -/
theorem keys_accounted_mixedCalls :
    Outstanding ((Logged.start countedKeys).run mixedCalls).log "v" (countedKeys 1) ∧
      ¬ Outstanding ((Logged.start countedKeys).run mixedCalls).log "u" (countedKeys 0) ∧
      Live (answer "c1" (.deleteUser "u") ((Logged.start countedKeys).run mixedCalls).state).2.store
        "v" (countedKeys 1) := by
  have hsource : ∀ i j, (countedKeys i).id = (countedKeys j).id → i = j := by
    intro i j hij
    have hlength := congrArg List.length (String.ofList_injective hij)
    simpa using hlength
  have hall := keys_accounted hsource mixedCalls
  have hlive : Live ((Logged.start countedKeys).run mixedCalls).state.store "v" (countedKeys 1) :=
    rfl
  refine ⟨(hall.live_iff _ _).1 hlive, fun hout => ?_, ?_⟩
  · cases (hall.live_iff _ _).2 hout
  · exact ((hall.deleteUser "c1" "u" rfl (countedKeys 1)).2 "v").2 hlive

end BucketDriver.Memory
