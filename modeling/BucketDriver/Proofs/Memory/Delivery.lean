import BucketDriver.Proofs.Memory.KeyLedger
import Mathlib.Data.List.Basic

/-!
# The delivery of faults

A call to the memory store looks for a fault first and writes last. `FaultsFirst` says what follows
for one call in any state: it fails with the first fault queued for its kind, or no queue changes,
and when it fails it has written nothing.

Whether a call was failed by a fault can be told from its result (`Answered.fault?`), since the
store's own errors are worded otherwise (`perform_cases`). So the faults that the calls of a kind
were failed by (`delivered`) can be read off the log of a run. Main statement:
`faults_delivered_in_order`. After every run they are, with those still queued behind them, the
faults that were there at the start and those queued on the way, for each kind by itself.
-/

namespace BucketDriver.Memory

/-! ## Errors of faults -/

/-- An error that is worded as a fault. -/
def IsInjected (e : ProviderError) : Prop :=
  "injected ".toList <+: e.detail.toList

instance : DecidablePred IsInjected := fun e =>
  inferInstanceAs (Decidable ("injected ".toList <+: e.detail.toList))

theorem isInjected_injected (code : String) (kind : CallKind) :
    IsInjected (injected code kind) := by
  simp [IsInjected, injected, ProviderError.withCode, String.toList_append, List.append_assoc]

/-- The text begins, and with another letter than a fault. -/
def BeginsApart (text : String) : Prop :=
  text.toList ≠ [] ∧ text.toList.head? ≠ some 'i'

instance : DecidablePred BeginsApart := fun text =>
  inferInstanceAs (Decidable (text.toList ≠ [] ∧ text.toList.head? ≠ some 'i'))

theorem BeginsApart.append {text : String} (h : BeginsApart text) (rest : String) :
    BeginsApart (text ++ rest) := by
  rw [BeginsApart, String.toList_append, List.head?_append_of_ne_nil _ h.1]
  exact ⟨List.append_ne_nil_of_left_ne_nil h.1 _, h.2⟩

theorem BeginsApart.not_isInjected {e : ProviderError} (h : BeginsApart e.detail) :
    ¬ IsInjected e := by
  rintro ⟨rest, hrest⟩
  have hhead := h.2
  rw [← hrest] at hhead
  exact hhead rfl

/-- An error that is worded around a name, behind a beginning of its own, is none of a fault. -/
theorem not_isInjected_around {raw : Option String} {front name back : String}
    (h : BeginsApart front) : ¬ IsInjected ⟨raw, front ++ name ++ back⟩ :=
  ((h.append name).append back).not_isInjected

/-! ## What a call does -/

theorem not_isInjected_noSuchUser {user : String} : ¬ IsInjected (noSuchUser user) :=
  not_isInjected_around (by decide)

/-- A call that no fault is queued for succeeds and leaves the queues, or it fails by an error of
the store's own and leaves everything. -/
theorem perform_cases (caller : String) (c : Call) (s : State) :
    (∃ v s', perform caller c s = (.ok v, s') ∧ s'.store.faults = s.store.faults) ∨
    ∃ e, perform caller c s = (.error e, s) ∧ ¬ IsInjected e := by
  -- Nothing is written before the last look-up of a call, so each branch is one of the two.
  cases c with
  | createBucket bucket location =>
    simp only [perform]
    cases s.store.buckets.get? bucket with
    | none => exact .inl ⟨_, _, rfl, rfl⟩
    | some existing => exact .inr ⟨_, rfl, not_isInjected_around (by decide)⟩
  | deleteBucket bucket =>
    simp only [perform]
    cases s.store.buckets.get? bucket with
    | none => exact .inr ⟨_, rfl, not_isInjected_around (by decide)⟩
    | some existing => exact .inl ⟨_, _, rfl, rfl⟩
  | createUser user =>
    simp only [perform]
    cases s.store.users.get? user with
    | none => exact .inl ⟨_, _, rfl, rfl⟩
    | some record => exact .inr ⟨_, rfl, not_isInjected_around (by decide)⟩
  | getUser user | putUserPolicy user _ _ | listUserPolicies user | listAccessKeys user =>
    simp only [perform]
    cases s.store.users.get? user with
    | none => exact .inr ⟨_, rfl, not_isInjected_noSuchUser⟩
    | some record => exact .inl ⟨_, _, rfl, rfl⟩
  | deleteUser user =>
    simp only [perform]
    cases s.store.users.get? user with
    | none => exact .inr ⟨_, rfl, not_isInjected_noSuchUser⟩
    | some record =>
      dsimp only
      split
      · exact .inl ⟨_, _, rfl, rfl⟩
      · exact .inr ⟨_, rfl, not_isInjected_around (by decide)⟩
  | deleteUserPolicy user policy =>
    simp only [perform]
    cases s.store.users.get? user with
    | none => exact .inr ⟨_, rfl, not_isInjected_noSuchUser⟩
    | some record =>
      dsimp only
      split
      · exact .inl ⟨_, _, rfl, rfl⟩
      · have hbegin : BeginsApart "policy " := by decide
        exact .inr ⟨_, rfl, not_isInjected_around (hbegin.append policy)⟩
  | createAccessKey user =>
    simp only [perform]
    cases s.store.users.get? user with
    | none => exact .inr ⟨_, rfl, not_isInjected_noSuchUser⟩
    | some record =>
      dsimp only
      split
      · have hbegin : BeginsApart "cannot exceed quota for AccessKeysPerUser: " := by decide
        exact .inr ⟨_, rfl, (hbegin.append _).not_isInjected⟩
      · exact .inl ⟨_, _, rfl, rfl⟩
  | deleteAccessKey user keyId =>
    simp only [perform]
    cases s.store.users.get? user with
    | none => exact .inr ⟨_, rfl, not_isInjected_noSuchUser⟩
    | some record =>
      dsimp only
      split
      · exact .inl ⟨_, _, rfl, rfl⟩
      · exact .inr ⟨_, rfl, not_isInjected_around (by decide)⟩

/-- The queue of one kind is replaced. -/
theorem Store.faults_setFaults (s : Store) (kind : CallKind) (codes : List String) :
    (s.setFaults kind codes).faults = Function.update s.faults kind codes := by
  funext k
  rw [Function.update_apply]
  rfl

/-- What a call does about faults, and when it fails. -/
structure FaultsFirst (caller : String) (c : Call) (s : State) : Prop where
  /-- A call that fails has written nothing and drawn no key. -/
  atomic : ∀ e, (answer caller c s).1 = .error e →
    (answer caller c s).2.store.buckets = s.store.buckets ∧
      (answer caller c s).2.store.users = s.store.users ∧ (answer caller c s).2.keys = s.keys
  /-- With faults in the queue of its kind, it fails with the code of the first one, as that was
  queued. This fault is gone, and nothing else has changed. -/
  faulted : ∀ code rest, s.store.faults c.kind = code :: rest →
    answer caller c s =
      (.error ⟨some code, "injected " ++ code ++ " for " ++ c.kind.name⟩,
        ⟨⟨s.store.buckets, s.store.users, Function.update s.store.faults c.kind rest⟩, s.keys⟩)
  /-- Without, it leaves all queues, and no error of it is worded as a fault. -/
  spared : s.store.faults c.kind = [] →
    (answer caller c s).2.store.faults = s.store.faults ∧
      ∀ e, (answer caller c s).1 = .error e → ¬ IsInjected e

/-- Every call does so, in every state. -/
theorem faultsFirst (caller : String) (c : Call) (s : State) : FaultsFirst caller c s := by
  refine ⟨fun e he => ?_, fun code rest hqueue => ?_, fun hnone => ?_⟩
  · rcases answer_cases caller c s with ⟨code, s', hfault, hans⟩ | hans
    · rw [hans]
      exact ⟨hfault.buckets, hfault.users, hfault.keys⟩
    · rcases perform_cases caller c s with ⟨v, s', hperform, -⟩ | ⟨own, hperform, -⟩
      · rw [hans, hperform] at he
        cases he
      · rw [hans, hperform]
        exact ⟨rfl, rfl, rfl⟩
  · rw [answer_of_queued hqueue, ← Store.faults_setFaults]
    rfl
  · rw [answer_of_none hnone]
    rcases perform_cases caller c s with ⟨v, s', hperform, hfaults⟩ | ⟨own, hperform, hown⟩
    · rw [hperform]
      exact ⟨hfaults, nofun⟩
    · rw [hperform]
      refine ⟨rfl, fun e he => ?_⟩
      cases he
      exact hown

/-! ## What a run delivers -/

/-- The code of the fault that a call was failed by, if it was. -/
def Answered.fault? : Answered → Option String
  | ⟨_, .error e⟩ => if IsInjected e then e.rawCode else none
  | ⟨_, .ok _⟩ => none

/-- The faults that the calls of a kind were failed by, the first one first. -/
def delivered (kind : CallKind) (log : List Answered) : List String :=
  log.filterMap fun e => if e.call.kind = kind then e.fault? else none

/-- The faults that events queue for the calls of a kind, the first one first. -/
def queuedFor (kind : CallKind) (events : List Event) : List String :=
  events.filterMap fun
    | .fault k code => if k = kind then some code else none
    | .call .. => none

/-- A call delivers the first fault of its own queue and no other. -/
theorem delivered_answer (caller : String) (c : Call) (s : State) (kind : CallKind) :
    delivered kind [⟨c, (answer caller c s).1⟩] ++ (answer caller c s).2.store.faults kind =
      s.store.faults kind := by
  have hfirst := faultsFirst caller c s
  cases hqueue : s.store.faults c.kind with
  | nil =>
    obtain ⟨hfaults, hown⟩ := hfirst.spared hqueue
    have hnone : (Answered.mk c (answer caller c s).1).fault? = none := by
      cases hresult : (answer caller c s).1 with
      | ok v => rfl
      | error e => exact if_neg (hown e hresult)
    rw [hfaults, delivered, List.filterMap_cons, hnone, ite_self]
    rfl
  | cons code rest =>
    have hfault : (Answered.mk c (.error (injected code c.kind))).fault? = some code :=
      if_pos (isInjected_injected code c.kind)
    rw [hfirst.faulted code rest hqueue]
    -- What it delivers, and takes from the queues, is there for its own kind alone.
    change delivered kind [⟨c, .error (injected code c.kind)⟩] ++
      Function.update s.store.faults c.kind rest kind = s.store.faults kind
    rw [delivered, List.filterMap_cons, hfault]
    by_cases hkind : c.kind = kind
    · subst hkind
      rw [if_pos rfl, Function.update_self, hqueue]
      rfl
    · rw [if_neg hkind, Function.update_of_ne (Ne.symm hkind)]
      rfl

/-- Queues a fault behind those of its kind, and leaves those of other kinds. -/
theorem faults_failNext (s : Store) (kind k : CallKind) (code : String) :
    (s.failNext k code).faults kind = s.faults kind ++ queuedFor kind [.fault k code] := by
  rw [Store.failNext, Store.faults_setFaults]
  by_cases hkind : k = kind
  · subst hkind
    rw [Function.update_self]
    simp [queuedFor]
  · rw [Function.update_of_ne (Ne.symm hkind)]
    simp [queuedFor, hkind]

/-- What is delivered and what is still queued, taken together, grow by what an event queues. -/
theorem delivered_step (h : Logged) (event : Event) (kind : CallKind) :
    delivered kind (h.step event).log ++ (h.step event).state.store.faults kind =
      delivered kind h.log ++ h.state.store.faults kind ++ queuedFor kind [event] := by
  cases event with
  | call caller c =>
    calc delivered kind (h.log ++ [⟨c, (answer caller c h.state).1⟩]) ++
          (answer caller c h.state).2.store.faults kind
        = delivered kind h.log ++ (delivered kind [⟨c, (answer caller c h.state).1⟩] ++
            (answer caller c h.state).2.store.faults kind) := by
          rw [delivered, List.filterMap_append, List.append_assoc]
          rfl
      _ = delivered kind h.log ++ h.state.store.faults kind := by rw [delivered_answer]
      _ = delivered kind h.log ++ h.state.store.faults kind ++ queuedFor kind [.call caller c] :=
          (List.append_nil _).symm
  | fault k code =>
    calc delivered kind h.log ++ (h.state.store.failNext k code).faults kind
        = delivered kind h.log ++
            (h.state.store.faults kind ++ queuedFor kind [.fault k code]) := by
          rw [faults_failNext]
      _ = delivered kind h.log ++ h.state.store.faults kind ++ queuedFor kind [.fault k code] :=
          (List.append_assoc _ _ _).symm

/-- And over a run by all that its events queue: by induction on the events. -/
theorem delivered_run (h : Logged) (events : List Event) (kind : CallKind) :
    delivered kind (h.run events).log ++ (h.run events).state.store.faults kind =
      delivered kind h.log ++ h.state.store.faults kind ++ queuedFor kind events := by
  induction events generalizing h with
  | nil => exact (List.append_nil _).symm
  | cons event events ih =>
    have hqueued : queuedFor kind (event :: events) =
        queuedFor kind [event] ++ queuedFor kind events :=
      List.filterMap_append (l := [event])
    rw [hqueued, ← List.append_assoc, ← delivered_step]
    exact ih (h.step event)

/-- Calls that fail are atomic, and faults stay with their kind. Every call looks for a fault of its
kind before it does anything, and writes nothing when it fails. After every run of calls and queued
faults, from any state, the faults that the calls of a kind were failed by are those of its queue at
the start and those queued for it on the way, in their order and each one once, up to those that are
still queued. -/
theorem faults_delivered_in_order :
    (∀ caller c s, FaultsFirst caller c s) ∧
    ∀ (s : State) (events : List Event) (kind : CallKind),
      delivered kind (Logged.run ⟨s, []⟩ events).log ++
          (Logged.run ⟨s, []⟩ events).state.store.faults kind =
        s.store.faults kind ++ queuedFor kind events :=
  ⟨faultsFirst, fun s events kind => delivered_run ⟨s, []⟩ events kind⟩

/-- A fault waits for a call of its kind, and blank characters around its code stay. -/
example :
    delivered .createUser (Logged.run ⟨⟨.empty, fun _ => ⟨"k", "s"⟩⟩, []⟩
      [.fault .createUser " Throttling ", .call "c" (.getUser "u"), .call "c" (.createUser "u"),
        .call "c" (.createUser "u"), .call "c" (.createUser "u")]).log = [" Throttling "] := by
  decide

end BucketDriver.Memory
