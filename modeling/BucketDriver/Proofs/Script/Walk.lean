import BucketDriver.Proofs.Absence
import BucketDriver.Proofs.Attempt
import BucketDriver.Provider.Script
import BucketDriver.Provision.Access

/-!
# Walks along a script

Against a script, an operation is a walk along a list of steps: each makes its call, and the walk
goes on when the step accepts the reply and ends there when it does not. `calls` are the calls of a
walk and `refused?` is where it ends early; both are read off the script, without running anything.

`Walks x steps script ok err` says that the attempt `x` is that walk: it makes exactly those calls,
it ends with a value in `ok` when every reply was accepted, and else with a failure that `err`
relates to the reply that was not. A walk is put together from one rule for a settled call
(`Walks.strict`, `Walks.lenient`) and one for sequencing (`Walks.bind`).
-/

namespace BucketDriver.Script

open Attempt (Ensures)

variable {α β : Type} {script : List Reply}

/-- The reply to the next call. -/
def next (script : List Reply) : Reply :=
  script.headD (.failure exhausted)

@[simp] theorem next_cons (r : Reply) (rest : List Reply) : next (r :: rest) = r := rfl

/-- A script answers with its next reply and goes on with the others. -/
theorem answer_eq (c : Call) (script : List Reply) :
    answer c script = ((next script).toResult c, script.tail) := by
  cases script <;> rfl

/-- A traced script notes the call as well. -/
theorem traced_answer_eq (c : Call) (before : List Call) (script : List Reply) :
    Handler.traced answer c (before, script) =
      ((next script).toResult c, c :: before, script.tail) := by
  rw [Handler.traced, answer_eq]

namespace Reply

/-- Whether a reply is a success. -/
def succeeded : Reply → Bool
  | success _ => true
  | failure _ => false

/-- Whether a reply is a success or an error that says that a resource is absent. -/
def tolerated : Reply → Bool
  | success _ => true
  | failure e => e.code?.any isAbsence

/-- The names in the reply to a listing, none in that of an error. -/
def names : Reply → List String
  | success texts => texts
  | failure _ => []

/-- An error is tolerated when it says that a resource is absent. -/
theorem tolerated_failure_iff {e : ProviderError} :
    (failure e).tolerated = true ↔ e.IsAbsence := by
  unfold ProviderError.IsAbsence
  rw [tolerated, Option.any_eq_true]

/-- A listing gives the names of its reply. -/
theorem getD_listAccessKeys (r : Reply) (account : String) :
    (r.toResult (.listAccessKeys account)).toOption.getD ([] : List String) = r.names := by
  cases r <;> rfl

/-- A success has a value for every call. -/
theorem toResult_of_succeeded {r : Reply} (h : r.succeeded = true) (c : Call) :
    ∃ v, r.toResult c = .ok v := by
  cases r with
  | success texts => cases c <;> exact ⟨_, rfl⟩
  | failure e => cases h

end Reply

/-- A call that an operation makes for an action, with the replies after which it goes on. -/
structure Step where
  /-- What the call is made for. -/
  action : Action
  /-- The call. -/
  call : Call
  /-- Whether the operation goes on after a reply. -/
  accepts : Reply → Bool

/-- A step that must succeed. -/
def Step.strict (a : Action) (c : Call) : Step :=
  ⟨a, c, Reply.succeeded⟩

/-- A step for which an absent resource is as good as success. -/
def Step.lenient (a : Action) (c : Call) : Step :=
  ⟨a, c, Reply.tolerated⟩

/-- The calls of steps along a script: all of them up to and including the first whose reply is not
accepted. -/
def calls : List Step → List Reply → List Call
  | [], _ => []
  | st :: steps, script =>
    st.call :: if st.accepts (next script) then calls steps script.tail else []

/-- The first step along a script whose reply is not accepted, with that reply. -/
def refused? : List Step → List Reply → Option (Step × Reply)
  | [], _ => none
  | st :: steps, script =>
    if st.accepts (next script) then refused? steps script.tail else some (st, next script)

section Steps

variable {st : Step} {steps steps' : List Step}

/-- All calls are made of steps. -/
theorem mem_calls {c : Call} (h : c ∈ calls steps script) : ∃ st ∈ steps, st.call = c := by
  induction steps generalizing script with
  | nil => cases h
  | cons st steps ih =>
    rw [calls, List.mem_cons] at h
    rcases h with rfl | h
    · exact ⟨st, List.mem_cons_self, rfl⟩
    · split at h
      · obtain ⟨st', hst', hcall⟩ := ih h
        exact ⟨st', List.mem_cons_of_mem _ hst', hcall⟩
      · cases h

/-- Further steps are made when no reply to the first ones was refused. -/
theorem calls_append (h : refused? steps script = none) :
    calls (steps ++ steps') script =
      calls steps script ++ calls steps' (script.drop steps.length) := by
  induction steps generalizing script with
  | nil => rfl
  | cons st steps ih =>
    by_cases hst : st.accepts (next script) = true
    · rw [refused?, if_pos hst] at h
      simp [calls, hst, ih h]
    · rw [refused?, if_neg hst] at h
      cases h

/-- Further steps are not made once a reply was refused. -/
theorem calls_append_of_refused {refusal : Step × Reply}
    (h : refused? steps script = some refusal) :
    calls (steps ++ steps') script = calls steps script := by
  induction steps generalizing script with
  | nil => cases h
  | cons st steps ih =>
    by_cases hst : st.accepts (next script) = true
    · rw [refused?, if_pos hst] at h
      simp [calls, hst, ih h]
    · simp [calls, hst]

/-- The first refused reply is one to the first steps, or else one to the further ones. -/
theorem refused?_append :
    refused? (steps ++ steps') script =
      (refused? steps script).or (refused? steps' (script.drop steps.length)) := by
  induction steps generalizing script with
  | nil => rfl
  | cons st steps ih =>
    by_cases hst : st.accepts (next script) = true
    · simp [refused?, hst, ih]
    · simp [refused?, hst]

/-- A step whose reply is accepted has a reply in the script, where it would not accept that none is
left. -/
theorem refused?_cons_eq_none (hst : st.accepts (.failure exhausted) = false) :
    refused? (st :: steps) script = none ↔
      ∃ r rest, script = r :: rest ∧ st.accepts r = true ∧ refused? steps rest = none := by
  cases script with
  | nil => simp [refused?, next, hst]
  | cons r rest =>
    rw [refused?, next_cons]
    constructor
    · intro h
      split at h
      case isTrue hr => exact ⟨r, rest, rfl, hr, h⟩
      case isFalse => cases h
    · rintro ⟨_, _, heq, hr, h⟩
      cases heq
      rw [if_pos hr]
      exact h

/-- No reply to steps that tolerate absence is refused exactly when the script begins with one
tolerated reply for each of them. -/
theorem refused?_lenient_eq_none (h : ∀ st ∈ steps, st.accepts = Reply.tolerated) :
    refused? steps script = none ↔
      ∃ replies rest, script = replies ++ rest ∧ replies.length = steps.length ∧
        ∀ r ∈ replies, r.tolerated = true := by
  induction steps generalizing script with
  | nil =>
    refine iff_of_true rfl ⟨[], script, rfl, rfl, ?_⟩
    intro r hr
    cases hr
  | cons st steps ih =>
    have hst : st.accepts = Reply.tolerated := h st List.mem_cons_self
    have hsteps : ∀ rest, refused? steps rest = none ↔ _ := fun rest =>
      ih fun st' hst' => h st' (List.mem_cons_of_mem _ hst')
    have hnone : st.accepts (.failure exhausted) = false := by rw [hst]; rfl
    rw [refused?_cons_eq_none hnone, hst]
    constructor
    · rintro ⟨r, rest, rfl, hr, hrest⟩
      obtain ⟨replies, rest', rfl, hlen, htol⟩ := (hsteps rest).1 hrest
      refine ⟨r :: replies, rest', rfl, by simp [hlen], ?_⟩
      intro r' hr'
      rcases List.mem_cons.1 hr' with rfl | hr'
      · exact hr
      · exact htol r' hr'
    · rintro ⟨replies, rest, rfl, hlen, htol⟩
      cases replies with
      | nil => cases hlen
      | cons r replies =>
        refine ⟨r, replies ++ rest, rfl, htol r List.mem_cons_self, (hsteps _).2 ?_⟩
        exact ⟨replies, rest, rfl, by simpa using hlen,
          fun r' hr' => htol r' (List.mem_cons_of_mem _ hr')⟩

end Steps

/-- The attempt is a walk along the steps: it makes their calls and takes as many replies off the
script. With all replies accepted it ends with a value in `ok`, and else with a failure that `err`
relates to the step and the reply where it ended. -/
def Walks (x : Attempt α) (steps : List Step) (script : List Reply) (ok : α → Prop)
    (err : Failure → Step → Reply → Prop) : Prop :=
  ∀ before, Ensures (Handler.traced answer) x (before, script)
    (fun a s => s = ((calls steps script).reverse ++ before, script.drop steps.length) ∧
      refused? steps script = none ∧ ok a)
    (fun f s => s.1 = (calls steps script).reverse ++ before ∧
      ∃ st r, refused? steps script = some (st, r) ∧ err f st r)

namespace Walks

variable {x : Attempt α} {steps steps' : List Step} {st : Step} {a : Action} {account : String}
  {t : ErrorTable} {c : Call} {ok : α → Prop} {ok' : β → Prop} {err : Failure → Step → Reply → Prop}

/-- A walk without steps. -/
theorem pure {v : α} (h : ok v) : Walks (Pure.pure v) [] script ok err :=
  fun _ => ⟨rfl, rfl, h⟩

/-- What is said of the failure of a walk may be weakened. -/
theorem mono {err₁ : Failure → Step → Reply → Prop} (hx : Walks x steps script ok err)
    (herr : ∀ f st r, err f st r → err₁ f st r) : Walks x steps script ok err₁ :=
  fun before => (hx before).mono (fun _ _ hv => hv)
    fun f _ ⟨hs, st, r, hrefused, hf⟩ => ⟨hs, st, r, hrefused, herr f st r hf⟩

/-- One walk after another. -/
theorem bind {f : α → Attempt β} (hx : Walks x steps script ok err)
    (hf : ∀ v, ok v → Walks (f v) steps' (script.drop steps.length) ok' err) :
    Walks (x >>= f) (steps ++ steps') script ok' err := by
  intro before
  refine Ensures.bind (hx before) ?_ ?_
  -- The first walk went through, and the second one's calls stand behind its calls.
  · rintro v s ⟨rfl, hnone, hv⟩
    refine (hf v hv _).mono ?_ ?_
    · rintro w s ⟨rfl, hnone', hw⟩
      refine ⟨?_, ?_, hw⟩
      · rw [calls_append hnone, List.reverse_append, List.append_assoc, List.length_append,
          List.drop_drop]
      · rw [refused?_append, hnone, hnone']
        rfl
    · rintro e s ⟨hs, st, r, hrefused, he⟩
      refine ⟨?_, st, r, ?_, he⟩
      · rw [hs, calls_append hnone, List.reverse_append, List.append_assoc]
      · rw [refused?_append, hnone, hrefused]
        rfl
  -- The first walk ended early, and there is no second one.
  · rintro e s ⟨hs, st, r, hrefused, he⟩
    refine ⟨?_, st, r, ?_, he⟩
    · rw [hs, calls_append_of_refused hrefused]
    · rw [refused?_append, hrefused]
      rfl

/-- A walk that begins with a call: it goes on after a reply that is accepted and fails after any
other. -/
theorem call {g : st.call.Result → Attempt α} (hx : x.run = .call st.call fun r => (g r).run)
    (haccepted : st.accepts (next script) = true →
      Walks (g ((next script).toResult st.call)) steps script.tail ok err)
    (hrefused : ¬ st.accepts (next script) = true →
      ∃ f, g ((next script).toResult st.call) = throw f ∧ err f st (next script)) :
    Walks x (st :: steps) script ok err := by
  intro before
  -- Behind the call, which is noted, the walk has the rest of the script before it.
  have hrun : Program.run (Handler.traced answer) x.run (before, script) =
      Program.run (Handler.traced answer) (g ((next script).toResult st.call)).run
        (st.call :: before, script.tail) := by
    rw [hx, Program.run_call, traced_answer_eq]
  unfold Ensures
  rw [hrun]
  by_cases hst : st.accepts (next script) = true
  · simpa [Ensures, calls, refused?, hst] using haccepted hst (st.call :: before)
  · obtain ⟨f, hf, herr⟩ := hrefused hst
    rw [hf]
    refine ⟨?_, st, next script, ?_, herr⟩
    · simp [calls, hst]
    · simp [refused?, hst]

end Walks

section Settled

variable {st : Step} {a : Action} {account : String} {c : Call}

/-- The failure is the normalization of the reply to the step, an error. -/
def Normalized (account : String) (f : Failure) (st : Step) (r : Reply) : Prop :=
  ∃ e, r = .failure e ∧ normalize st.action account e identityErrors = .error f

/-- The failure for a reply is determined by it. -/
theorem Normalized.unique {f f' : Failure} {r : Reply} (h : Normalized account f st r)
    (h' : Normalized account f' st r) : f = f' := by
  obtain ⟨e, rfl, hf⟩ := h
  obtain ⟨_, ⟨rfl⟩, hf'⟩ := h'
  exact Except.error.inj (hf.symm.trans hf')

/-- Only an error has a normalization. -/
theorem Normalized.not_succeeded {f : Failure} {r : Reply} (h : Normalized account f st r) :
    ¬ r.succeeded = true := by
  obtain ⟨e, rfl, -⟩ := h
  exact Bool.false_ne_true

/-- The step accepts what settles to success for its action: a success, and an absence where the
action tolerates it. -/
def Step.Settles (st : Step) : Prop :=
  ∀ r, st.accepts r = (r.succeeded || st.action.toleratesAbsence && r.tolerated)

theorem Step.settles_strict (ha : a.toleratesAbsence = false) : (Step.strict a c).Settles := by
  intro r
  simp [Step.strict, ha]

theorem Step.settles_lenient (ha : a.toleratesAbsence = true) : (Step.lenient a c).Settles := by
  intro r
  cases r <;> simp [Step.lenient, ha, Reply.succeeded, Reply.tolerated]

/-- An accepted reply settles to the value that it may have. -/
theorem Step.Settles.settle_eq_ok (hst : st.Settles) {r : Reply} (h : st.accepts r = true) :
    settle (r.toResult st.call) st.action account identityErrors =
      .ok (r.toResult st.call).toOption := by
  cases r with
  | success texts =>
    obtain ⟨v, hv⟩ := Reply.toResult_of_succeeded (r := .success texts) rfl st.call
    rw [hv]
    rfl
  | failure e =>
    have h' : (st.action.toleratesAbsence && (Reply.failure e).tolerated) = true :=
      (hst _).symm.trans h
    obtain ⟨ha, he⟩ := Bool.and_eq_true_iff.1 h'
    exact settle_of_isAbsence ha (Reply.tolerated_failure_iff.1 he)

/-- Any other reply is an error that settles to a failure, its normalization. -/
theorem Step.Settles.settle_eq_error (hst : st.Settles) (account : String) {r : Reply}
    (h : ¬ st.accepts r = true) :
    ∃ f, settle (r.toResult st.call) st.action account identityErrors = .error f ∧
      Normalized account f st r := by
  rw [hst r] at h
  cases r with
  | success texts => exact absurd rfl h
  | failure e =>
    have hnot : ¬ (st.action.toleratesAbsence = true ∧ e.IsAbsence) := by
      rintro ⟨ha, he⟩
      rw [ha, Reply.tolerated_failure_iff.2 he] at h
      exact h rfl
    obtain ⟨f, hf⟩ : ∃ f, settle ((Reply.failure e).toResult st.call) st.action account
        identityErrors = .error f := settle_identity_error hnot
    exact ⟨f, hf, e, rfl, settle_error_eq_error_iff.1 hf⟩

/-- A settled call is a walk of one step. -/
theorem Walks.settled (hst : st.Settles) :
    Walks (.settled st.action account identityErrors st.call) [st] script
      (fun v => v = ((next script).toResult st.call).toOption ∧ st.accepts (next script) = true)
      (Normalized account) := by
  refine Walks.call
    (g := fun r => ExceptT.mk (.done (settle r st.action account identityErrors))) rfl ?_ ?_
  · intro h
    rw [hst.settle_eq_ok h]
    exact Walks.pure ⟨rfl, h⟩
  · intro h
    obtain ⟨f, hf, hn⟩ := hst.settle_eq_error account h
    rw [hf]
    exact ⟨f, rfl, hn⟩

/-- A walk that begins with a settled call and looks at its value: it may also fail after a value
that is not accepted. -/
theorem Walks.settled_bind {β : Type} (st : Step) {f : Option st.call.Reply → Attempt β}
    {steps : List Step} {ok : β → Prop} {err : Failure → Step → Reply → Prop}
    (haccepted : st.accepts (next script) = true → ∃ v,
      settle ((next script).toResult st.call) a account identityErrors = .ok v ∧
      Walks (f v) steps script.tail ok err)
    (hrefused : ¬ st.accepts (next script) = true →
      (∃ e, settle ((next script).toResult st.call) a account identityErrors = .error e ∧
        err e st (next script)) ∨
      ∃ v e, settle ((next script).toResult st.call) a account identityErrors = .ok v ∧
        f v = throw e ∧ err e st (next script)) :
    Walks (.settled a account identityErrors st.call >>= f) (st :: steps) script ok err := by
  refine Walks.call
    (g := fun r => ExceptT.mk (.done (settle r a account identityErrors)) >>= f) rfl ?_ ?_
  · intro h
    obtain ⟨v, hv, hwalk⟩ := haccepted h
    rw [hv]
    exact hwalk
  · intro h
    rcases hrefused h with ⟨e, he, herr⟩ | ⟨v, e, hv, he, herr⟩
    · refine ⟨e, ?_, herr⟩
      rw [he]
      rfl
    · refine ⟨e, ?_, herr⟩
      rw [hv]
      exact he

/-- A settled call for an action that does not tolerate absence is a step that must succeed. -/
theorem Walks.strict (ha : a.toleratesAbsence = false) :
    Walks (.settled a account identityErrors c) [.strict a c] script
      (fun v => v = ((next script).toResult c).toOption ∧ (next script).succeeded = true)
      (Normalized account) :=
  Walks.settled (Step.settles_strict ha)

/-- A settled call for an action that tolerates absence is a lenient step. -/
theorem Walks.lenient (ha : a.toleratesAbsence = true) :
    Walks (.settled a account identityErrors c) [.lenient a c] script
      (fun v => v = ((next script).toResult c).toOption ∧ (next script).tolerated = true)
      (Normalized account) :=
  Walks.settled (Step.settles_lenient ha)

end Settled

/-- The steps that delete keys of an account. -/
def deletions (a : Action) (account : String) (ids : List String) : List Step :=
  ids.map fun id => .lenient a (.deleteAccessKey account id)

@[simp] theorem length_deletions (a : Action) (account : String) (ids : List String) :
    (deletions a account ids).length = ids.length := by
  simp [deletions]

/-- The deletions are all accepted exactly when the script begins with one tolerated reply a key. -/
theorem deletions_eq_none {a : Action} {account : String} {ids : List String} :
    refused? (deletions a account ids) script = none ↔
      ∃ replies rest, script = replies ++ rest ∧ replies.length = ids.length ∧
        ∀ r ∈ replies, r.tolerated = true := by
  have haccepts : ∀ st ∈ deletions a account ids, st.accepts = Reply.tolerated := by
    intro st hst
    obtain ⟨id, -, rfl⟩ := List.mem_map.1 hst
    rfl
  rw [refused?_lenient_eq_none haccepts, length_deletions]

/-- Deleting keys is a walk along one lenient step a key. -/
theorem walks_deleteKeys {a : Action} {account : String} (ha : a.toleratesAbsence = true)
    (ids : List String) :
    Walks
      (Provision.deleteKeys (fun c => do let _ ← Attempt.settled a account identityErrors c)
        account ids)
      (deletions a account ids) script (fun _ => True) (Normalized account) := by
  induction ids generalizing script with
  | nil => exact Walks.pure trivial
  | cons id ids ih =>
    have hone : Walks
        (do let _ ← Attempt.settled a account identityErrors (.deleteAccessKey account id))
        [.lenient a (.deleteAccessKey account id)] script (fun _ => True)
        (Normalized account) := (Walks.lenient ha).bind fun _ _ => Walks.pure trivial
    exact hone.bind fun _ _ => ih

/-- What a walk from the start of a script shows: its calls, and how it ends. -/
theorem Walks.play {x : Attempt α} {steps : List Step} {ok : α → Prop}
    {err : Failure → Step → Reply → Prop} (hx : Walks x steps script ok err) :
    (Script.play x.run script).calls = calls steps script ∧
    ((∃ v, (Script.play x.run script).result = .ok v ∧ refused? steps script = none ∧ ok v) ∨
      ∃ f st r, (Script.play x.run script).result = .error f ∧
        refused? steps script = some (st, r) ∧ err f st r) := by
  have hplay : Script.play x.run script =
      ⟨(Program.run (Handler.traced answer) x.run ([], script)).1,
        (Program.run (Handler.traced answer) x.run ([], script)).2.1.reverse,
        (Program.run (Handler.traced answer) x.run ([], script)).2.2⟩ := rfl
  have hens := hx []
  unfold Ensures at hens
  rw [hplay]
  rcases hrun : Program.run (Handler.traced answer) x.run ([], script) with ⟨f | v, s⟩
  · rw [hrun] at hens
    obtain ⟨hs, st, r, hrefused, herr⟩ := hens
    refine ⟨?_, .inr ⟨f, st, r, rfl, hrefused, herr⟩⟩
    simp [hs]
  · rw [hrun] at hens
    obtain ⟨rfl, hnone, hok⟩ := hens
    refine ⟨?_, .inl ⟨v, rfl, hnone, hok⟩⟩
    simp

end BucketDriver.Script
