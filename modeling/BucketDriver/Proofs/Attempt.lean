import BucketDriver.Provider.Program

/-!
# What an attempt ensures

`Attempt.Ensures h x s ok err` says how the attempt `x` ends when the provider `h` answers its calls
from the state `s`: with a value and a state in `ok`, or with a failure and a state in `err`. Every
attempt ends in one of the two ways, so nothing is left open.

An attempt is opened by one rule per constructor: `pure_iff`, `throw_iff`, `settled_iff`, `bind`,
and `bind_run` for a first part whose failure is looked at. A function that makes provider calls is
given its specification in this form once, and its callers cite that.
-/

namespace BucketDriver.Attempt

variable {α β σ : Type} {h : Handler σ} {s : σ}

/-- The attempt ends with a value and a state in `ok`, or with a failure and a state in `err`. -/
def Ensures (h : Handler σ) (x : Attempt α) (s : σ) (ok : α → σ → Prop)
    (err : Failure → σ → Prop) : Prop :=
  match Program.run h x.run s with
  | (.ok a, s') => ok a s'
  | (.error f, s') => err f s'

/-- An attempt after another runs from where the first has ended, unless that one failed. -/
theorem run_bind (x : Attempt α) (f : α → Attempt β) :
    Program.run h (x >>= f).run s =
      match Program.run h x.run s with
      | (.ok a, s') => Program.run h (f a).run s'
      | (.error e, s') => (.error e, s') := by
  have hb : Program.run h (x >>= f).run s =
      Program.run h (ExceptT.bindCont f (Program.run h x.run s).1) (Program.run h x.run s).2 :=
    Program.run_bind h x.run (ExceptT.bindCont f) s
  rw [hb]
  rcases Program.run h x.run s with ⟨e | a, s'⟩ <;> rfl

/-- An attempt that looks at the result of another, a failure included, runs from where that one
has ended. -/
theorem run_bind_run (x : Attempt α) (f : Except Failure α → Attempt β) :
    Program.run h (liftM x.run >>= f).run s =
      Program.run h (f (Program.run h x.run s).1).run (Program.run h x.run s).2 := by
  have hlift : Program.run h (liftM x.run : Attempt (Except Failure α)).run s =
      (.ok (Program.run h x.run s).1, (Program.run h x.run s).2) :=
    Program.run_bind h x.run (fun r => Program.done (Except.ok (ε := Failure) r)) s
  rw [run_bind, hlift]

namespace Ensures

variable {x : Attempt α} {ok : α → σ → Prop} {err : Failure → σ → Prop}
  {ok' : β → σ → Prop} {err' : Failure → σ → Prop}

/-- A run that ends with a value ends as ensured. -/
theorem of_run_ok (hx : Ensures h x s ok err) {a : α} {s' : σ}
    (hrun : Program.run h x.run s = (.ok a, s')) : ok a s' := by
  unfold Ensures at hx
  rw [hrun] at hx
  exact hx

/-- A run that ends with a failure ends as ensured. -/
theorem of_run_error (hx : Ensures h x s ok err) {f : Failure} {s' : σ}
    (hrun : Program.run h x.run s = (.error f, s')) : err f s' := by
  unfold Ensures at hx
  rw [hrun] at hx
  exact hx

/-- What is ensured of both ways to end holds of the result of the run. -/
theorem run {P : Except Failure α → σ → Prop}
    (hx : Ensures h x s (fun a s' => P (.ok a) s') (fun f s' => P (.error f) s')) :
    P (Program.run h x.run s).1 (Program.run h x.run s).2 := by
  unfold Ensures at hx
  rcases hrun : Program.run h x.run s with ⟨f | a, s'⟩ <;> rw [hrun] at hx <;> exact hx

/-- Every attempt ends. -/
theorem ends (h : Handler σ) (x : Attempt α) (s : σ) :
    Ensures h x s (fun _ _ => True) (fun _ _ => True) := by
  unfold Ensures
  rcases Program.run h x.run s with ⟨f | a, s'⟩ <;> trivial

theorem pure_iff {a : α} : Ensures h (pure a) s ok err ↔ ok a s := Iff.rfl

theorem throw_iff {f : Failure} : Ensures h (throw f) s ok err ↔ err f s := Iff.rfl

theorem throw_bind_iff {f : Failure} {g : α → Attempt β} :
    Ensures h (throw f >>= g) s ok' err' ↔ err' f s := Iff.rfl

/-- A call made for an action ends as its settled result says, in the state after the call. -/
theorem settled_iff {a : Action} {resource : String} {t : ErrorTable} {c : Call}
    {ok : Option c.Reply → σ → Prop} :
    Ensures h (.settled a resource t c) s ok err ↔
      match settle (h c s).1 a resource t with
      | .ok v => ok v (h c s).2
      | .error f => err f (h c s).2 := by
  have hrun : Program.run h (Attempt.settled a resource t c).run s =
      (settle (h c s).1 a resource t, (h c s).2) := rfl
  unfold Ensures
  rw [hrun]
  cases settle (h c s).1 a resource t <;> rfl

/-- A call that succeeds passes its value on. -/
theorem settled_ok {a : Action} {resource : String} {t : ErrorTable} {c : Call} {v : c.Reply}
    {s' : σ} {ok : Option c.Reply → σ → Prop} (hans : h c s = (.ok v, s')) (hok : ok (some v) s') :
    Ensures h (.settled a resource t c) s ok err := by
  rw [settled_iff, hans]
  exact hok

/-- A call whose error counts as success ends without a value. -/
theorem settled_none {a : Action} {resource : String} {t : ErrorTable} {c : Call}
    {e : ProviderError} {s' : σ} {ok : Option c.Reply → σ → Prop} (hans : h c s = (.error e, s'))
    (he : settle (α := c.Reply) (.error e) a resource t = .ok none) (hok : ok none s') :
    Ensures h (.settled a resource t c) s ok err := by
  rw [settled_iff, hans]
  dsimp only
  rw [he]
  exact hok

/-- A call whose error counts as a failure fails with it. -/
theorem settled_error {a : Action} {resource : String} {t : ErrorTable} {c : Call}
    {e : ProviderError} {f : Failure} {s' : σ} {ok : Option c.Reply → σ → Prop}
    (hans : h c s = (.error e, s'))
    (he : settle (α := c.Reply) (.error e) a resource t = .error f) (herr : err f s') :
    Ensures h (.settled a resource t c) s ok err := by
  rw [settled_iff, hans]
  dsimp only
  rw [he]
  exact herr

/-- What is ensured may be weakened. -/
theorem mono {ok₁ : α → σ → Prop} {err₁ : Failure → σ → Prop} (hx : Ensures h x s ok err)
    (hok : ∀ a s', ok a s' → ok₁ a s') (herr : ∀ f s', err f s' → err₁ f s') :
    Ensures h x s ok₁ err₁ := by
  unfold Ensures at hx ⊢
  rcases hrun : Program.run h x.run s with ⟨f | a, s'⟩
  · rw [hrun] at hx
    exact herr f s' hx
  · rw [hrun] at hx
    exact hok a s' hx

/-- One attempt after another: a value of the first is passed on, a failure ends both. -/
theorem bind {f : α → Attempt β} (hx : Ensures h x s ok err)
    (hok : ∀ a s', ok a s' → Ensures h (f a) s' ok' err') (herr : ∀ e s', err e s' → err' e s') :
    Ensures h (x >>= f) s ok' err' := by
  unfold Ensures at hx ⊢
  rw [run_bind]
  rcases hrun : Program.run h x.run s with ⟨e | a, s'⟩
  · rw [hrun] at hx
    exact herr e s' hx
  · rw [hrun] at hx
    exact hok a s' hx

/-- One attempt after another that goes on with the result of the first, whatever it is. -/
theorem bind_run {f : Except Failure α → Attempt β} (hx : Ensures h x s ok err)
    (hok : ∀ a s', ok a s' → Ensures h (f (.ok a)) s' ok' err')
    (herr : ∀ e s', err e s' → Ensures h (f (.error e)) s' ok' err') :
    Ensures h (liftM x.run >>= f) s ok' err' := by
  unfold Ensures at hx ⊢
  rw [run_bind_run]
  rcases hrun : Program.run h x.run s with ⟨e | a, s'⟩
  · rw [hrun] at hx
    exact herr e s' hx
  · rw [hrun] at hx
    exact hok a s' hx

/-- The first step of an attempt that begins with a call is that call. The attempt goes on with the
value of the call, or it has failed. -/
theorem step_bind {a : Action} {resource : String} {t : ErrorTable} {c : Call}
    {ok : Option c.Reply → σ → Prop} (hx : Ensures h (.settled a resource t c) s ok err)
    (f : Option c.Reply → Attempt β) :
    (∃ v s', ok v s' ∧
      Program.step h (Attempt.settled a resource t c >>= f).run s = ((f v).run, s')) ∨
    ∃ e s', err e s' ∧
      Program.step h (Attempt.settled a resource t c >>= f).run s = (.done (.error e), s') := by
  have hstep : Program.step h (Attempt.settled a resource t c >>= f).run s =
      (ExceptT.bindCont f (settle (h c s).1 a resource t), (h c s).2) := rfl
  rw [settled_iff] at hx
  rw [hstep]
  cases hsettle : settle (h c s).1 a resource t with
  | ok v =>
    rw [hsettle] at hx
    exact .inl ⟨v, _, hx, rfl⟩
  | error e =>
    rw [hsettle] at hx
    exact .inr ⟨e, _, hx, rfl⟩

/-- The first step of an attempt that begins with a call, where what is left of it is described by
phases: the step leads into the phase that belongs to the value of the call or to its failure. -/
theorem step_phase {Φ : Type} {program : Φ → Program (Except Failure β)} {P : Φ → σ → Prop}
    {a : Action} {resource : String} {t : ErrorTable} {c : Call} {ok : Option c.Reply → σ → Prop}
    {f : Option c.Reply → Attempt β} (hx : Ensures h (.settled a resource t c) s ok err)
    (hok : ∀ v s', ok v s' → ∃ next, (f v).run = program next ∧ P next s')
    (herr : ∀ e s', err e s' → ∃ next, .done (.error e) = program next ∧ P next s') :
    ∃ next s', Program.step h (Attempt.settled a resource t c >>= f).run s = (program next, s') ∧
      P next s' := by
  rcases hx.step_bind f with ⟨v, s', hv, hstep⟩ | ⟨e, s', he, hstep⟩
  · obtain ⟨next, hnext, hP⟩ := hok v s' hv
    exact ⟨next, s', hstep.trans (by rw [hnext]), hP⟩
  · obtain ⟨next, hnext, hP⟩ := herr e s' he
    exact ⟨next, s', hstep.trans (by rw [hnext]), hP⟩

/-- The first step of an attempt that begins with a call and goes on with its result, whatever it
is. -/
theorem step_bind_run {a : Action} {resource : String} {t : ErrorTable} {c : Call}
    {ok : Option c.Reply → σ → Prop} (hx : Ensures h (.settled a resource t c) s ok err)
    (f : Except Failure (Option c.Reply) → Attempt β) :
    (∃ v s', ok v s' ∧
      Program.step h (liftM (Attempt.settled a resource t c).run >>= f).run s =
        ((f (.ok v)).run, s')) ∨
    ∃ e s', err e s' ∧
      Program.step h (liftM (Attempt.settled a resource t c).run >>= f).run s =
        ((f (.error e)).run, s') := by
  have hstep : Program.step h (liftM (Attempt.settled a resource t c).run >>= f).run s =
      ((f (settle (h c s).1 a resource t)).run, (h c s).2) := rfl
  rw [settled_iff] at hx
  rw [hstep]
  cases hsettle : settle (h c s).1 a resource t with
  | ok v =>
    rw [hsettle] at hx
    exact .inl ⟨v, _, hx, rfl⟩
  | error e =>
    rw [hsettle] at hx
    exact .inr ⟨e, _, hx, rfl⟩

end Ensures

end BucketDriver.Attempt
