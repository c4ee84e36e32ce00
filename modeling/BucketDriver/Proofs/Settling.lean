import BucketDriver.Proofs.Absence
import BucketDriver.Proofs.Attempt

/-!
# Attempts that settle every call

An operation looks at the result of a call only as far as it settles for the action that the call is
made for. `Settling calls t x` says so of the attempt `x`: it is put together from calls among the
given ones, settled by the table `t`, and from failures whose code is not that of success.

What holds of all such attempts is proved here once, by induction on how they are put together, for
any provider: they never fail with the code of success (`Settling.code_ne_ok`), what their calls
preserve holds at their end (`Settling.run_invariant`), and two runs whose calls settle alike end
alike (`Settling.run_related`).
-/

namespace BucketDriver.Attempt

variable {α β σ : Type} {calls : Call → Prop} {t : ErrorTable}

/-- The attempt makes calls among the given ones only, looks at what they settle to by the table,
and gives up with codes other than that of success. -/
inductive Settling (calls : Call → Prop) (t : ErrorTable) : {α : Type} → Attempt α → Prop where
  /-- There is nothing more to do. -/
  | pure {α : Type} (v : α) : Settling calls t (Pure.pure v)
  /-- The attempt gives up. -/
  | throw {α : Type} {f : Failure} (hf : f.code ≠ .ok) :
    Settling calls t (MonadExcept.throw f : Attempt α)
  /-- One call is made. -/
  | settled (a : Action) (resource : String) {c : Call} (hc : calls c) :
    Settling calls t (.settled a resource t c)
  /-- One attempt follows another. -/
  | bind {α β : Type} {x : Attempt α} {f : α → Attempt β} (hx : Settling calls t x)
    (hf : ∀ v, Settling calls t (f v)) : Settling calls t (x >>= f)
  /-- One attempt follows another and looks at its failure, too. -/
  | inspect {α β : Type} {x : Attempt α} {f : Except Failure α → Attempt β}
    (hx : Settling calls t x) (hok : ∀ v, Settling calls t (f (.ok v)))
    (herr : ∀ e : Failure, e.code ≠ .ok → Settling calls t (f (.error e))) :
    Settling calls t (liftM x.run >>= f)

namespace Settling

variable {x : Attempt α} {h : Handler σ}

/-- No failure has the code of success, whatever the provider answers. -/
theorem code_ne_ok (hx : Settling calls t x) (h : Handler σ) (s : σ) :
    Ensures h x s (fun _ _ => True) (fun f _ => f.code ≠ .ok) := by
  induction hx generalizing s with
  | pure v => exact Ensures.pure_iff.2 trivial
  | throw hf => exact Ensures.throw_iff.2 hf
  | @settled a resource c _ =>
    rw [Ensures.settled_iff]
    cases hsettle : settle (h c s).1 a resource t with
    | ok v => trivial
    | error f => exact settle_code_ne_ok hsettle
  | bind _ _ ihx ihf =>
    exact (ihx s).bind (fun v s' _ => ihf v s') fun e s' he => he
  | inspect _ _ _ ihx ihok iherr =>
    exact (ihx s).bind_run (fun v s' _ => ihok v s') fun e s' he => iherr e he s'

/-- What every call preserves holds at the end of a run. -/
theorem run_invariant {P : σ → Prop} (hstep : ∀ c, calls c → ∀ s, P s → P (h c s).2)
    (hx : Settling calls t x) {s : σ} (hs : P s) : P (Program.run h x.run s).2 := by
  induction hx generalizing s with
  | pure v => exact hs
  | throw _ => exact hs
  | settled a resource hc => exact hstep _ hc s hs
  | @bind _ _ x f _ _ ihx ihf =>
    have hmid := ihx hs
    rw [run_bind]
    generalize Program.run h x.run s = last at hmid ⊢
    obtain ⟨e | v, s₁⟩ := last
    · exact hmid
    · exact ihf v hmid
  | @inspect _ _ x f hx _ _ ihx ihok iherr =>
    have hmid := ihx hs
    have hends := hx.code_ne_ok h s
    rw [run_bind_run]
    generalize hrun : Program.run h x.run s = last at hmid ⊢
    obtain ⟨e | v, s₁⟩ := last
    · exact iherr e (hends.of_run_error hrun) hmid
    · exact ihok v hmid

/-- Two runs, each against a provider of its own, from states in a relation: when every call settles
to the same in both and leads to states in the relation again, so does the whole run. -/
theorem run_related {τ : Type} {h' : Handler τ} {R : σ → τ → Prop}
    (hstep : ∀ c, calls c → ∀ s s', R s s' →
      (∀ a resource, settle (h c s).1 a resource t = settle (h' c s').1 a resource t) ∧
        R (h c s).2 (h' c s').2)
    (hx : Settling calls t x) {s : σ} {s' : τ} (hs : R s s') :
    (Program.run h x.run s).1 = (Program.run h' x.run s').1 ∧
      R (Program.run h x.run s).2 (Program.run h' x.run s').2 := by
  induction hx generalizing s s' with
  | pure v => exact ⟨rfl, hs⟩
  | throw _ => exact ⟨rfl, hs⟩
  | settled a resource hc =>
    obtain ⟨hsettle, hnext⟩ := hstep _ hc s s' hs
    exact ⟨hsettle a resource, hnext⟩
  | @bind _ _ x f _ _ ihx ihf =>
    obtain ⟨hres, hmid⟩ := ihx hs
    rw [run_bind, run_bind]
    generalize Program.run h x.run s = last at hres hmid ⊢
    generalize Program.run h' x.run s' = last' at hres hmid ⊢
    obtain ⟨res, s₁⟩ := last
    obtain ⟨res', s₁'⟩ := last'
    obtain rfl : res = res' := hres
    cases res with
    | error e => exact ⟨rfl, hmid⟩
    | ok v => exact ihf v hmid
  | @inspect _ _ x f hx _ _ ihx ihok iherr =>
    obtain ⟨hres, hmid⟩ := ihx hs
    have hends := hx.code_ne_ok h s
    rw [run_bind_run, run_bind_run]
    generalize hrun : Program.run h x.run s = last at hres hmid ⊢
    generalize Program.run h' x.run s' = last' at hres hmid ⊢
    obtain ⟨res, s₁⟩ := last
    obtain ⟨res', s₁'⟩ := last'
    obtain rfl : res = res' := hres
    -- The follower is given the same result in both runs.
    cases res with
    | error e => exact iherr e (hends.of_run_error hrun) hmid
    | ok v => exact ihok v hmid

end Settling

end BucketDriver.Attempt
