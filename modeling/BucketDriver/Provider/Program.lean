import BucketDriver.Provider.Call
import BucketDriver.Provider.Normalize

/-!
# Programs of provider calls

A program is a computation that may call a provider: it is done, or it makes a call and goes on with
the result. One program can be run against any provider (`Program.run`), and its calls can be taken
one at a time, so that several programs take turns on one provider (`Program.step`).

Programs form a lawful monad, and running is a homomorphism: `run_bind`.
-/

namespace BucketDriver

/-- A computation that may call a provider. -/
inductive Program (α : Type) : Type where
  /-- The computation has ended. -/
  | done (result : α)
  /-- The computation makes a call and goes on with its result. -/
  | call (c : Call) (next : c.Result → Program α)

namespace Program

variable {α β σ : Type}

/-- Goes on with another program when one has ended. -/
def bind : Program α → (α → Program β) → Program β
  | done a, f => f a
  | call c next, f => call c fun r => (next r).bind f

instance : Monad Program where
  pure := done
  bind := bind

theorem bind_done (p : Program α) : p.bind done = p := by
  induction p with
  | done a => rfl
  | call c next ih => simp only [bind, ih]

theorem bind_assoc {γ : Type} (p : Program α) (f : α → Program β) (g : β → Program γ) :
    (p.bind f).bind g = p.bind fun a => (f a).bind g := by
  induction p with
  | done a => rfl
  | call c next ih => simp only [bind, ih]

instance : LawfulMonad Program :=
  .mk' Program
    (fun p => bind_done p)
    (fun _ _ => rfl)
    (fun p f g => bind_assoc p f g)
    (fun _ _ => rfl)
    (fun _ _ => rfl)

/-- Runs a program against a provider. -/
def run (h : Handler σ) : Program α → σ → α × σ
  | done a, s => (a, s)
  | call c next, s => run h (next (h c s).1) (h c s).2

/-- The first call of a program made against a provider; a program that has ended stays as it is. -/
def step (h : Handler σ) : Program α → σ → Program α × σ
  | done a, s => (done a, s)
  | call c next, s => (next (h c s).1, (h c s).2)

@[simp] theorem run_call (h : Handler σ) (c : Call) (next : c.Result → Program α) (s : σ) :
    (call c next).run h s = (next (h c s).1).run h (h c s).2 := rfl

/-- Running one program after another is running them joined. -/
theorem run_bind (h : Handler σ) (p : Program α) (f : α → Program β) (s : σ) :
    (p.bind f).run h s = (f (p.run h s).1).run h (p.run h s).2 := by
  induction p generalizing s with
  | done a => rfl
  | call c next ih => simp only [bind, run_call, ih]

end Program

/-- A program that may fail. -/
abbrev Attempt := ExceptT Failure Program

/-- Makes a call for an action and settles its result. -/
def Attempt.settled (a : Action) (resource : String) (t : ErrorTable) (c : Call) :
    Attempt (Option c.Reply) :=
  ExceptT.mk (.call c fun r => .done (settle r a resource t))

/-- A provider that keeps note of the calls it has answered, the last one first. -/
def Handler.traced {σ : Type} (h : Handler σ) : Handler (List Call × σ) :=
  fun c (calls, s) => ((h c s).1, c :: calls, (h c s).2)

end BucketDriver
