import BucketDriver.Provider.Program
import Mathlib.Logic.Function.Basic

/-!
# Races

A race is a family of programs that take turns on one provider, each with a handler of its own,
since a provider may tell its callers apart. At its turn a program makes its next call, and the
provider answers it before anybody else has a turn; so an interleaving of the calls of all programs
is the list of whose turn it was (`Race.run`), and a turn of a program that has ended changes
nothing.

What holds throughout a race is proved by `Race.run_invariant`. It lets every program be described
by a phase, which is how far it has come, so that an invariant speaks of phases and not of programs.
-/

namespace BucketDriver

/-- The call that a program makes next, unless it has ended. -/
def Program.next? {α : Type} : Program α → Option Call
  | .done _ => none
  | .call c _ => some c

/-- Programs that take turns on a provider. -/
structure Race {ι : Type} (α : ι → Type) (σ : Type) where
  /-- What is left of each program. -/
  programs : (i : ι) → Program (α i)
  /-- The state of the provider. -/
  state : σ

namespace Race

variable {ι : Type} [DecidableEq ι] {α : ι → Type} {σ : Type}
  {h : ι → Handler σ}

/-- One of the programs makes its next call. -/
def turn (h : ι → Handler σ) (r : Race α σ) (i : ι) : Race α σ :=
  ⟨Function.update r.programs i ((r.programs i).step (h i) r.state).1,
    ((r.programs i).step (h i) r.state).2⟩

/-- The programs take turns in an order. -/
def run (h : ι → Handler σ) (r : Race α σ) (turns : List ι) : Race α σ :=
  turns.foldl (turn h) r

/-- The turns of a race may be taken in two parts. -/
theorem run_append (r : Race α σ) (before after : List ι) :
    r.run h (before ++ after) = (r.run h before).run h after :=
  List.foldl_append

section

variable {Φ : ι → Type} {program : (i : ι) → Φ i → Program (α i)}
  {I : ((i : ι) → Φ i) → σ → Prop}

/-- The race of the programs that are in given phases. -/
def ofPhases (program : (i : ι) → Φ i → Program (α i)) (φ : (i : ι) → Φ i) (s : σ) : Race α σ :=
  ⟨fun i => program i (φ i), s⟩

/-- A turn of a program that goes from one phase to another. -/
theorem turn_ofPhases {φ : (i : ι) → Φ i} {s s' : σ} {i : ι} {next : Φ i}
    (hstep : (program i (φ i)).step (h i) s = (program i next, s')) :
    (ofPhases program φ s).turn h i = ofPhases program (Function.update φ i next) s' := by
  unfold turn ofPhases
  dsimp only
  rw [hstep]
  dsimp only
  congr 1
  funext j
  exact (Function.apply_update program φ i next j).symm

/-- What every turn preserves in a race of some kind holds throughout it, if the race is of that
kind at all times: by induction on the turns. -/
theorem run_invariant_of {P : Race α σ → Prop}
    (hstep : ∀ φ s i, P (ofPhases program φ s) → I φ s →
      ∃ next s', (program i (φ i)).step (h i) s = (program i next, s') ∧
        I (Function.update φ i next) s')
    {φ : (i : ι) → Φ i} {s : σ} (hI : I φ s) {turns : List ι}
    (hP : ∀ before, before <+: turns → P ((ofPhases program φ s).run h before)) :
    ∃ φ' s', (ofPhases program φ s).run h turns = ofPhases program φ' s' ∧ I φ' s' := by
  induction turns generalizing φ s with
  | nil => exact ⟨φ, s, rfl, hI⟩
  | cons i turns ih =>
    obtain ⟨next, s₁, hnext, hI₁⟩ := hstep φ s i (hP [] List.nil_prefix) hI
    have hturn := turn_ofPhases hnext
    have hP₁ : ∀ before, before <+: turns →
        P ((ofPhases program (Function.update φ i next) s₁).run h before) := by
      intro before hbefore
      rw [← hturn]
      exact hP (i :: before) (List.cons_prefix_cons.2 ⟨rfl, hbefore⟩)
    obtain ⟨φ', s', hrun, hI'⟩ := ih hI₁ hP₁
    refine ⟨φ', s', ?_, hI'⟩
    rw [← hrun, ← hturn]
    rfl

/-- What every turn preserves holds throughout a race. -/
theorem run_invariant
    (hstep : ∀ φ s i, I φ s → ∃ next s', (program i (φ i)).step (h i) s = (program i next, s') ∧
      I (Function.update φ i next) s')
    {φ : (i : ι) → Φ i} {s : σ} (hI : I φ s) (turns : List ι) :
    ∃ φ' s', (ofPhases program φ s).run h turns = ofPhases program φ' s' ∧ I φ' s' :=
  run_invariant_of (P := fun _ => True) (fun φ s i _ => hstep φ s i) hI fun _ _ => trivial

end

end Race

end BucketDriver
