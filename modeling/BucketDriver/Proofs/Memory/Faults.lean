import BucketDriver.Memory.Store
import BucketDriver.Proofs.Absence

/-!
# Queued faults

Calls only ever take faults from the front of their queues, so of the faults that were queued at one
time those still queued later are a rest (`Store.Spends`), and those in front of it are the ones
taken in between (`Store.taken`, `Spends.taken_append`). `Store.TookOnly` says something of all of
them; it passes to both parts of a run (`TookOnly.left`, `TookOnly.right`), which is how a condition
on the faults of a whole operation reaches each of its calls.
-/

namespace BucketDriver.Memory

namespace Store

/-- Of each queue of faults a rest is left. -/
def Spends (s s' : Store) : Prop :=
  ∀ kind, s'.faults kind <:+ s.faults kind

/-- The codes of the faults of a kind that were taken between two stores, in order. -/
def taken (s s' : Store) (kind : CallKind) : List String :=
  (s.faults kind).take ((s.faults kind).length - (s'.faults kind).length)

/-- The codes of all faults of some kinds that were taken between two stores have a property. -/
def TookOnly (P : String → Prop) (kinds : List CallKind) (s s' : Store) : Prop :=
  ∀ kind ∈ kinds, ∀ code ∈ s.taken s' kind, P code

/-- No faults of some kinds were taken between two stores. -/
abbrev TookNone (kinds : List CallKind) (s s' : Store) : Prop :=
  TookOnly (fun _ => False) kinds s s'

/-- No faults of some kinds that were taken between two stores say that something is absent. -/
abbrev TookNoAbsence (kinds : List CallKind) (s s' : Store) : Prop :=
  TookOnly (fun code => ¬ IsAbsenceCode code) kinds s s'

/-- No faults are queued for any kind of calls. -/
def FaultFree (s : Store) : Prop :=
  ∀ kind, s.faults kind = []

variable {s s₁ s₂ : Store}

theorem Spends.refl (s : Store) : s.Spends s := fun _ => List.suffix_rfl

theorem Spends.trans (h₁ : s.Spends s₁) (h₂ : s₁.Spends s₂) : s.Spends s₂ :=
  fun kind => (h₂ kind).trans (h₁ kind)

/-- A queue consists of the faults taken and those still there. -/
theorem Spends.taken_append (h : s.Spends s₁) (kind : CallKind) :
    s.taken s₁ kind ++ s₁.faults kind = s.faults kind := by
  obtain ⟨front, hfront⟩ := h kind
  unfold taken
  rw [← hfront]
  simp

/-- What a run takes is what its first part takes and then what its second part takes. -/
theorem taken_trans (h₁ : s.Spends s₁) (h₂ : s₁.Spends s₂) (kind : CallKind) :
    s.taken s₂ kind = s.taken s₁ kind ++ s₁.taken s₂ kind := by
  apply (List.append_left_inj (s₂.faults kind)).1
  rw [(h₁.trans h₂).taken_append, List.append_assoc, h₂.taken_append, h₁.taken_append]

/-- Without faults in the queues of a store none are there later. -/
theorem FaultFree.of_spends (h : s.FaultFree) (hs : s.Spends s₁) : s₁.FaultFree := by
  intro kind
  have hsuffix := hs kind
  rw [h kind] at hsuffix
  exact List.suffix_nil.1 hsuffix

/-- What is queued is what was taken and what is still there. -/
theorem Spends.length_taken (h : s.Spends s₁) (kind : CallKind) :
    (s.taken s₁ kind).length + (s₁.faults kind).length = (s.faults kind).length := by
  rw [← List.length_append, h.taken_append]

/-- Where not none was taken, one was. -/
theorem exists_taken {kinds : List CallKind} (h : ¬ TookNone kinds s s₁) :
    ∃ kind ∈ kinds, s.taken s₁ kind ≠ [] := by
  refine Classical.byContradiction fun hnone => h fun kind hkind code hcode => hnone ?_
  exact ⟨kind, hkind, List.ne_nil_of_mem hcode⟩

namespace TookOnly

variable {P : String → Prop} {kinds kinds' : List CallKind}

theorem left (h : TookOnly P kinds s s₂) (h₁ : s.Spends s₁) (h₂ : s₁.Spends s₂) :
    TookOnly P kinds s s₁ := by
  intro kind hkind code hcode
  apply h kind hkind
  rw [taken_trans h₁ h₂]
  exact List.mem_append_left _ hcode

theorem right (h : TookOnly P kinds s s₂) (h₁ : s.Spends s₁) (h₂ : s₁.Spends s₂) :
    TookOnly P kinds s₁ s₂ := by
  intro kind hkind code hcode
  apply h kind hkind
  rw [taken_trans h₁ h₂]
  exact List.mem_append_right _ hcode

/-- What holds of all queued faults holds of those taken. -/
theorem of_queued (h : ∀ kind ∈ kinds, ∀ code ∈ s.faults kind, P code) :
    TookOnly P kinds s s₁ :=
  fun kind hkind code hcode => h kind hkind code (List.mem_of_mem_take hcode)

/-- Without faults in the queues none are taken. -/
theorem of_faultFree (h : s.FaultFree) : TookOnly P kinds s s₁ := by
  refine of_queued fun kind _ code hcode => ?_
  rw [h kind] at hcode
  cases hcode

/-- Fewer kinds take fewer faults. -/
theorem of_subset (h : TookOnly P kinds s s₁) (hsub : kinds' ⊆ kinds) : TookOnly P kinds' s s₁ :=
  fun kind hkind => h kind (hsub hkind)

/-- Where no faults are taken, all that are taken have any property. -/
theorem of_none (h : TookNone kinds s s₁) : TookOnly P kinds s s₁ :=
  fun kind hkind code hcode => (h kind hkind code hcode).elim

end TookOnly

end Store

/-- A call of a kind has taken the first fault of its queue, with a code, and done nothing else. -/
def Faulted (kind : CallKind) (code : String) (s s' : State) : Prop :=
  ∃ rest, s.store.faults kind = code :: rest ∧
    s' = { s with store := s.store.setFaults kind rest }

namespace Faulted

variable {kind : CallKind} {code : String} {s s' : State}

/-- Without faults in the queues no call takes one. -/
theorem elim {P : Prop} (h : Faulted kind code s s') (hs : s.store.FaultFree) : P := by
  obtain ⟨rest, hqueue, -⟩ := h
  rw [hs kind] at hqueue
  cases hqueue

theorem users (h : Faulted kind code s s') : s'.store.users = s.store.users := by
  obtain ⟨rest, -, rfl⟩ := h
  rfl

theorem buckets (h : Faulted kind code s s') : s'.store.buckets = s.store.buckets := by
  obtain ⟨rest, -, rfl⟩ := h
  rfl

theorem keys (h : Faulted kind code s s') : s'.keys = s.keys := by
  obtain ⟨rest, -, rfl⟩ := h
  rfl

theorem spends (h : Faulted kind code s s') : s.store.Spends s'.store := by
  obtain ⟨rest, hqueue, rfl⟩ := h
  intro k
  by_cases hk : k = kind
  · subst hk
    simp [Store.setFaults, hqueue]
  · simp [Store.setFaults, hk]

/-- The fault is the one that was taken. -/
theorem taken (h : Faulted kind code s s') : s.store.taken s'.store kind = [code] := by
  obtain ⟨rest, hqueue, rfl⟩ := h
  simp [Store.taken, Store.setFaults, hqueue]

/-- What holds of all faults taken holds of this one. -/
theorem of_tookOnly {P : String → Prop} {kinds : List CallKind} (h : Faulted kind code s s')
    (hkind : kind ∈ kinds) (hP : Store.TookOnly P kinds s.store s'.store) : P code :=
  hP kind hkind code (by rw [h.taken]; exact List.mem_singleton_self code)

end Faulted

end BucketDriver.Memory
