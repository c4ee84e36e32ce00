import BucketDriver.Proofs.Memory.Account
import BucketDriver.Provision.Access

/-!
# Deleting the keys of an account

Grants and revocations delete the keys that were listed, one call a key. `deleteKeys_ensures` says
what becomes of the account, however the loop ends: it keeps its policies, and of its keys a part.
None of those to be deleted is left when the loop ends well, unless a fault said that a key was
gone, and only a fault makes it fail.
-/

namespace BucketDriver.Provision

open Attempt (Ensures)
open Memory (State UserRecord SameBut Faulted answer)
open Memory.Store (TookOnly TookNone TookNoAbsence)

variable {caller account : String} {a : Action} {s : State}

/-- Deletes keys for an action. -/
abbrev deleteKeysFor (a : Action) (account : String) (ids : List String) : Attempt Unit :=
  deleteKeys (fun c => do let _ ← Attempt.settled a account identityErrors c) account ids

/-- One turn of the loop: the key is gone unless a fault said so, and only a fault makes it fail. -/
theorem deleteKey_ensures {record : UserRecord} (ha : a.toleratesAbsence = true) (id : String)
    (hu : s.store.users.get? account = some record) :
    Ensures (answer caller)
      (do let _ ← Attempt.settled a account identityErrors (.deleteAccessKey account id)) s
      (fun _ s' => SameBut account s s' ∧ ∃ kept, kept ⊆ record.keys ∧
        s'.store.users.get? account = some { record with keys := kept } ∧
        (TookNoAbsence [.deleteAccessKey] s.store s'.store → kept.get? id = none))
      (fun _ s' => SameBut account s s' ∧ s'.store.users.get? account = some record ∧
        ¬ TookNone [.deleteAccessKey] s.store s'.store) := by
  refine Ensures.bind (Memory.deleteAccessKey_ensures hu ha) ?_ ?_
  · rintro - s₁ (rfl | ⟨code, hfault, hcode⟩)
    · refine ⟨.setUser _ _ _, record.keys.erase id, Dict.erase_subset _ _, ?_, fun _ => ?_⟩
      · exact Memory.Store.get?_setUser_self
      · exact Dict.get?_erase_self _ _
    · refine ⟨.of_faulted account hfault, record.keys, Dict.subset_refl _, ?_, fun htook => ?_⟩
      · rw [hfault.users]
        exact hu
      · exact absurd hcode (hfault.of_tookOnly List.mem_cons_self htook)
  · rintro - s₁ ⟨code, hfault, -⟩
    refine ⟨.of_faulted account hfault, ?_, fun htook => ?_⟩
    · rw [hfault.users]
      exact hu
    · exact hfault.of_tookOnly List.mem_cons_self htook

/-- The loop over the keys, from any account: by induction on the keys still to be deleted. -/
theorem deleteKeys_ensures (ha : a.toleratesAbsence = true) (ids : List String)
    (record : UserRecord) (hu : s.store.users.get? account = some record) :
    Ensures (answer caller) (deleteKeysFor a account ids) s
      (fun _ s' => SameBut account s s' ∧ ∃ kept, kept ⊆ record.keys ∧
        s'.store.users.get? account = some { record with keys := kept } ∧
        (TookNoAbsence [.deleteAccessKey] s.store s'.store → ∀ id ∈ ids, kept.get? id = none))
      (fun _ s' => SameBut account s s' ∧ ∃ kept, kept ⊆ record.keys ∧
        s'.store.users.get? account = some { record with keys := kept } ∧
        ¬ TookNone [.deleteAccessKey] s.store s'.store) := by
  induction ids generalizing s record with
  | nil =>
    exact ⟨.refl account s, record.keys, Dict.subset_refl _, hu, fun _ id hid => by cases hid⟩
  | cons id ids ih =>
    refine Ensures.bind (deleteKey_ensures ha id hu) ?_ ?_
    · rintro - s₁ ⟨hsame₁, kept₁, hkept₁, hu₁, hid⟩
      refine (ih _ hu₁).mono ?_ ?_
      · rintro - s₂ ⟨hsame₂, kept, hkept, hu₂, hids⟩
        refine ⟨hsame₁.trans hsame₂, kept, Dict.subset_trans hkept hkept₁, hu₂, fun htook => ?_⟩
        have hleft := htook.left hsame₁.spends hsame₂.spends
        have hright := htook.right hsame₁.spends hsame₂.spends
        intro id' hid'
        rcases List.mem_cons.1 hid' with rfl | hid'
        · exact Dict.get?_eq_none_of_subset hkept (hid hleft)
        · exact hids hright id' hid'
      · rintro - s₂ ⟨hsame₂, kept, hkept, hu₂, htook⟩
        refine ⟨hsame₁.trans hsame₂, kept, Dict.subset_trans hkept hkept₁, hu₂, fun hnone => ?_⟩
        exact htook (hnone.right hsame₁.spends hsame₂.spends)
    · rintro - s₁ ⟨hsame₁, hu₁, htook⟩
      exact ⟨hsame₁, record.keys, Dict.subset_refl _, hu₁, htook⟩

end BucketDriver.Provision
