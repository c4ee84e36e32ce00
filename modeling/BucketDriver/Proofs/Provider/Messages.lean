import BucketDriver.Proofs.Service.Resource
import Mathlib.Data.List.Infix

/-!
# Messages from templates

A template of either error table has the slot for the resource in it and no other opening brace
(`OneSlot`), so filling it puts the resource between the two texts around the slot and reads on
behind it: what the resource itself is made of plays no part, slot texts included.

Main statement: `message_verbatim`. The message of an entry with a template has the resource
verbatim between two fixed texts, so that no two resources share a message, and the message of any
other entry is the same for all resources.
-/

namespace BucketDriver

/-- A text with the slot in it and with no opening brace but that of the slot. -/
structure OneSlot (template : String) : Prop where
  /-- The slot is there. -/
  slotted : slot.toList <:+: template.toList
  /-- It begins at the only opening brace. -/
  brace : template.toList.count '\x7b' = 1

instance : DecidablePred OneSlot := fun template =>
  decidable_of_iff (slot.toList <:+: template.toList ∧ template.toList.count '\x7b' = 1)
    ⟨fun h => ⟨h.1, h.2⟩, fun h => ⟨h.slotted, h.brace⟩⟩

/-- Such a text consists of two texts without a brace and the slot between them. -/
theorem OneSlot.exists_around {template : String} (h : OneSlot template) :
    ∃ front back : String, template = front ++ slot ++ back ∧
      '\x7b' ∉ front.toList ∧ '\x7b' ∉ back.toList := by
  obtain ⟨front, back, htemplate⟩ := h.slotted
  have hcount := h.brace
  have hslot : slot.toList.count '\x7b' = 1 := by decide
  rw [← htemplate, List.count_append, List.count_append, hslot] at hcount
  refine ⟨String.ofList front, String.ofList back, ?_, ?_, ?_⟩
  · apply String.toList_injective
    simp [← htemplate]
  · rw [String.toList_ofList, ← List.count_eq_zero]
    omega
  · rw [String.toList_ofList, ← List.count_eq_zero]
    omega

/-- Filling the slot between texts without a brace puts the new text there, whatever it is. -/
theorem replace_slot {front back : String} (hfront : '\x7b' ∉ front.toList)
    (hback : '\x7b' ∉ back.toList) (new : String) :
    Text.replace slot new (front ++ slot ++ back) = front ++ new ++ back := by
  have hslot : slot.toList = '\x7b' :: ['r', 'e', 's', 'o', 'u', 'r', 'c', 'e', '\x7d'] := by
    decide
  apply String.toList_injective
  rw [Text.replace, String.toList_ofList, String.toList_append, String.toList_append, hslot,
    Text.replaceFrom_slot _ _ hfront hback, String.toList_append, String.toList_append]

variable {service : ProviderService} {code template : String} {m : Mapping}

/-- Every template of either service is one. -/
theorem oneSlot_of_mem (hm : (code, m) ∈ service.errors.entries)
    (ht : m.template? = some template) : OneSlot template := by
  have hall : ∀ entry ∈ service.errors.entries, ∀ t ∈ entry.2.template?, OneSlot t := by
    cases service <;> decide +kernel
  exact hall (code, m) hm template ht

/-- With a template, every message is the resource between the two texts around the slot. -/
theorem exists_message_texts (hm : (code, m) ∈ service.errors.entries)
    (ht : m.template? = some template) :
    ∃ front back, template = front ++ slot ++ back ∧
      ∀ resource, m.clientMessage resource = front ++ resource ++ back := by
  obtain ⟨front, back, rfl, hfront, hback⟩ := (oneSlot_of_mem hm ht).exists_around
  refine ⟨front, back, rfl, fun resource => ?_⟩
  rw [Mapping.clientMessage, ht]
  exact replace_slot hfront hback resource

/-- Equal messages with the same texts around their resources are about the same resource. -/
theorem resource_eq_of_message {front back resource resource' : String}
    (h : front ++ resource ++ back = front ++ resource' ++ back) : resource = resource' := by
  have hchars := congrArg String.toList h
  simp only [String.toList_append, List.append_left_inj, List.append_right_inj] at hchars
  exact String.toList_injective hchars

/-- What a mapping tells its callers of resources. -/
structure Mapping.Verbatim (m : Mapping) : Prop where
  /-- With a template, the resource between the two texts around the slot. -/
  told : ∀ template, m.template? = some template → ∃ front back, template = front ++ slot ++ back ∧
    ∀ resource, m.clientMessage resource = front ++ resource ++ back
  /-- Then no two resources have the same message. -/
  distinct : m.template? ≠ none → Function.Injective m.clientMessage
  /-- Without a template, nothing. -/
  logged : m.template? = none → ∀ resource resource',
    m.clientMessage resource = m.clientMessage resource'

/-- The messages of both services have the resource in them as it is. Between the texts of a
template it stands unchanged and is not searched for slots, whatever it is. -/
theorem message_verbatim (hm : (code, m) ∈ service.errors.entries) : m.Verbatim where
  told _ ht := exists_message_texts hm ht
  distinct hsome resource resource' hmessage := by
    obtain ⟨template, ht⟩ := Option.ne_none_iff_exists'.1 hsome
    obtain ⟨front, back, -, hmessages⟩ := exists_message_texts hm ht
    rw [hmessages, hmessages] at hmessage
    exact resource_eq_of_message hmessage
  logged hnone resource resource' := by
    rw [Mapping.clientMessage, Mapping.clientMessage, hnone]

/-- An entry with a text behind the slot. -/
def quotaEntry : String × Mapping :=
  ("TooManyBuckets", .told .resourceExhausted "bucket quota exceeded"
    ("cannot create bucket " ++ slot ++ ": bucket limit reached"))

/-- An entry without a template. -/
def unknownKeyEntry : String × Mapping :=
  ("InvalidAccessKeyId",
    .logged .unauthenticated "object store does not recognize the configured access key")

/-- A name that becomes a slot when the slot in it is taken out. -/
def nestedSlot : String := "\x7bre" ++ slot ++ "source\x7d"

/-- A slot and a name with a slot in it are told apart where the message names the bucket, and no
name is told where it does not. -/
theorem message_verbatim_slots :
    quotaEntry ∈ objectStoreErrors.entries ∧ unknownKeyEntry ∈ objectStoreErrors.entries ∧
      (∃ front back, ∀ resource, quotaEntry.2.clientMessage resource = front ++ resource ++ back) ∧
      quotaEntry.2.clientMessage slot ≠ quotaEntry.2.clientMessage nestedSlot ∧
      unknownKeyEntry.2.clientMessage slot = unknownKeyEntry.2.clientMessage "" := by
  have hquota : quotaEntry ∈ ProviderService.objectStore.errors.entries := by decide
  have hunknown : unknownKeyEntry ∈ ProviderService.objectStore.errors.entries := by decide
  have hverbatim := message_verbatim hquota
  obtain ⟨front, back, -, hmessages⟩ := hverbatim.told _ rfl
  refine ⟨hquota, hunknown, ⟨front, back, hmessages⟩, fun hsame => ?_,
    (message_verbatim hunknown).logged rfl _ _⟩
  have hslot : slot ≠ nestedSlot := by decide
  exact hslot (hverbatim.distinct nofun hsame)

end BucketDriver
