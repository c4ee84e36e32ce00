import BucketDriver.Text.Blank
import Mathlib.Data.List.TakeWhile

/-!
# What trimming leaves

A text is blank when trimming leaves nothing of it (`isBlank_iff_trim_eq_empty`), and what is left
of any other text neither starts nor ends with a blank character (`head?_trimChars`,
`getLast?_trimChars`).
-/

namespace BucketDriver.Text

variable {cs : List Char} {c : Char}

theorem trimChars_eq_nil_iff : trimChars cs = [] ↔ ∀ c ∈ cs, isBlankChar c = true := by
  rw [trimChars, List.reverse_eq_nil_iff, List.dropWhile_eq_nil_iff]
  constructor
  · intro hrest
    -- What is left in front would start with a character that is not blank.
    have hnil : cs.dropWhile isBlankChar = [] := by
      by_contra hne
      have hhead : isBlankChar ((cs.dropWhile isBlankChar).head hne) = false :=
        List.head_dropWhile_not isBlankChar hne
      rw [hrest _ (List.mem_reverse.2 (List.head_mem hne))] at hhead
      cases hhead
    exact List.dropWhile_eq_nil_iff.1 hnil
  · intro h c hc
    rw [List.dropWhile_eq_nil_iff.2 h] at hc
    cases hc

/-- A text is blank exactly when trimming leaves nothing. -/
theorem isBlank_iff_trim_eq_empty (s : String) : isBlank s = true ↔ trim s = "" := by
  rw [isBlank, List.all_eq_true, ← trimChars_eq_nil_iff, trim, ← String.toList_inj,
    String.toList_ofList, String.toList_empty]

/-- What trimming leaves does not start with a blank character. -/
theorem head?_trimChars (h : (trimChars cs).head? = some c) : isBlankChar c = false := by
  -- It is the front of the characters behind the blank ones, and starts as they do.
  have hprefix : trimChars cs <+: cs.dropWhile isBlankChar := by
    rw [← List.reverse_suffix, trimChars, List.reverse_reverse]
    exact List.dropWhile_suffix _
  obtain ⟨behind, hbehind⟩ := hprefix
  have hhead : (cs.dropWhile isBlankChar).head? = some c := by
    rw [← hbehind, List.head?_append, h, Option.some_or]
  simpa [hhead] using List.head?_dropWhile_not isBlankChar cs

/-- What trimming leaves does not end with a blank character. -/
theorem getLast?_trimChars (h : (trimChars cs).getLast? = some c) : isBlankChar c = false := by
  rw [trimChars, List.getLast?_reverse] at h
  simpa [h] using List.head?_dropWhile_not isBlankChar (cs.dropWhile isBlankChar).reverse

end BucketDriver.Text
