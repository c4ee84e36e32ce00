import BucketDriver.Json.Reader

/-!
# Reading the characters of strings

What a reader makes of the next character of a string: of one that stands for itself, in any number
of bytes (`stringOnto_encodeChar`), of a short escape, and of an escape by number.
-/

namespace BucketDriver.Json

theorem stringOnto_quote (read : List Char) (s : List UInt8) :
    stringOnto read none (Byte.quote :: s) = .ok (String.ofList read.reverse, s) := by
  rw [stringOnto.eq_def]
  simp only [if_true]

theorem stringOnto_short {e : UInt8} {c : Char} (h : shortEscape? e = some c)
    (read : List Char) (s : List UInt8) :
    stringOnto read none (Byte.backslash :: e :: s) = stringOnto (c :: read) none s := by
  rw [stringOnto.eq_def]
  simp only [h]
  rw [if_neg (by decide), if_pos trivial]

/-- An escape of a character by its number. -/
theorem stringOnto_numbered {a b c d : UInt8} {n : Nat} (h : hexQuad? a b c d = some n)
    (hlow : isLowSurrogate n = false) (hhigh : isHighSurrogate n = false) (read : List Char)
    (s : List UInt8) :
    stringOnto read none (Byte.backslash :: Byte.letterU :: a :: b :: c :: d :: s) =
      stringOnto (Char.ofNat n :: read) none s := by
  have hu : shortEscape? Byte.letterU = none := by decide
  rw [stringOnto.eq_def]
  simp only [h, hlow, hhigh, hu]
  rw [if_neg (by decide), if_pos trivial, if_neg (not_not_intro rfl), if_neg Bool.false_ne_true,
    if_neg Bool.false_ne_true]

/-- A character that needs no escape is read as itself. -/
theorem stringOnto_encodeChar {c : Char} (hquote : c ≠ '"') (hslash : c ≠ '\\')
    (hcontrol : 0x20 ≤ c.toNat) (read : List Char) (s : List UInt8) :
    stringOnto read none (Text.Utf8.encodeChar c ++ s) = stringOnto (c :: read) none s := by
  have hmax : c.toNat < 0x110000 := by
    rcases c.valid with h | h
    · exact Nat.lt_trans h (by decide)
    · exact h.2
  have hquote' : c.toNat ≠ 0x22 := fun h => hquote (Char.toNat_inj.1 h)
  have hslash' : c.toNat ≠ 0x5C := fun h => hslash (Char.toNat_inj.1 h)
  -- No byte that starts the character means anything else in a string.
  have plain : ∀ {a : UInt8}, a.toNat ≠ 0x22 → a.toNat ≠ 0x5C → 0x20 ≤ a.toNat →
      a ≠ Byte.quote ∧ a ≠ Byte.backslash ∧ ¬ a.toNat < 0x20 := fun h₁ h₂ h₃ =>
    ⟨fun h => h₁ (congrArg UInt8.toNat h), fun h => h₂ (congrArg UInt8.toNat h), Nat.not_lt.2 h₃⟩
  rw [Text.Utf8.encodeChar]
  by_cases h₁ : c.toNat < 0x80
  · have ha : (UInt8.ofNat c.toNat).toNat = c.toNat := Text.Utf8.toNat_ofNat (by omega)
    obtain ⟨hq, hb, -⟩ := plain (a := .ofNat c.toNat) (by omega) (by omega) (by omega)
    rw [if_pos h₁, List.singleton_append, stringOnto.eq_def]
    simp only [if_neg hq, if_neg hb, ha, if_pos h₁, Char.ofNat_toNat]
    rw [if_neg (Nat.not_lt.2 hcontrol)]
  rw [if_neg h₁]
  by_cases h₂ : c.toNat < 0x800
  · have ha : (UInt8.ofNat (0xC0 + c.toNat / 0x40)).toNat = 0xC0 + c.toNat / 0x40 :=
      Text.Utf8.toNat_ofNat (by omega)
    obtain ⟨hq, hb, hc⟩ :=
      plain (a := .ofNat (0xC0 + c.toNat / 0x40)) (by omega) (by omega) (by omega)
    have hp := @Text.Utf8.pair?_ofNat (0xC0 + c.toNat / 0x40) c (by omega) (c.toNat % 0x40)
      (by omega) (by omega)
    rw [if_pos h₂, List.cons_append, List.singleton_append, stringOnto.eq_def]
    simp only [if_neg hq, if_neg hb, if_neg hc, hp]
    rw [if_neg (by omega)]
  rw [if_neg h₂]
  by_cases h₃ : c.toNat < 0x10000
  · have ha : (UInt8.ofNat (0xE0 + c.toNat / 0x1000)).toNat = 0xE0 + c.toNat / 0x1000 :=
      Text.Utf8.toNat_ofNat (by omega)
    obtain ⟨hq, hb, hc⟩ :=
      plain (a := .ofNat (0xE0 + c.toNat / 0x1000)) (by omega) (by omega) (by omega)
    have ht := @Text.Utf8.triple?_ofNat (0xE0 + c.toNat / 0x1000) c (by omega)
      (c.toNat / 0x40 % 0x40) (c.toNat % 0x40) (by omega) (by omega) (by omega) (by omega)
    rw [if_pos h₃, List.cons_append, List.cons_append, List.singleton_append, stringOnto.eq_def]
    simp only [if_neg hq, if_neg hb, if_neg hc, ht,
      Text.Utf8.pair?_eq_none (a := 0xE0 + c.toNat / 0x1000) (by omega)]
    rw [if_neg (by omega)]
  · have ha : (UInt8.ofNat (0xF0 + c.toNat / 0x40000)).toNat = 0xF0 + c.toNat / 0x40000 :=
      Text.Utf8.toNat_ofNat (by omega)
    obtain ⟨hq, hb, hc⟩ :=
      plain (a := .ofNat (0xF0 + c.toNat / 0x40000)) (by omega) (by omega) (by omega)
    have hf := @Text.Utf8.quadruple?_ofNat (0xF0 + c.toNat / 0x40000) c (by omega)
      (c.toNat / 0x1000 % 0x40) (c.toNat / 0x40 % 0x40) (c.toNat % 0x40) (by omega) (by omega)
      (by omega) (by omega) (by omega)
    rw [if_neg h₃, List.cons_append, List.cons_append, List.cons_append, List.singleton_append,
      stringOnto.eq_def]
    simp only [if_neg hq, if_neg hb, if_neg hc, hf,
      Text.Utf8.pair?_eq_none (a := 0xF0 + c.toNat / 0x40000) (by omega),
      Text.Utf8.triple?_eq_none (a := 0xF0 + c.toNat / 0x40000) (by omega)]
    rw [if_neg (by omega)]

/-- The escape of a control character is its number in four digits, which is no half of a pair. -/
theorem control_escape {c : Char} (h : c.toNat < 0x20) : ∃ d e : UInt8,
    Text.Utf8.encodeChars ('\\' :: 'u' :: '0' :: '0' :: controlDigits c.toNat) =
      [Byte.backslash, Byte.letterU, 0x30, 0x30, d, e] ∧
    hexQuad? 0x30 0x30 d e = some c.toNat ∧
    isLowSurrogate c.toNat = false ∧ isHighSurrogate c.toNat = false := by
  have key : ∀ n : Fin 0x20,
      Text.Utf8.encodeChars ('\\' :: 'u' :: '0' :: '0' :: controlDigits n) =
        [Byte.backslash, Byte.letterU, 0x30, 0x30, .ofNat (Nat.digitChar (n / 16)).toNat,
          .ofNat (Nat.digitChar (n % 16)).toNat] ∧
      hexQuad? 0x30 0x30 (.ofNat (Nat.digitChar (n / 16)).toNat)
        (.ofNat (Nat.digitChar (n % 16)).toNat) = some n.val := by decide
  obtain ⟨hbytes, hquad⟩ := key ⟨c.toNat, h⟩
  have hlow : isLowSurrogate c.toNat = false := by simp [isLowSurrogate]; omega
  have hhigh : isHighSurrogate c.toNat = false := by simp [isHighSurrogate]; omega
  exact ⟨_, _, hbytes, hquad, hlow, hhigh⟩

end BucketDriver.Json
