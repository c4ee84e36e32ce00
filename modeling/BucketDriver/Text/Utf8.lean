/-!
# UTF-8

Texts as bytes. `encode` writes each character in one to four bytes, and `decodePrefix` reads the
longest run of whole characters at the front of some bytes; the bytes are a text when nothing is
left over. Overlong forms, surrogates and code points above the last plane are no characters.

Main statements: `decode?_encode` (what is written can be read) and `encode_eq` (it is written as
the core library writes it).
-/

namespace BucketDriver.Text.Utf8

/-- The character of a code point, if it is one of a character. -/
def scalar? (n : Nat) : Option Char :=
  if h : n.isValidChar then some (Char.ofNatAux n h) else none

/-- The low six bits that a continuation byte carries. -/
def continuation? (b : UInt8) : Option Nat :=
  if 0x80 ≤ b.toNat ∧ b.toNat < 0xC0 then some (b.toNat - 0x80) else none

/-- The bytes of one character. -/
def encodeChar (c : Char) : List UInt8 :=
  let n := c.toNat
  if n < 0x80 then [.ofNat n]
  else if n < 0x800 then [.ofNat (0xC0 + n / 0x40), .ofNat (0x80 + n % 0x40)]
  else if n < 0x10000 then
    [.ofNat (0xE0 + n / 0x1000), .ofNat (0x80 + n / 0x40 % 0x40), .ofNat (0x80 + n % 0x40)]
  else
    [.ofNat (0xF0 + n / 0x40000), .ofNat (0x80 + n / 0x1000 % 0x40),
      .ofNat (0x80 + n / 0x40 % 0x40), .ofNat (0x80 + n % 0x40)]

/-- The bytes of some characters. -/
def encodeChars (cs : List Char) : List UInt8 :=
  cs.flatMap encodeChar

/-- The bytes of a text. -/
def encode (s : String) : List UInt8 :=
  encodeChars s.toList

/-- The character written in two bytes. -/
def pair? (a b : UInt8) : Option Char :=
  match continuation? b with
  | some y =>
    if 0xC2 ≤ a.toNat ∧ a.toNat < 0xE0 then scalar? ((a.toNat - 0xC0) * 0x40 + y) else none
  | none => none

/-- The character written in three bytes. -/
def triple? (a b c : UInt8) : Option Char :=
  match continuation? b, continuation? c with
  | some y, some z =>
    let n := (a.toNat - 0xE0) * 0x1000 + y * 0x40 + z
    if 0xE0 ≤ a.toNat ∧ a.toNat < 0xF0 ∧ 0x800 ≤ n then scalar? n else none
  | _, _ => none

/-- The character written in four bytes. -/
def quadruple? (a b c d : UInt8) : Option Char :=
  match continuation? b, continuation? c, continuation? d with
  | some y, some z, some w =>
    let n := (a.toNat - 0xF0) * 0x40000 + y * 0x1000 + z * 0x40 + w
    if 0xF0 ≤ a.toNat ∧ a.toNat < 0xF8 ∧ 0x10000 ≤ n then scalar? n else none
  | _, _, _ => none

/-- Reads whole characters from the front, in front of those already read, last first. -/
def decodeOnto (read : List Char) : List UInt8 → List Char × List UInt8
  | [] => (read.reverse, [])
  | a :: s₁ =>
    if a.toNat < 0x80 then decodeOnto (Char.ofNat a.toNat :: read) s₁
    else match s₁ with
      | [] => (read.reverse, [a])
      | b :: s₂ =>
        match pair? a b with
        | some ch => decodeOnto (ch :: read) s₂
        | none => match s₂ with
          | [] => (read.reverse, [a, b])
          | c :: s₃ =>
            match triple? a b c with
            | some ch => decodeOnto (ch :: read) s₃
            | none => match s₃ with
              | [] => (read.reverse, [a, b, c])
              | d :: s₄ =>
                match quadruple? a b c d with
                | some ch => decodeOnto (ch :: read) s₄
                | none => (read.reverse, a :: b :: c :: d :: s₄)

/-- The whole characters at the front of some bytes, and the bytes behind them. -/
def decodePrefix (s : List UInt8) : List Char × List UInt8 :=
  decodeOnto [] s

/-- The text that some bytes spell, if they spell one. -/
def decode? (s : List UInt8) : Option String :=
  match decodePrefix s with
  | (cs, []) => some (String.ofList cs)
  | _ => none

theorem scalar?_toNat (c : Char) : scalar? c.toNat = some c := by
  have h : c.toNat.isValidChar := c.valid
  rw [scalar?, dif_pos h]
  congr 1

theorem toNat_ofNat {n : Nat} (h : n < 0x100) : (UInt8.ofNat n).toNat = n := by
  rw [UInt8.toNat_ofNat']
  omega

theorem continuation?_ofNat {k : Nat} (h : k < 0x40) :
    continuation? (.ofNat (0x80 + k)) = some k := by
  rw [continuation?, toNat_ofNat (by omega), if_pos (by omega), Nat.add_sub_cancel_left]

theorem pair?_ofNat {a : Nat} {c : Char} (h : 0xC2 ≤ a ∧ a < 0xE0) {k : Nat} (hk : k < 0x40)
    (hc : (a - 0xC0) * 0x40 + k = c.toNat) : pair? (.ofNat a) (.ofNat (0x80 + k)) = some c := by
  rw [pair?, continuation?_ofNat hk, toNat_ofNat (by omega)]
  simp only [if_pos h, hc, scalar?_toNat]

theorem pair?_eq_none {a : Nat} (h : 0xE0 ≤ a ∧ a < 0x100) (b : UInt8) :
    pair? (.ofNat a) b = none := by
  rw [pair?, toNat_ofNat h.2]
  cases continuation? b with
  | none => rfl
  | some y => exact if_neg (by omega)

theorem triple?_ofNat {a : Nat} {c : Char} (h : 0xE0 ≤ a ∧ a < 0xF0) {j k : Nat} (hj : j < 0x40)
    (hk : k < 0x40) (hc : (a - 0xE0) * 0x1000 + j * 0x40 + k = c.toNat) (hlow : 0x800 ≤ c.toNat) :
    triple? (.ofNat a) (.ofNat (0x80 + j)) (.ofNat (0x80 + k)) = some c := by
  rw [triple?, continuation?_ofNat hj, continuation?_ofNat hk, toNat_ofNat (by omega)]
  simp only [hc]
  rw [if_pos ⟨h.1, h.2, hlow⟩, scalar?_toNat]

theorem triple?_eq_none {a : Nat} (h : 0xF0 ≤ a ∧ a < 0x100) (b c : UInt8) :
    triple? (.ofNat a) b c = none := by
  rw [triple?, toNat_ofNat h.2]
  cases continuation? b with
  | none => rfl
  | some y =>
    cases continuation? c with
    | none => rfl
    | some z => exact if_neg (by omega)

theorem quadruple?_ofNat {a : Nat} {c : Char} (h : 0xF0 ≤ a ∧ a < 0xF8) {i j k : Nat}
    (hi : i < 0x40) (hj : j < 0x40) (hk : k < 0x40)
    (hc : (a - 0xF0) * 0x40000 + i * 0x1000 + j * 0x40 + k = c.toNat) (hlow : 0x10000 ≤ c.toNat) :
    quadruple? (.ofNat a) (.ofNat (0x80 + i)) (.ofNat (0x80 + j)) (.ofNat (0x80 + k)) = some c := by
  rw [quadruple?, continuation?_ofNat hi, continuation?_ofNat hj, continuation?_ofNat hk,
    toNat_ofNat (by omega)]
  simp only [hc]
  rw [if_pos ⟨h.1, h.2, hlow⟩, scalar?_toNat]

/-- Reading takes a written character off the front. -/
theorem decodeOnto_encodeChar (read : List Char) (c : Char) (s : List UInt8) :
    decodeOnto read (encodeChar c ++ s) = decodeOnto (c :: read) s := by
  have hmax : c.toNat < 0x110000 := by
    have := c.valid
    rcases this with h | h
    · exact Nat.lt_trans h (by decide)
    · exact h.2
  rw [encodeChar]
  by_cases h₁ : c.toNat < 0x80
  · rw [if_pos h₁, List.singleton_append, decodeOnto.eq_def read]
    simp only [toNat_ofNat (Nat.lt_trans h₁ (by decide)), if_pos h₁, Char.ofNat_toNat]
  rw [if_neg h₁]
  by_cases h₂ : c.toNat < 0x800
  · have ha : (UInt8.ofNat (0xC0 + c.toNat / 0x40)).toNat = 0xC0 + c.toNat / 0x40 :=
      toNat_ofNat (by omega)
    have hp := @pair?_ofNat (0xC0 + c.toNat / 0x40) c (by omega) (c.toNat % 0x40) (by omega)
      (by omega)
    rw [if_pos h₂, List.cons_append, List.singleton_append, decodeOnto.eq_def read]
    simp only [ha, hp]
    rw [if_neg (by omega)]
  rw [if_neg h₂]
  by_cases h₃ : c.toNat < 0x10000
  · have ha : (UInt8.ofNat (0xE0 + c.toNat / 0x1000)).toNat = 0xE0 + c.toNat / 0x1000 :=
      toNat_ofNat (by omega)
    have ht := @triple?_ofNat (0xE0 + c.toNat / 0x1000) c (by omega) (c.toNat / 0x40 % 0x40)
      (c.toNat % 0x40) (by omega) (by omega) (by omega) (by omega)
    rw [if_pos h₃, List.cons_append, List.cons_append, List.singleton_append,
      decodeOnto.eq_def read]
    simp only [ha, ht, pair?_eq_none (a := 0xE0 + c.toNat / 0x1000) (by omega)]
    rw [if_neg (by omega)]
  · have ha : (UInt8.ofNat (0xF0 + c.toNat / 0x40000)).toNat = 0xF0 + c.toNat / 0x40000 :=
      toNat_ofNat (by omega)
    have hq := @quadruple?_ofNat (0xF0 + c.toNat / 0x40000) c (by omega) (c.toNat / 0x1000 % 0x40)
      (c.toNat / 0x40 % 0x40) (c.toNat % 0x40) (by omega) (by omega) (by omega) (by omega)
      (by omega)
    rw [if_neg h₃, List.cons_append, List.cons_append, List.cons_append, List.singleton_append,
      decodeOnto.eq_def read]
    simp only [ha, hq, pair?_eq_none (a := 0xF0 + c.toNat / 0x40000) (by omega),
      triple?_eq_none (a := 0xF0 + c.toNat / 0x40000) (by omega)]
    rw [if_neg (by omega)]

theorem decodeOnto_encodeChars (read cs : List Char) :
    decodeOnto read (encodeChars cs) = (read.reverse ++ cs, []) := by
  induction cs generalizing read with
  | nil => simp [encodeChars, decodeOnto]
  | cons c cs ih =>
    rw [encodeChars, List.flatMap_cons, decodeOnto_encodeChar]
    rw [encodeChars] at ih
    rw [ih, List.reverse_cons, List.append_assoc, List.singleton_append]

/-- What is written can be read. -/
theorem decode?_encode (s : String) : decode? (encode s) = some s := by
  rw [decode?, decodePrefix, encode, decodeOnto_encodeChars]
  simp

/-- A character has the bytes that the core library gives it. -/
theorem encodeChar_eq (c : Char) : encodeChar c = String.utf8EncodeChar c := by
  have hmax : c.toNat < 0x110000 := by
    rcases c.valid with h | h
    · exact Nat.lt_trans h (by decide)
    · exact h.2
  have hval : c.val.toNat = c.toNat := rfl
  unfold encodeChar String.utf8EncodeChar
  dsimp only
  rw [hval]
  generalize c.toNat = n at hmax
  by_cases h₁ : n < 0x80
  · rw [if_pos h₁, if_pos (show n ≤ 127 by omega)]
  rw [if_neg h₁, if_neg (show ¬ n ≤ 127 by omega)]
  by_cases h₂ : n < 0x800
  · have h : 0xC0 + n / 0x40 = n / 64 % 32 + 192 := by omega
    rw [if_pos h₂, if_pos (show n ≤ 2047 by omega), h, Nat.add_comm 0x80]
  rw [if_neg h₂, if_neg (show ¬ n ≤ 2047 by omega)]
  by_cases h₃ : n < 0x10000
  · have h : 0xE0 + n / 0x1000 = n / 4096 % 16 + 224 := by omega
    rw [if_pos h₃, if_pos (show n ≤ 65535 by omega), h, Nat.add_comm 0x80, Nat.add_comm 0x80]
  · have h : 0xF0 + n / 0x40000 = n / 262144 % 8 + 240 := by omega
    rw [if_neg h₃, if_neg (show ¬ n ≤ 65535 by omega), h, Nat.add_comm 0x80, Nat.add_comm 0x80,
      Nat.add_comm 0x80]

/-- A text has the bytes that the core library gives it. -/
theorem encode_eq (s : String) : encode s = s.toUTF8.data.toList := by
  have hbytes : s.toUTF8.data = (s.toList.flatMap String.utf8EncodeChar).toArray := by
    rw [String.toUTF8, ← String.utf8Encode_toList, List.utf8Encode, List.data_toByteArray]
  rw [hbytes, encode, encodeChars, funext encodeChar_eq]

end BucketDriver.Text.Utf8
