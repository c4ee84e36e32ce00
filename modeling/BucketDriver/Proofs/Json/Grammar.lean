import BucketDriver.Proofs.Json.Strings
import BucketDriver.Json.Skip

/-!
# Texts of JSON strings and objects

What a writer may put down for a string or an object, as relations between the bytes `s` in front of
which a reader stands and the bytes `r` behind what it reads. A character stands for itself or is
escaped in any of the ways there are, and blanks may stand between any two tokens; an object has its
members in the order of a list, each value as a relation of its own says.

The readers follow these relations: `string_text`, `skipString_text`, `members_text` and
`entries_text`.
-/

namespace BucketDriver.Json

variable {α σ : Type} {s r : List UInt8}

/-! ## Blanks -/

/-- Blanks stand in front of `r`. -/
def Blanks (s r : List UInt8) : Prop :=
  ∃ w, (∀ b ∈ w, isSpace b = true) ∧ s = w ++ r

theorem Blanks.none (s : List UInt8) : Blanks s s :=
  ⟨[], by simp, rfl⟩

theorem Blanks.length_le (h : Blanks s r) : r.length ≤ s.length := by
  obtain ⟨w, -, rfl⟩ := h
  simp

/-- Passing over blanks ends at the first byte that is none. -/
theorem Blanks.skipSpace_eq {b : UInt8} (h : Blanks s (b :: r)) (hb : isSpace b = false) :
    skipSpace s = b :: r := by
  obtain ⟨w, hw, rfl⟩ := h
  have hdrop : (w ++ b :: r).dropWhile isSpace = (b :: r).dropWhile isSpace :=
    List.dropWhile_append_of_pos hw
  rw [skipSpace, hdrop, List.dropWhile_cons_of_neg (by simp [hb])]

/-- Nothing is left of blanks. -/
theorem Blanks.skipSpace_nil (h : Blanks s []) : skipSpace s = [] := by
  obtain ⟨w, hw, rfl⟩ := h
  have hdrop : (w ++ []).dropWhile isSpace = [].dropWhile isSpace :=
    List.dropWhile_append_of_pos hw
  rw [skipSpace, hdrop]
  rfl

/-! ## Strings -/

/-- A character between quotes: itself, an escape of one letter, or its number in one escape or, for
a character beyond the first plane, in two. -/
inductive CharText : Char → (s r : List UInt8) → Prop where
  | plain {c : Char} (hquote : c ≠ '"') (hslash : c ≠ '\\') (hcontrol : 0x20 ≤ c.toNat)
    (r : List UInt8) : CharText c (Text.Utf8.encodeChar c ++ r) r
  | short {e : UInt8} {c : Char} (h : shortEscape? e = some c) (r : List UInt8) :
    CharText c (Byte.backslash :: e :: r) r
  | numbered {h₁ h₂ h₃ h₄ : UInt8} {n : Nat} (h : hexQuad? h₁ h₂ h₃ h₄ = some n)
    (hlow : isLowSurrogate n = false) (hhigh : isHighSurrogate n = false) (r : List UInt8) :
    CharText (Char.ofNat n) (Byte.backslash :: Byte.letterU :: h₁ :: h₂ :: h₃ :: h₄ :: r) r
  | pair {h₁ h₂ h₃ h₄ l₁ l₂ l₃ l₄ : UInt8} {n m : Nat} (hn : hexQuad? h₁ h₂ h₃ h₄ = some n)
    (hhigh : isHighSurrogate n = true) (hm : hexQuad? l₁ l₂ l₃ l₄ = some m)
    (hlow : isLowSurrogate m = true) (r : List UInt8) :
    CharText (surrogatePair n m)
      (Byte.backslash :: Byte.letterU :: h₁ :: h₂ :: h₃ :: h₄ ::
        Byte.backslash :: Byte.letterU :: l₁ :: l₂ :: l₃ :: l₄ :: r) r

/-- Characters up to the closing quote, and the quote. -/
inductive CharsText : List Char → (s r : List UInt8) → Prop where
  | done (r : List UInt8) : CharsText [] (Byte.quote :: r) r
  | more {c : Char} {cs : List Char} {s s' r : List UInt8} (hc : CharText c s s')
    (hcs : CharsText cs s' r) : CharsText (c :: cs) s r

/-- A string between quotes. -/
def StringText (t : String) (s r : List UInt8) : Prop :=
  ∃ s', s = Byte.quote :: s' ∧ CharsText t.toList s' r

theorem encodeChar_ne_nil (c : Char) : Text.Utf8.encodeChar c ≠ [] := by
  unfold Text.Utf8.encodeChar
  dsimp only
  split
  · simp
  · split
    · simp
    · split <;> simp

theorem CharText.length_lt {c : Char} (h : CharText c s r) : r.length < s.length := by
  cases h with
  | plain =>
    have hpos := List.length_pos_iff.2 (encodeChar_ne_nil c)
    rw [List.length_append]
    omega
  | short | numbered | pair =>
    simp only [List.length_cons]
    omega

theorem CharsText.length_lt {cs : List Char} (h : CharsText cs s r) : r.length < s.length := by
  induction h with
  | done => simp
  | more hc _ ih => exact Nat.lt_trans ih hc.length_lt

theorem StringText.length_lt {t : String} (h : StringText t s r) : r.length < s.length := by
  obtain ⟨s', rfl, hcs⟩ := h
  have := hcs.length_lt
  simp
  omega

/-- A surrogate pair of escapes is read as its character. -/
theorem stringOnto_pair {h₁ h₂ h₃ h₄ l₁ l₂ l₃ l₄ : UInt8} {n m : Nat}
    (hn : hexQuad? h₁ h₂ h₃ h₄ = some n) (hhigh : isHighSurrogate n = true)
    (hm : hexQuad? l₁ l₂ l₃ l₄ = some m) (hlow : isLowSurrogate m = true) (read : List Char)
    (r : List UInt8) :
    stringOnto read none (Byte.backslash :: Byte.letterU :: h₁ :: h₂ :: h₃ :: h₄ ::
        Byte.backslash :: Byte.letterU :: l₁ :: l₂ :: l₃ :: l₄ :: r) =
      stringOnto (surrogatePair n m :: read) none r := by
  have hu : shortEscape? Byte.letterU = none := by decide
  -- No number is the high half of a pair and the low half of one.
  have hnlow : isLowSurrogate n = false := by
    unfold isHighSurrogate at hhigh
    unfold isLowSurrogate
    simp only [Bool.and_eq_true, decide_eq_true_eq] at hhigh
    simp
    omega
  rw [stringOnto.eq_def]
  simp only [hn, hm, hu, hnlow, hhigh, hlow]
  simp [Byte.backslash, Byte.quote]

/-- The reader takes a character off the front. -/
theorem CharText.stringOnto_eq {c : Char} (h : CharText c s r) (read : List Char) :
    stringOnto read none s = stringOnto (c :: read) none r := by
  cases h with
  | plain hquote hslash hcontrol => exact stringOnto_encodeChar hquote hslash hcontrol read r
  | short h => exact stringOnto_short h read r
  | numbered h hlow hhigh => exact stringOnto_numbered h hlow hhigh read r
  | pair hn hhigh hm hlow => exact stringOnto_pair hn hhigh hm hlow read r

theorem CharsText.stringOnto_eq {cs : List Char} (h : CharsText cs s r) (read : List Char) :
    stringOnto read none s = .ok (String.ofList (read.reverse ++ cs), r) := by
  induction h generalizing read with
  | done r => rw [stringOnto_quote, List.append_nil]
  | more hc _ ih => rw [hc.stringOnto_eq, ih, List.reverse_cons, List.append_assoc,
      List.singleton_append]

/-- A string is read behind its opening quote. -/
theorem CharsText.stringBody_eq {t : String} (h : CharsText t.toList s r) :
    stringBody s = .ok (t, r) := by
  rw [stringBody, h.stringOnto_eq, List.reverse_nil, List.nil_append, String.ofList_toList]

/-- A string is read as the text it is a string of. -/
theorem string_text {s' : List UInt8} {t : String} (hs : Blanks s s') (h : StringText t s' r) :
    string s = .ok (t, r) := by
  obtain ⟨s₁, rfl, hcs⟩ := h
  rw [string, hs.skipSpace_eq (by decide)]
  simp only [if_true]
  exact hcs.stringBody_eq

/-- No byte of a character that needs no escape means anything in a string. -/
theorem plain_of_mem_encodeChar {c : Char} (hquote : c ≠ '"') (hslash : c ≠ '\\')
    (hcontrol : 0x20 ≤ c.toNat) {b : UInt8} (hb : b ∈ Text.Utf8.encodeChar c) :
    b ≠ Byte.quote ∧ b ≠ Byte.backslash ∧ ¬ b.toNat < 0x20 := by
  have hquote' : c.toNat ≠ 0x22 := fun h => hquote (Char.toNat_inj.1 h)
  have hslash' : c.toNat ≠ 0x5C := fun h => hslash (Char.toNat_inj.1 h)
  have hmax : c.toNat < 0x110000 := by
    rcases c.valid with h | h
    · exact Nat.lt_trans h (by decide)
    · exact h.2
  -- The first byte of several and all others are beyond ASCII; a single one is the character.
  have plain : ∀ n : Nat, n < 0x100 → n ≠ 0x22 → n ≠ 0x5C → 0x20 ≤ n → b = .ofNat n →
      b ≠ Byte.quote ∧ b ≠ Byte.backslash ∧ ¬ b.toNat < 0x20 := by
    rintro n hn h₁ h₂ h₃ rfl
    have hn' : (UInt8.ofNat n).toNat = n := Text.Utf8.toNat_ofNat hn
    refine ⟨fun h => h₁ ?_, fun h => h₂ ?_, by omega⟩
    · rw [← hn', h]
      rfl
    · rw [← hn', h]
      rfl
  unfold Text.Utf8.encodeChar at hb
  dsimp only at hb
  split at hb
  · exact plain _ (by omega) hquote' hslash' hcontrol (List.mem_singleton.1 hb)
  · split at hb
    · simp only [List.mem_cons, List.not_mem_nil, or_false] at hb
      rcases hb with hb | hb <;>
        exact plain _ (by omega) (by omega) (by omega) (by omega) hb
    · split at hb
      · simp only [List.mem_cons, List.not_mem_nil, or_false] at hb
        rcases hb with hb | hb | hb <;>
          exact plain _ (by omega) (by omega) (by omega) (by omega) hb
      · simp only [List.mem_cons, List.not_mem_nil, or_false] at hb
        rcases hb with hb | hb | hb | hb <;>
          exact plain _ (by omega) (by omega) (by omega) (by omega) hb

/-- Bytes that mean nothing in a string are passed over. -/
theorem skipString_append {bs : List UInt8}
    (h : ∀ b ∈ bs, b ≠ Byte.quote ∧ b ≠ Byte.backslash ∧ ¬ b.toNat < 0x20) :
    skipString (bs ++ r) = skipString r := by
  induction bs with
  | nil => rfl
  | cons b bs ih =>
    obtain ⟨hquote, hslash, hcontrol⟩ := h b List.mem_cons_self
    rw [List.cons_append, skipString.eq_def]
    simp only [if_neg hquote, if_neg hslash, if_neg hcontrol]
    exact ih fun b' hb' => h b' (List.mem_cons_of_mem _ hb')

/-- An escape of a character by its number is passed over, half a pair as well. -/
theorem skipString_numbered {h₁ h₂ h₃ h₄ : UInt8} {n : Nat} (h : hexQuad? h₁ h₂ h₃ h₄ = some n) :
    skipString (Byte.backslash :: Byte.letterU :: h₁ :: h₂ :: h₃ :: h₄ :: r) = skipString r := by
  have hu : shortEscape? Byte.letterU = none := by decide
  rw [skipString.eq_def]
  simp only [h, hu]
  simp [Byte.backslash, Byte.quote]

theorem CharText.skipString_eq {c : Char} (h : CharText c s r) : skipString s = skipString r := by
  cases h with
  | plain hquote hslash hcontrol =>
    exact skipString_append fun b => plain_of_mem_encodeChar hquote hslash hcontrol
  | short h =>
    rw [skipString.eq_def]
    simp only [h]
    simp [Byte.backslash, Byte.quote]
  | numbered h => exact skipString_numbered h
  | pair hn _ hm => rw [skipString_numbered hn, skipString_numbered hm]

/-- A string is passed over behind its opening quote. -/
theorem skipString_text {cs : List Char} (h : CharsText cs s r) : skipString s = .ok ((), r) := by
  induction h with
  | done r => rw [skipString.eq_def]; simp
  | more hc _ ih => rw [hc.skipString_eq, ih]

/-! ## Objects -/

/-- A member of an object: its key, a colon and its value. -/
inductive MemberText (item : α → (s r : List UInt8) → Prop) (k : String) (v : α) :
    (s r : List UInt8) → Prop where
  | intro {s s₁ s₂ s₃ s₄ r : List UInt8} (hbefore : Blanks s s₁) (hkey : StringText k s₁ s₂)
    (hcolon : Blanks s₂ (Byte.colon :: s₃)) (hbehind : Blanks s₃ s₄) (hvalue : item v s₄ r) :
    MemberText item k v s r

/-- Members up to the closing brace, and the brace; no comma stands in front of the first. -/
inductive MembersText (item : α → (s r : List UInt8) → Prop) :
    (first : Bool) → List (String × α) → (s r : List UInt8) → Prop where
  | done (first : Bool) {s r : List UInt8} (h : Blanks s (Byte.closeBrace :: r)) :
    MembersText item first [] s r
  | first {k : String} {v : α} {ms : List (String × α)} {s s' r : List UInt8}
    (hm : MemberText item k v s s') (hms : MembersText item false ms s' r) :
    MembersText item true ((k, v) :: ms) s r
  | next {k : String} {v : α} {ms : List (String × α)} {s s' s'' r : List UInt8}
    (hcomma : Blanks s (Byte.comma :: s')) (hm : MemberText item k v s' s'')
    (hms : MembersText item false ms s'' r) : MembersText item false ((k, v) :: ms) s r

/-- An object between braces. -/
def ObjectText (item : α → (s r : List UInt8) → Prop) (ms : List (String × α))
    (s r : List UInt8) : Prop :=
  ∃ s', s = Byte.openBrace :: s' ∧ MembersText item true ms s' r

section Members

variable {item : α → (s r : List UInt8) → Prop} {first : Bool} {k : String} {v : α}
  {ms : List (String × α)}

theorem MemberText.length_lt (hitem : ∀ v s r, item v s r → r.length < s.length)
    (h : MemberText item k v s r) : r.length + 1 < s.length := by
  obtain ⟨hbefore, hkey, hcolon, hbehind, hvalue⟩ := h
  have h₁ := hbefore.length_le
  have h₂ := hkey.length_lt
  have h₃ := hcolon.length_le
  have h₄ := hbehind.length_le
  have h₅ := hitem _ _ _ hvalue
  simp only [List.length_cons] at h₃
  omega

/-- Each member takes a byte at least. -/
theorem MembersText.length_lt (hitem : ∀ v s r, item v s r → r.length < s.length)
    (h : MembersText item first ms s r) : ms.length + r.length < s.length := by
  induction h with
  | done _ h =>
    have := h.length_le
    simp only [List.length_cons] at this
    simp
    omega
  | first hm _ ih =>
    have := hm.length_lt hitem
    simp
    omega
  | next hcomma hm _ ih =>
    have h₁ := hcomma.length_le
    have h₂ := hm.length_lt hitem
    simp only [List.length_cons] at h₁
    simp
    omega

theorem ObjectText.length_lt (hitem : ∀ v s r, item v s r → r.length < s.length)
    (h : ObjectText item ms s r) : ms.length + r.length < s.length := by
  obtain ⟨s', rfl, hms⟩ := h
  have := hms.length_lt hitem
  simp
  omega

/-- The colon behind a key is passed over. -/
theorem colon_eq {s' : List UInt8} (h : Blanks s (Byte.colon :: s')) : colon s = .ok s' := by
  rw [colon, h.skipSpace_eq (by decide)]
  simp

theorem nextKey_done (h : Blanks s (Byte.closeBrace :: r)) :
    nextKey first s = .ok (.done r) := by
  rw [nextKey, h.skipSpace_eq (by decide)]
  simp

theorem nextKey_first (h : Blanks s (Byte.quote :: r)) : nextKey true s = .ok (.another r) := by
  rw [nextKey, h.skipSpace_eq (by decide)]
  simp [Byte.quote, Byte.closeBrace]

theorem nextKey_next {s' : List UInt8} (hcomma : Blanks s (Byte.comma :: s'))
    (h : Blanks s' (Byte.quote :: r)) : nextKey false s = .ok (.another r) := by
  rw [nextKey, hcomma.skipSpace_eq (by decide)]
  simp only [h.skipSpace_eq (b := Byte.quote) (by decide)]
  simp [Byte.closeBrace, Byte.comma]

/-- One member is read: its key, what stands behind the key, and then the others. -/
theorem membersFrom_another {bound : Nat} {member : σ → String → List UInt8 → Reading σ}
    {made made' : σ} {s' s₂ s'' : List UInt8} (hnext : nextKey first s = .ok (.another s'))
    (hkey : CharsText k.toList s' s₂) (hmember : member made k s₂ = .ok (made', s'')) :
    membersFrom member (bound + 1) first made s = membersFrom member bound false made' s'' := by
  simp only [membersFrom, hnext, hkey.stringBody_eq, hmember, bind, Except.bind]

/-- How a reader of members goes through the members of an object, where `step` is what it makes of
one and `Inv` says of which members, after which, it can: the result is that of all steps in order.
By induction on the members; the number of members that may still come is `bound`. -/
theorem membersFrom_text {size bound : Nat} {member : σ → String → List UInt8 → Reading σ}
    {step : σ → String → α → σ} {Inv : σ → List (String × α) → Prop}
    (hitem : ∀ v s r, item v s r → r.length < s.length)
    (hmember : ∀ made k v ms, Inv made ((k, v) :: ms) → Inv (step made k v) ms ∧
      ∀ s s₁ s₂ r, Blanks s (Byte.colon :: s₁) → Blanks s₁ s₂ → item v s₂ r → s.length ≤ size →
        member made k s = .ok (step made k v, r))
    (h : MembersText item first ms s r) (hbound : ms.length < bound) (hsize : s.length ≤ size)
    (made : σ) (hinv : Inv made ms) :
    membersFrom member bound first made s =
      .ok (ms.foldl (fun made m => step made m.1 m.2) made, r) := by
  induction h generalizing bound made with
  | done first h =>
    obtain ⟨left, rfl⟩ := Nat.exists_eq_add_of_lt hbound
    rw [membersFrom, nextKey_done h]
    rfl
  | first hm hms ih =>
    rw [List.length_cons] at hbound
    obtain ⟨left, rfl⟩ := Nat.exists_eq_add_of_lt hbound
    have hlength := hm.length_lt hitem
    obtain ⟨hbefore, ⟨s', rfl, hkey⟩, hcolon, hbehind, hvalue⟩ := hm
    obtain ⟨hinv', hread⟩ := hmember _ _ _ _ hinv
    have h₁ := hbefore.length_le
    have h₂ := hkey.length_lt
    simp only [List.length_cons] at h₁
    rw [membersFrom_another (nextKey_first hbefore) hkey
      (hread _ _ _ _ hcolon hbehind hvalue (by omega))]
    exact ih (by omega) (by omega) _ hinv'
  | next hcomma hm hms ih =>
    rw [List.length_cons] at hbound
    obtain ⟨left, rfl⟩ := Nat.exists_eq_add_of_lt hbound
    have hlength := hm.length_lt hitem
    obtain ⟨hbefore, ⟨s', rfl, hkey⟩, hcolon, hbehind, hvalue⟩ := hm
    obtain ⟨hinv', hread⟩ := hmember _ _ _ _ hinv
    have h₀ := hcomma.length_le
    have h₁ := hbefore.length_le
    have h₂ := hkey.length_lt
    simp only [List.length_cons] at h₀ h₁
    rw [membersFrom_another (nextKey_next hcomma hbefore) hkey
      (hread _ _ _ _ hcolon hbehind hvalue (by omega))]
    exact ih (by omega) (by omega) _ hinv'

/-- The members of an object in a text of the given size are read one after the other. -/
theorem members_text {size : Nat} {member : σ → String → List UInt8 → Reading σ}
    {step : σ → String → α → σ} (Inv : σ → List (String × α) → Prop)
    (hitem : ∀ v s r, item v s r → r.length < s.length)
    (hmember : ∀ made k v ms, Inv made ((k, v) :: ms) → Inv (step made k v) ms ∧
      ∀ s s₁ s₂ r, Blanks s (Byte.colon :: s₁) → Blanks s₁ s₂ → item v s₂ r → s.length ≤ size →
        member made k s = .ok (step made k v, r))
    (h : MembersText item true ms s r) (hsize : s.length ≤ size) (made : σ) (hinv : Inv made ms) :
    members size member made s = .ok (ms.foldl (fun made m => step made m.1 m.2) made, r) := by
  have hlength := h.length_lt hitem
  exact membersFrom_text hitem hmember h (by omega) hsize made hinv

/-- Members kept with their keys are those of the object. -/
theorem members_keyed {size : Nat} {reader : List UInt8 → Reading α}
    (hitem : ∀ v s r, item v s r → r.length < s.length)
    (hreader : ∀ v s s' r, Blanks s s' → item v s' r → s.length ≤ size → reader s = .ok (v, r))
    (h : MembersText item true ms s r) (hsize : s.length ≤ size) :
    members size (keyed reader) [] s = .ok (ms.reverse, r) := by
  have hmember : ∀ (read : List (String × α)) (k : String) (v : α) (ms : List (String × α)), True →
      True ∧ ∀ s s₁ s₂ r, Blanks s (Byte.colon :: s₁) → Blanks s₁ s₂ → item v s₂ r →
        s.length ≤ size → keyed reader read k s = .ok ((k, v) :: read, r) := by
    intro read k v ms _
    refine ⟨trivial, fun s s₁ s₂ r hcolon hbehind hvalue hsize => ?_⟩
    have h₁ := hcolon.length_le
    simp only [List.length_cons] at h₁
    have hread := hreader v s₁ s₂ r hbehind hvalue (by omega)
    simp only [keyed, colon_eq hcolon, hread, bind, Except.bind]
    rfl
  have hfold : ∀ (ms read : List (String × α)),
      ms.foldl (fun read m => (m.1, m.2) :: read) read = ms.reverse ++ read := by
    intro ms
    induction ms with
    | nil => exact fun _ => rfl
    | cons m ms ih => exact fun read => by simp [ih]
  rw [members_text (fun _ _ => True) hitem hmember h hsize [] trivial, hfold, List.append_nil]

/-- The entries of an object whose values a reader can read are its members. -/
theorem entries_text {size : Nat} {reader : List UInt8 → Reading α} {s' : List UInt8}
    (hitem : ∀ v s r, item v s r → r.length < s.length)
    (hreader : ∀ v s s' r, Blanks s s' → item v s' r → s.length ≤ size → reader s = .ok (v, r))
    (hs : Blanks s s') (h : ObjectText item ms s' r) (hsize : s.length ≤ size) :
    entries size reader s = .ok (ms, r) := by
  obtain ⟨s₁, rfl, hms⟩ := h
  have h₁ := hs.length_le
  simp only [List.length_cons] at h₁
  rw [entries, hs.skipSpace_eq (by decide)]
  simp only [if_true, members_keyed hitem hreader hms (by omega)]
  simp [Except.map]

end Members

/-! ## Arrays -/

/-- Elements up to the closing bracket, and the bracket; no comma stands in front of the first. -/
inductive ElementsText (item : α → (s r : List UInt8) → Prop) :
    (first : Bool) → List α → (s r : List UInt8) → Prop where
  | done (first : Bool) {s r : List UInt8} (h : Blanks s (Byte.closeBracket :: r)) :
    ElementsText item first [] s r
  | first {v : α} {vs : List α} {s s₁ s' r : List UInt8} (hbefore : Blanks s s₁)
    (hvalue : item v s₁ s') (hvs : ElementsText item false vs s' r) :
    ElementsText item true (v :: vs) s r
  | next {v : α} {vs : List α} {s s₁ s₂ s' r : List UInt8} (hcomma : Blanks s (Byte.comma :: s₁))
    (hbefore : Blanks s₁ s₂) (hvalue : item v s₂ s') (hvs : ElementsText item false vs s' r) :
    ElementsText item false (v :: vs) s r

/-- An array between brackets. -/
def ArrayText (item : α → (s r : List UInt8) → Prop) (vs : List α) (s r : List UInt8) : Prop :=
  ∃ s', s = Byte.openBracket :: s' ∧ ElementsText item true vs s' r

section Elements

variable {item : α → (s r : List UInt8) → Prop} {first : Bool} {vs : List α}

/-- Each element takes a byte at least. -/
theorem ElementsText.length_lt (hitem : ∀ v s r, item v s r → r.length < s.length)
    (h : ElementsText item first vs s r) : vs.length + r.length < s.length := by
  induction h with
  | done _ h =>
    have := h.length_le
    simp only [List.length_cons] at this
    simp
    omega
  | first hbefore hvalue _ ih =>
    have h₁ := hbefore.length_le
    have h₂ := hitem _ _ _ hvalue
    simp
    omega
  | next hcomma hbefore hvalue _ ih =>
    have h₁ := hcomma.length_le
    have h₂ := hbefore.length_le
    have h₃ := hitem _ _ _ hvalue
    simp only [List.length_cons] at h₁
    simp
    omega

theorem nextElement_done (h : Blanks s (Byte.closeBracket :: r)) :
    nextElement first s = .ok (.done r) := by
  rw [nextElement, h.skipSpace_eq (by decide)]
  simp

theorem nextElement_first {b : UInt8} (h : Blanks s (b :: r)) (hspace : isSpace b = false)
    (hclose : b ≠ Byte.closeBracket) : nextElement true s = .ok (.another (b :: r)) := by
  rw [nextElement, h.skipSpace_eq hspace]
  simp [hclose]

theorem nextElement_next {b : UInt8} {s' : List UInt8} (hcomma : Blanks s (Byte.comma :: s'))
    (h : Blanks s' (b :: r)) (hspace : isSpace b = false) (hclose : b ≠ Byte.closeBracket) :
    nextElement false s = .ok (.another (b :: r)) := by
  rw [nextElement, hcomma.skipSpace_eq (by decide)]
  have hne : Byte.comma ≠ Byte.closeBracket := by decide
  simp only [h.skipSpace_eq hspace, if_neg hclose, if_neg hne]
  simp

/-- One element is read, and then the others. -/
theorem elementsFrom_another {element : List UInt8 → Reading α} {bound : Nat} {read : List α}
    {a : α} {s' s'' : List UInt8} (hnext : nextElement first s = .ok (.another s'))
    (helement : element s' = .ok (a, s'')) :
    elementsFrom element (bound + 1) first read s =
      elementsFrom element bound false (a :: read) s'' := by
  simp only [elementsFrom, hnext, helement, bind, Except.bind]

/-- The elements of an array are read one after the other. By induction on the elements; the number
of elements that may still come is `bound`. -/
theorem elementsFrom_text {size bound : Nat} {element : List UInt8 → Reading α}
    (hitem : ∀ v s r, item v s r → r.length < s.length)
    (hhead : ∀ v s r, item v s r → ∃ b bs, s = b :: bs ∧ isSpace b = false ∧
      b ≠ Byte.closeBracket)
    (helement : ∀ v s r, item v s r → s.length ≤ size → element s = .ok (v, r))
    (h : ElementsText item first vs s r) (hbound : vs.length < bound) (hsize : s.length ≤ size)
    (read : List α) :
    elementsFrom element bound first read s = .ok (read.reverse ++ vs, r) := by
  induction h generalizing bound read with
  | done first h =>
    obtain ⟨left, rfl⟩ := Nat.exists_eq_add_of_lt hbound
    rw [elementsFrom, nextElement_done h, List.append_nil]
    rfl
  | first hbefore hvalue hvs ih =>
    rw [List.length_cons] at hbound
    obtain ⟨left, rfl⟩ := Nat.exists_eq_add_of_lt hbound
    have h₁ := hbefore.length_le
    have h₂ := hitem _ _ _ hvalue
    have hread := helement _ _ _ hvalue (by omega)
    obtain ⟨b, bs, rfl, hspace, hclose⟩ := hhead _ _ _ hvalue
    simp only [List.length_cons] at h₁ h₂
    rw [elementsFrom_another (nextElement_first hbefore hspace hclose) hread,
      ih (by omega) (by omega), List.reverse_cons, List.append_assoc, List.singleton_append]
  | next hcomma hbefore hvalue hvs ih =>
    rw [List.length_cons] at hbound
    obtain ⟨left, rfl⟩ := Nat.exists_eq_add_of_lt hbound
    have h₀ := hcomma.length_le
    have h₁ := hbefore.length_le
    have h₂ := hitem _ _ _ hvalue
    simp only [List.length_cons] at h₀
    have hread := helement _ _ _ hvalue (by omega)
    obtain ⟨b, bs, rfl, hspace, hclose⟩ := hhead _ _ _ hvalue
    simp only [List.length_cons] at h₁ h₂
    rw [elementsFrom_another (nextElement_next hcomma hbefore hspace hclose) hread,
      ih (by omega) (by omega), List.reverse_cons, List.append_assoc, List.singleton_append]

/-- The elements of an array in a text of the given size are read one after the other. -/
theorem elements_text {size : Nat} {element : List UInt8 → Reading α}
    (hitem : ∀ v s r, item v s r → r.length < s.length)
    (hhead : ∀ v s r, item v s r → ∃ b bs, s = b :: bs ∧ isSpace b = false ∧
      b ≠ Byte.closeBracket)
    (helement : ∀ v s r, item v s r → s.length ≤ size → element s = .ok (v, r))
    (h : ElementsText item true vs s r) (hsize : s.length ≤ size) :
    elements size element s = .ok (vs, r) := by
  have hlength := h.length_lt hitem
  exact elementsFrom_text hitem hhead helement h (by omega) hsize []

end Elements

end BucketDriver.Json
