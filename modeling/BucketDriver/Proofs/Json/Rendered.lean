import BucketDriver.Proofs.Json.Grammar

/-!
# Reading rendered values

`Value.render` writes texts of the grammar without blanks, and `value` reads them back, for every
value that holds no numbers and nests no deeper than its reader allows (`Value.Plain`). Main
statement: `whole_render`.
-/

namespace BucketDriver.Json

open Text.Utf8 (encodeChar encodeChars)

variable {r : List UInt8}

theorem encodeChars_append (cs ds : List Char) :
    encodeChars (cs ++ ds) = encodeChars cs ++ encodeChars ds :=
  List.flatMap_append

theorem encodeChars_cons (c : Char) (cs : List Char) :
    encodeChars (c :: cs) = encodeChar c ++ encodeChars cs :=
  List.flatMap_cons

/-! ## Strings -/

/-- An escaped character is a text of the character. -/
theorem charText_escapedChar (c : Char) (r : List UInt8) :
    CharText c (encodeChars (escapedChar c) ++ r) r := by
  -- Seven characters have an escape of one letter.
  by_cases h₁ : c = '"'
  · subst h₁; exact .short (e := 0x22) rfl r
  by_cases h₂ : c = '\\'
  · subst h₂; exact .short (e := 0x5C) rfl r
  by_cases h₃ : c = '\x08'
  · subst h₃; exact .short (e := 0x62) rfl r
  by_cases h₄ : c = '\x0c'
  · subst h₄; exact .short (e := 0x66) rfl r
  by_cases h₅ : c = '\n'
  · subst h₅; exact .short (e := 0x6E) rfl r
  by_cases h₆ : c = '\r'
  · subst h₆; exact .short (e := 0x72) rfl r
  by_cases h₇ : c = '\t'
  · subst h₇; exact .short (e := 0x74) rfl r
  rw [escapedChar, if_neg h₁, if_neg h₂, if_neg h₃, if_neg h₄, if_neg h₅, if_neg h₆, if_neg h₇]
  -- Of the others control characters have their number, and the rest stand for themselves.
  by_cases h₈ : c.toNat < 0x20
  · obtain ⟨d, e, hbytes, hquad, hlow, hhigh⟩ := control_escape h₈
    have htext := CharText.numbered hquad hlow hhigh r
    rw [Char.ofNat_toNat] at htext
    rw [if_pos h₈, hbytes]
    exact htext
  · rw [if_neg h₈, encodeChars, List.flatMap_singleton]
    exact .plain h₁ h₂ (Nat.not_lt.1 h₈) r

theorem charsText_escaped (cs : List Char) (r : List UInt8) :
    CharsText cs (encodeChars (cs.flatMap escapedChar ++ ['"']) ++ r) r := by
  induction cs with
  | nil => exact .done r
  | cons c cs ih =>
    rw [List.flatMap_cons, List.append_assoc, encodeChars_append, List.append_assoc]
    exact .more (charText_escapedChar c _) ih

/-- A written string is a text of the string. -/
theorem stringText_stringChars (t : String) (r : List UInt8) :
    StringText t (encodeChars (stringChars t) ++ r) r :=
  ⟨_, rfl, charsText_escaped t.toList r⟩

/-! ## Objects and arrays -/

/-- Behind the first of several texts a comma stands in front of each. -/
theorem separated_cons (x : List Char) (xs : List (List Char)) :
    separated (x :: xs) = x ++ xs.flatMap (',' :: ·) := by
  induction xs generalizing x with
  | nil => simp [separated]
  | cons y ys ih => rw [separated, ih, List.flatMap_cons, List.cons_append]

section Written

variable {α : Type} {item : α → (s r : List UInt8) → Prop} {chars : α → List Char}

/-- A member as it is written without blanks, its value by a writer of its own. -/
def writtenMember (chars : α → List Char) (m : String × α) : List Char :=
  stringChars m.1 ++ ':' :: chars m.2

/-- An object as it is written without blanks. -/
def writtenObject (chars : α → List Char) (ms : List (String × α)) : List Char :=
  '\x7b' :: (separated (ms.map (writtenMember chars)) ++ ['\x7d'])

/-- A written member is a text of the member. -/
theorem memberText_written {m : String × α}
    (hitem : ∀ r, item m.2 (encodeChars (chars m.2) ++ r) r) (r : List UInt8) :
    MemberText item m.1 m.2 (encodeChars (writtenMember chars m) ++ r) r := by
  have hsplit : encodeChars (writtenMember chars m) ++ r =
      encodeChars (stringChars m.1) ++ (Byte.colon :: (encodeChars (chars m.2) ++ r)) := by
    rw [writtenMember, encodeChars_append, encodeChars_cons, List.append_assoc, List.append_assoc]
    rfl
  rw [hsplit]
  exact .intro (.none _) (stringText_stringChars m.1 _) (.none _) (.none _) (hitem r)

/-- Written members, a comma in front of each, are a text of members behind others. -/
theorem membersText_rest (ms : List (String × α))
    (hitem : ∀ m ∈ ms, ∀ r, item m.2 (encodeChars (chars m.2) ++ r) r) (r : List UInt8) :
    MembersText item false ms
      (encodeChars ((ms.map (writtenMember chars)).flatMap (',' :: ·)) ++ Byte.closeBrace :: r)
      r := by
  induction ms with
  | nil => exact .done false (.none _)
  | cons m ms ih =>
    rw [List.map_cons, List.flatMap_cons, encodeChars_append, encodeChars_cons, List.append_assoc,
      List.append_assoc]
    exact .next (.none _) (memberText_written (hitem m List.mem_cons_self) _)
      (ih fun m' hm' => hitem m' (List.mem_cons_of_mem _ hm'))

/-- A written object is a text of the object. -/
theorem objectText_written (chars : α → List Char) (ms : List (String × α))
    (hitem : ∀ m ∈ ms, ∀ r, item m.2 (encodeChars (chars m.2) ++ r) r) (r : List UInt8) :
    ObjectText item ms (encodeChars (writtenObject chars ms) ++ r) r := by
  have hsplit : encodeChars (writtenObject chars ms) ++ r = Byte.openBrace ::
      (encodeChars (separated (ms.map (writtenMember chars))) ++ Byte.closeBrace :: r) := by
    rw [writtenObject, encodeChars_cons, encodeChars_append, List.append_assoc, List.append_assoc]
    rfl
  refine ⟨_, hsplit, ?_⟩
  cases ms with
  | nil => exact .done true (.none _)
  | cons m ms =>
    rw [List.map_cons, separated_cons, encodeChars_append, List.append_assoc]
    exact .first (memberText_written (hitem m List.mem_cons_self) _)
      (membersText_rest ms (fun m' hm' => hitem m' (List.mem_cons_of_mem _ hm')) r)

/-- Written elements, a comma in front of each, are a text of elements behind others. -/
theorem elementsText_rest (vs : List α)
    (hitem : ∀ v ∈ vs, ∀ r, item v (encodeChars (chars v) ++ r) r) (r : List UInt8) :
    ElementsText item false vs
      (encodeChars ((vs.map chars).flatMap (',' :: ·)) ++ Byte.closeBracket :: r) r := by
  induction vs with
  | nil => exact .done false (.none _)
  | cons v vs ih =>
    rw [List.map_cons, List.flatMap_cons, encodeChars_append, encodeChars_cons, List.append_assoc,
      List.append_assoc]
    exact .next (.none _) (.none _) (hitem v List.mem_cons_self _)
      (ih fun v' hv' => hitem v' (List.mem_cons_of_mem _ hv'))

/-- A written array is a text of the array. -/
theorem arrayText_written (chars : α → List Char) (vs : List α)
    (hitem : ∀ v ∈ vs, ∀ r, item v (encodeChars (chars v) ++ r) r) (r : List UInt8) :
    ArrayText item vs (encodeChars ('[' :: (separated (vs.map chars) ++ [']'])) ++ r) r := by
  have hsplit : encodeChars ('[' :: (separated (vs.map chars) ++ [']'])) ++ r =
      Byte.openBracket :: (encodeChars (separated (vs.map chars)) ++ Byte.closeBracket :: r) := by
    rw [encodeChars_cons, encodeChars_append, List.append_assoc, List.append_assoc]
    rfl
  refine ⟨_, hsplit, ?_⟩
  cases vs with
  | nil => exact .done true (.none _)
  | cons v vs =>
    rw [List.map_cons, separated_cons, encodeChars_append, List.append_assoc]
    exact .first (.none _) (hitem v List.mem_cons_self _)
      (elementsText_rest vs (fun v' hv' => hitem v' (List.mem_cons_of_mem _ hv')) r)

end Written

/-! ## Values -/

/-- A value without numbers in which arrays and objects nest less deep than the bound. -/
def Value.Plain : Nat → Value → Prop
  | _, .null | _, .boolean _ | _, .string _ => True
  | _, .number _ => False
  | 0, .array _ | 1, .array _ | 0, .object _ | 1, .object _ => False
  | bound + 2, .array items => ∀ v ∈ items, v.Plain (bound + 1)
  | bound + 2, .object ms => ∀ m ∈ ms, m.2.Plain (bound + 1)

/-- An array takes one level of the depth, and its elements are plain below. -/
theorem Value.Plain.items {bound : Nat} {vs : List Value} (h : (Value.array vs).Plain bound) :
    ∃ below, bound = below + 2 ∧ ∀ v ∈ vs, v.Plain (below + 1) := by
  obtain - | - | below := bound
  · simp [Value.Plain] at h
  · simp [Value.Plain] at h
  · exact ⟨below, rfl, h⟩

/-- An object takes one level of the depth, and its members are plain below. -/
theorem Value.Plain.members {bound : Nat} {ms : List (String × Value)}
    (h : (Value.object ms).Plain bound) :
    ∃ below, bound = below + 2 ∧ ∀ m ∈ ms, m.2.Plain (below + 1) := by
  obtain - | - | below := bound
  · simp [Value.Plain] at h
  · simp [Value.Plain] at h
  · exact ⟨below, rfl, h⟩

/-- A string is plain at any depth. -/
theorem Value.plain_string (bound : Nat) (t : String) : (Value.string t).Plain bound := by
  cases bound <;> trivial

/-- An object of strings is plain where one object may be. -/
theorem Value.plain_ofStrings (bound : Nat) (ms : List (String × String)) :
    (Value.ofStrings ms).Plain (bound + 2) := by
  intro m hm
  obtain ⟨⟨k, t⟩, -, rfl⟩ := List.mem_map.1 hm
  exact Value.plain_string _ t

theorem memberChars_eq_map (ms : List (String × Value)) :
    memberChars ms = ms.map (writtenMember Value.chars) := by
  induction ms with
  | nil => rfl
  | cons m ms ih => rw [memberChars, ih, List.map_cons, writtenMember]

theorem object_chars (ms : List (String × Value)) :
    (Value.object ms).chars = writtenObject Value.chars ms := by
  rw [Value.chars, memberChars_eq_map, writtenObject]

/-- What a plain value begins with is neither a blank nor a closing bracket. -/
theorem Value.Plain.head {bound : Nat} {v : Value} (h : v.Plain bound) :
    ∃ b bs, encodeChars v.chars = b :: bs ∧ isSpace b = false ∧ b ≠ Byte.closeBracket := by
  cases v with
  | null => exact ⟨_, _, rfl, by decide, by decide⟩
  | boolean b => cases b <;> exact ⟨_, _, rfl, by decide, by decide⟩
  | number n => simp [Value.Plain] at h
  | string t => exact ⟨_, _, rfl, by decide, by decide⟩
  | array items => exact ⟨_, _, by rw [Value.chars]; rfl, by decide, by decide⟩
  | object ms => exact ⟨_, _, by rw [Value.chars]; rfl, by decide, by decide⟩

theorem itemChars_eq_map (items : List Value) : itemChars items = items.map Value.chars := by
  induction items with
  | nil => rfl
  | cons v items ih => rw [itemChars, ih, List.map_cons]

/-- A string is read as a value. -/
theorem value_string {size bound : Nat} {t : String} {s s' : List UInt8} (hs : Blanks s s')
    (h : StringText t s' r) : value size bound s = .ok (.string t, r) := by
  obtain ⟨s₁, rfl, hcs⟩ := h
  have hscalar : scalar? Byte.quote s₁ = some (.ok (.string t, r)) := by
    rw [scalar?, if_neg (by decide), if_neg (by decide), if_neg (by decide), if_neg (by decide),
      if_neg (by decide), if_pos rfl, hcs.stringBody_eq]
    rfl
  rw [value.eq_def, hs.skipSpace_eq (by decide)]
  simp only [hscalar]

/-- What begins with a bracket is no scalar. -/
theorem scalar?_eq_none {b : UInt8} (hb : b = Byte.openBrace ∨ b = Byte.openBracket)
    (s : List UInt8) : scalar? b s = none := by
  rcases hb with rfl | rfl <;>
    rw [scalar?, if_neg (by decide), if_neg (by decide), if_neg (by decide), if_neg (by decide),
      if_neg (by decide), if_neg (by decide)]

/-- An object is read as a value when its members are. -/
theorem value_object {size bound : Nat} {item : Value → (s r : List UInt8) → Prop}
    {ms : List (String × Value)} {s s' : List UInt8}
    (hitem : ∀ v s r, item v s r → r.length < s.length)
    (hreader : ∀ v s s' r, Blanks s s' → item v s' r → s.length ≤ size →
      value size (bound + 1) s = .ok (v, r))
    (hs : Blanks s s') (h : ObjectText item ms s' r) (hsize : s.length ≤ size) :
    value size (bound + 2) s = .ok (.object ms, r) := by
  obtain ⟨s₁, rfl, hms⟩ := h
  have h₁ := hs.length_le
  simp only [List.length_cons] at h₁
  have hscalar := scalar?_eq_none (.inl rfl) s₁
  rw [value.eq_def, hs.skipSpace_eq (by decide)]
  simp only [hscalar, members_keyed hitem hreader hms (by omega)]
  simp [Except.map, Byte.openBrace, Byte.openBracket]

/-- An array is read as a value when its elements are. -/
theorem value_array {size bound : Nat} {item : Value → (s r : List UInt8) → Prop}
    {vs : List Value} {s s' : List UInt8} (hitem : ∀ v s r, item v s r → r.length < s.length)
    (hhead : ∀ v s r, item v s r → ∃ b bs, s = b :: bs ∧ isSpace b = false ∧
      b ≠ Byte.closeBracket)
    (helement : ∀ v s r, item v s r → s.length ≤ size → value size (bound + 1) s = .ok (v, r))
    (hs : Blanks s s') (h : ArrayText item vs s' r) (hsize : s.length ≤ size) :
    value size (bound + 2) s = .ok (.array vs, r) := by
  obtain ⟨s₁, rfl, hvs⟩ := h
  have h₁ := hs.length_le
  simp only [List.length_cons] at h₁
  have hscalar := scalar?_eq_none (.inr rfl) s₁
  rw [value.eq_def, hs.skipSpace_eq (by decide)]
  simp only [hscalar, elements_text hitem hhead helement hvs (by omega)]
  simp [Except.map]

/-- The text of a plain value that `Value.render` writes. -/
def PlainText (bound : Nat) (v : Value) (s r : List UInt8) : Prop :=
  v.Plain bound ∧ s = encodeChars v.chars ++ r

theorem PlainText.length_lt {bound : Nat} {v : Value} {s : List UInt8} (h : PlainText bound v s r) :
    r.length < s.length := by
  obtain ⟨hplain, rfl⟩ := h
  obtain ⟨b, bs, hhead, -⟩ := hplain.head
  rw [List.length_append, hhead, List.length_cons]
  omega

theorem PlainText.head {bound : Nat} {v : Value} {s : List UInt8} (h : PlainText bound v s r) :
    ∃ b bs, s = b :: bs ∧ isSpace b = false ∧ b ≠ Byte.closeBracket := by
  obtain ⟨hplain, rfl⟩ := h
  obtain ⟨b, bs, hhead, hspace, hclose⟩ := hplain.head
  exact ⟨b, bs ++ r, by rw [hhead]; rfl, hspace, hclose⟩

/-- A scalar is read as a value, at any depth. -/
theorem value_scalar {size bound : Nat} {v : Value} {b : UInt8} {s s' : List UInt8}
    (hs : Blanks s (b :: s')) (hspace : isSpace b = false)
    (h : scalar? b s' = some (.ok (v, r))) : value size bound s = .ok (v, r) := by
  rw [value.eq_def, hs.skipSpace_eq hspace]
  simp only [h]

/-- A plain value that was written is read back. By induction on the depth that the reader allows,
of which an array or an object takes one. -/
theorem value_plain {size bound : Nat} {v : Value} {s s' : List UInt8} (hs : Blanks s s')
    (h : PlainText bound v s' r) (hsize : s.length ≤ size) :
    value size bound s = .ok (v, r) := by
  induction bound using Nat.strongRecOn generalizing v s s' r with
  | ind bound ih =>
    obtain ⟨hplain, rfl⟩ := h
    cases v with
    | null => exact value_scalar hs (by decide) rfl
    | boolean b => cases b <;> exact value_scalar hs (by decide) rfl
    | number n => simp [Value.Plain] at hplain
    | string t => exact value_string hs (stringText_stringChars t r)
    | array items =>
      obtain ⟨below, rfl, hitems⟩ := hplain.items
      have htext : ArrayText (PlainText (below + 1)) items _ r :=
        arrayText_written Value.chars items (fun v hv _ => ⟨hitems v hv, rfl⟩) r
      rw [← itemChars_eq_map, ← Value.chars] at htext
      exact value_array (fun _ _ _ => PlainText.length_lt) (fun _ _ _ => PlainText.head)
        (fun v s r hv => ih (below + 1) (Nat.lt_succ_self _) (.none s) hv) hs htext hsize
    | object ms =>
      obtain ⟨below, rfl, hms⟩ := hplain.members
      have htext : ObjectText (PlainText (below + 1)) ms _ r :=
        objectText_written Value.chars ms (fun m hm _ => ⟨hms m hm, rfl⟩) r
      rw [← object_chars] at htext
      exact value_object (fun _ _ _ => PlainText.length_lt)
        (fun v s s' r hs hv => ih (below + 1) (Nat.lt_succ_self _) hs hv) hs htext hsize

/-- A rendered plain value is read back from its text. -/
theorem whole_render {v : Value} (h : v.Plain depthLimit) :
    whole (fun size => value size depthLimit) (Text.Utf8.encode v.render) = .ok v := by
  have hbytes : Text.Utf8.encode v.render = encodeChars v.chars := by
    rw [Text.Utf8.encode, Value.render, String.toList_ofList]
  have htext : PlainText depthLimit v (encodeChars v.chars) [] := ⟨h, (List.append_nil _).symm⟩
  have hread := value_plain (.none _) htext (Nat.le_refl _)
  rw [whole, hbytes, hread]
  rfl

end BucketDriver.Json
