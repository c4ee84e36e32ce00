import BucketDriver.Proofs.Json.Rendered

/-!
# Objects as values and by their members

A text can be read as a value, or its members can be read as entries with values. The two agree on
which texts are objects and on the members of each: `whole_value_eq_object_iff`. An object of
strings is read as such from every text of it: `whole_ofStrings_text`.
-/

namespace BucketDriver.Json

variable {α β : Type} {s r : List UInt8} {ms : List (String × Value)}

/-- A text is read as a whole when nothing but blanks is left behind what is read. -/
theorem whole_eq_ok_iff {reading : Nat → List UInt8 → Reading α} {text : List UInt8} {a : α} :
    whole reading text = .ok a ↔
      ∃ r, reading text.length text = .ok (a, r) ∧ skipSpace r = [] := by
  unfold whole
  constructor
  · intro h
    cases hread : reading text.length text with
    | error fault => rw [hread] at h; cases h
    | ok read =>
      obtain ⟨a', r⟩ := read
      rw [hread] at h
      cases hskip : skipSpace r with
      | nil =>
        simp only [located, bind, Except.bind, hskip] at h
        cases h
        exact ⟨r, rfl, hskip⟩
      | cons b bs =>
        simp only [located, bind, Except.bind, hskip] at h
        cases h
  · rintro ⟨r, hread, hskip⟩
    simp only [located, bind, Except.bind, hread, hskip]
    rfl

/-- A scalar is no object. -/
theorem scalar?_ne_object {b : UInt8} : scalar? b s ≠ some (.ok (.object ms, r)) := by
  -- Each branch wraps what it reads in a constructor, and none of these is that of objects.
  have hmap {γ : Type} {reading : Reading γ} {f : γ × List UInt8 → Value × List UInt8}
      (hf : ∀ a, f a ≠ (.object ms, r)) :
      some (reading.map f) ≠ some (.ok (.object ms, r)) := by
    cases reading with
    | error fault => exact fun h => nomatch h
    | ok a => exact fun h => hf a (Except.ok.inj (Option.some.inj h))
  unfold scalar?
  repeat' split
  case isFalse => exact fun h => nomatch h
  all_goals exact hmap fun _ h => nomatch h

/-- What is read as an object are its members, and these are read as an object. -/
theorem value_eq_object_iff {size bound : Nat} :
    value size (bound + 2) s = .ok (.object ms, r) ↔
      entries size (value size (bound + 1)) s = .ok (ms, r) := by
  rw [value.eq_def, entries]
  cases skipSpace s with
  | nil => simp
  | cons b s' =>
    by_cases hb : b = Byte.openBrace
    -- Behind a brace both readers go on with the same members.
    · subst hb
      have hne : Byte.openBrace ≠ Byte.openBracket := by decide
      simp only [scalar?_eq_none (.inl rfl), if_neg hne, if_true]
      cases members size (keyed (value size (bound + 1))) [] s' with
      | error fault => simp [Except.map]
      | ok read => simp [Except.map]
    -- Otherwise the entries fail, and the value is a scalar, an array or a fault.
    · simp only [if_neg hb]
      cases hscalar : scalar? b s' with
      | some reading =>
        have hne : reading ≠ .ok (.object ms, r) := fun h => scalar?_ne_object (h ▸ hscalar)
        simp [hne]
      | none =>
        dsimp only
        split
        · cases elements size (value size (bound + 1)) s' <;> simp [Except.map]
        · simp

/-- A text is an object exactly when it can be read by its members, which are the same. -/
theorem whole_value_eq_object_iff {bound : Nat} {text : List UInt8} :
    whole (fun size => value size (bound + 2)) text = .ok (.object ms) ↔
      whole (fun size => entries size (value size (bound + 1))) text = .ok ms := by
  simp only [whole_eq_ok_iff, value_eq_object_iff]

section Items

variable {item : α → (s r : List UInt8) → Prop} {item' : β → (s r : List UInt8) → Prop}
  {f : α → β} {first : Bool} {es : List (String × α)}

/-- A text of members is one of the same members under other names for their values. -/
theorem MembersText.map (hitem : ∀ a s r, item a s r → item' (f a) s r)
    (h : MembersText item first es s r) :
    MembersText item' first (es.map fun e => (e.1, f e.2)) s r := by
  induction h with
  | done first h => exact .done first h
  | first hm _ ih =>
    obtain ⟨hbefore, hkey, hcolon, hbehind, hvalue⟩ := hm
    exact .first ⟨hbefore, hkey, hcolon, hbehind, hitem _ _ _ hvalue⟩ ih
  | next hcomma hm _ ih =>
    obtain ⟨hbefore, hkey, hcolon, hbehind, hvalue⟩ := hm
    exact .next hcomma ⟨hbefore, hkey, hcolon, hbehind, hitem _ _ _ hvalue⟩ ih

end Items

/-- A value that is a string, with a text of it. -/
def StringValue (v : Value) (s r : List UInt8) : Prop :=
  ∃ t, v = .string t ∧ StringText t s r

/-- An object of strings is read from every text of it. -/
theorem whole_ofStrings_text {bound : Nat} {es : List (String × String)} {text s : List UInt8}
    (hbefore : Blanks text s) (h : ObjectText StringText es s r) (hbehind : Blanks r []) :
    whole (fun size => value size (bound + 2)) text = .ok (Value.ofStrings es) := by
  obtain ⟨s', rfl, hes⟩ := h
  have hobject : ObjectText StringValue (es.map fun e => (e.1, Value.string e.2))
      (Byte.openBrace :: s') r :=
    ⟨s', rfl, hes.map fun t _ _ ht => ⟨t, rfl, ht⟩⟩
  refine whole_eq_ok_iff.2 ⟨r, ?_, hbehind.skipSpace_nil⟩
  refine value_object ?_ ?_ hbefore hobject (Nat.le_refl _)
  · rintro v s r ⟨t, rfl, ht⟩
    exact ht.length_lt
  · rintro v s s' r hs ⟨t, rfl, ht⟩ -
    exact value_string hs ht

end BucketDriver.Json
