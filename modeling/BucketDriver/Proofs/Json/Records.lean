import BucketDriver.Json.Record
import BucketDriver.Proofs.Dictionary
import BucketDriver.Proofs.Json.Grammar

/-!
# Reading records

A record written as an object is read member by member: the fields are kept, and texts under other
keys are passed over. `whole_record` says so for every text of the object and every order of its
members, and `lookup_kept` what each field then holds.
-/

namespace BucketDriver.Json

variable {s r : List UInt8}

/-- What a field holds, as a string or as an object of strings in any order. -/
inductive FieldText : FieldValue → (s r : List UInt8) → Prop where
  | text {t : String} {s r : List UInt8} (h : StringText t s r) : FieldText (.text t) s r
  | texts {d : Dict String} {es : List (String × String)} {s r : List UInt8}
    (hes : es.Perm d.entries) (h : ObjectText StringText es s r) : FieldText (.texts d) s r

/-- The kind of what a field holds. -/
def FieldValue.kind : FieldValue → FieldKind
  | text _ => .text
  | texts _ => .texts

theorem FieldText.length_lt {v : FieldValue} (h : FieldText v s r) : r.length < s.length := by
  cases h with
  | text h => exact h.length_lt
  | texts _ h =>
    have := h.length_lt fun _ _ _ => StringText.length_lt
    omega

/-- A field is read as what it holds. -/
theorem fieldValue_text {size : Nat} {v : FieldValue} {s' : List UInt8} (hs : Blanks s s')
    (h : FieldText v s' r) (hsize : s.length ≤ size) :
    fieldValue size v.kind s = .ok (v, r) := by
  cases h with
  | text h =>
    rw [FieldValue.kind, fieldValue, string_text hs h]
    rfl
  | texts hes h =>
    have hread := entries_text (fun _ _ _ => StringText.length_lt)
      (fun _ _ _ _ hs h _ => string_text hs h) hs h hsize
    rw [FieldValue.kind, fieldValue, hread, ← Dict.ofList_of_perm hes]
    rfl

/-- A string is passed over as a value. -/
theorem skipValue_text {size : Nat} {t : String} {s' : List UInt8} (hs : Blanks s s')
    (h : StringText t s' r) : skipValue size s = .ok r := by
  obtain ⟨s₁, rfl, hcs⟩ := h
  have hscalar : skipScalar? Byte.quote s₁ = some (.ok ((), r)) := by
    rw [skipScalar?, if_neg (by decide), if_neg (by decide), if_neg (by decide),
      if_neg (by decide), if_neg (by decide), if_pos rfl, skipString_text hcs]
  rw [skipValue, skipFrom, hs.skipSpace_eq (by decide)]
  simp only [hscalar]
  rfl

/-- The field of a shape with a name. -/
def Shape.field? (shape : Shape) (name : String) : Option Field :=
  shape.fields.find? (·.name = name)

/-- The members of an object that can be read as a record: no key comes twice, a field holds what it
should, everything else is a text, and what is required is there. -/
structure Shape.Fits (shape : Shape) (ms : List (String × FieldValue)) : Prop where
  /-- No key comes twice. -/
  nodup : (ms.map (·.1)).Nodup
  /-- A field holds what it should. -/
  kind : ∀ m ∈ ms, ∀ field, shape.field? m.1 = some field → m.2.kind = field.kind
  /-- Every other member is a text. -/
  other : ∀ m ∈ ms, shape.field? m.1 = none → m.2.kind = .text
  /-- What is required is there. -/
  required : ∀ field ∈ shape.fields, field.required = true → field.name ∈ ms.map (·.1)

/-- What a record has read after one more member. -/
def Shape.keep (shape : Shape) (read : Fields) (k : String) (v : FieldValue) : Fields :=
  if (shape.field? k).isSome then (k, v) :: read else read

/-- One member of a record is read, unless its key has been read before. -/
theorem fieldMember_text {size : Nat} {shape : Shape} {read : Fields} {k : String} {v : FieldValue}
    {s₁ s₂ : List UInt8} (hkind : ∀ field, shape.field? k = some field → v.kind = field.kind)
    (hother : shape.field? k = none → v.kind = .text) (hnew : read.lookup k = none)
    (hcolon : Blanks s (Byte.colon :: s₁)) (hbehind : Blanks s₁ s₂) (hvalue : FieldText v s₂ r)
    (hsize : s.length ≤ size) :
    fieldMember size shape read k s = .ok (shape.keep read k v, r) := by
  have h₁ := hcolon.length_le
  simp only [List.length_cons] at h₁
  unfold fieldMember Shape.keep
  rw [← Shape.field?]
  cases hfield : shape.field? k with
  | none =>
    -- No field has this key, and the text behind it is passed over.
    cases hvalue with
    | text h =>
      simp only [colon_eq hcolon, skipValue_text hbehind h, bind, Except.bind]
      rfl
    | texts => cases hother hfield
  | some field =>
    have hread : fieldValue size v.kind s₁ = .ok (v, r) :=
      fieldValue_text hbehind hvalue (by omega)
    rw [hkind field hfield] at hread
    simp only [hnew, colon_eq hcolon, hread, bind, Except.bind]
    rfl

/-- What a record has read after all members of an object. -/
def Shape.kept (shape : Shape) (ms : List (String × FieldValue)) : Fields :=
  ms.foldl (fun read m => shape.keep read m.1 m.2) []

/-- Members that may follow after others have been read. -/
structure Shape.Follows (shape : Shape) (read : Fields) (ms : List (String × FieldValue)) :
    Prop where
  /-- No key comes twice. -/
  nodup : (ms.map (·.1)).Nodup
  /-- No key has been read before. -/
  new : ∀ m ∈ ms, read.lookup m.1 = none
  /-- A field holds what it should. -/
  kind : ∀ m ∈ ms, ∀ field, shape.field? m.1 = some field → m.2.kind = field.kind
  /-- Every other member is a text. -/
  other : ∀ m ∈ ms, shape.field? m.1 = none → m.2.kind = .text

/-- The members of a record may follow after nothing. -/
theorem Shape.Fits.follows {shape : Shape} {ms : List (String × FieldValue)}
    (h : shape.Fits ms) : shape.Follows [] ms where
  nodup := h.nodup
  new := fun _ _ => rfl
  kind := h.kind
  other := h.other

/-- After one more member the others may follow. -/
theorem Shape.Follows.tail {shape : Shape} {read : Fields} {k : String} {v : FieldValue}
    {ms : List (String × FieldValue)} (h : shape.Follows read ((k, v) :: ms)) :
    shape.Follows (shape.keep read k v) ms where
  nodup := (List.nodup_cons.1 h.nodup).2
  new := by
    intro m hm
    have hne : m.1 ≠ k := fun heq =>
      (List.nodup_cons.1 h.nodup).1 (List.mem_map.2 ⟨m, hm, heq⟩)
    have hread := h.new m (List.mem_cons_of_mem _ hm)
    unfold Shape.keep
    split
    · rw [List.lookup_cons, beq_false_of_ne hne]
      exact hread
    · exact hread
  kind := fun m hm => h.kind m (List.mem_cons_of_mem _ hm)
  other := fun m hm => h.other m (List.mem_cons_of_mem _ hm)

/-- All members are kept that are fields. By induction on the members, after any others. -/
theorem lookup_foldl_keep {shape : Shape} {read : Fields} {ms : List (String × FieldValue)}
    {k : String} (h : shape.Follows read ms) (hk : (shape.field? k).isSome = true) :
    (ms.foldl (fun read m => shape.keep read m.1 m.2) read).lookup k =
      (ms.lookup k).or (read.lookup k) := by
  induction ms generalizing read with
  | nil => rfl
  | cons m ms ih =>
    obtain ⟨k', v⟩ := m
    rw [List.foldl_cons, ih h.tail, List.lookup_cons]
    by_cases hkk : k = k'
    · subst hkk
      -- The key is kept now and does not come again.
      have hgone : ms.lookup k = none := by
        rw [List.lookup_eq_none_iff]
        intro m hm
        have hne : k ≠ m.1 := fun heq =>
          (List.nodup_cons.1 h.nodup).1 (List.mem_map.2 ⟨m, hm, heq.symm⟩)
        simpa using hne
      simp [hgone, Shape.keep, hk]
    -- Another key hides nothing.
    · have hkeep : (shape.keep read k' v).lookup k = read.lookup k := by
        unfold Shape.keep
        split
        · rw [List.lookup_cons, beq_false_of_ne hkk]
        · rfl
      rw [beq_false_of_ne hkk, hkeep]

/-- A record written as an object is read as its fields. -/
theorem fieldsOf_text {size : Nat} {shape : Shape} {ms : List (String × FieldValue)}
    {s' : List UInt8} (hfits : shape.Fits ms) (hs : Blanks s s') (h : ObjectText FieldText ms s' r)
    (hsize : s.length ≤ size) : fieldsOf shape size s = .ok (shape.kept ms, r) := by
  obtain ⟨s₁, rfl, hms⟩ := h
  have h₁ := hs.length_le
  simp only [List.length_cons] at h₁
  have hmember : ∀ read k v ms, shape.Follows read ((k, v) :: ms) →
      shape.Follows (shape.keep read k v) ms ∧
      ∀ s s₁ s₂ r, Blanks s (Byte.colon :: s₁) → Blanks s₁ s₂ → FieldText v s₂ r →
        s.length ≤ size → fieldMember size shape read k s = .ok (shape.keep read k v, r) := by
    intro read k v ms hfollows
    refine ⟨hfollows.tail, fun s s₁ s₂ r hcolon hbehind hvalue hsize => ?_⟩
    exact fieldMember_text (hfollows.kind (k, v) List.mem_cons_self)
      (hfollows.other (k, v) List.mem_cons_self) (hfollows.new (k, v) List.mem_cons_self)
      hcolon hbehind hvalue hsize
  have hmembers : members size (fieldMember size shape) [] s₁ = .ok (shape.kept ms, r) :=
    members_text shape.Follows (fun _ _ _ => FieldText.length_lt) hmember hms (by omega) []
      hfits.follows
  -- A required field comes among the members, and all fields that come are kept.
  have hrequired : (shape.fields.find? fun f =>
      f.required && ((shape.kept ms).lookup f.name).isNone) = none := by
    rw [List.find?_eq_none]
    intro field hfield hmissing
    obtain ⟨hreq, hnone⟩ := Bool.and_eq_true_iff.1 hmissing
    have hknown : (shape.field? field.name).isSome = true := by
      rw [Shape.field?, List.find?_isSome]
      exact ⟨field, hfield, decide_eq_true rfl⟩
    rw [Shape.kept, lookup_foldl_keep hfits.follows hknown, List.lookup_nil, Option.or_none,
      Option.isNone_iff_eq_none, List.lookup_eq_none_iff] at hnone
    obtain ⟨m, hm, hname⟩ := List.mem_map.1 (hfits.required field hfield hreq)
    have hne := hnone m hm
    simp [hname] at hne
  rw [fieldsOf, hs.skipSpace_eq (by decide)]
  simp only [if_true, fieldsByName, hmembers, bind, Except.bind]
  rw [hrequired]
  rfl

/-- The record in a text of its own. -/
def RecordText (ms : List (String × FieldValue)) (body : List UInt8) : Prop :=
  ∃ s r, Blanks body s ∧ ObjectText FieldText ms s r ∧ Blanks r []

/-- A text of a record is read as its fields. -/
theorem whole_record {shape : Shape} {ms : List (String × FieldValue)} {body : List UInt8}
    (hfits : shape.Fits ms) (h : RecordText ms body) :
    whole (fieldsOf shape) body = .ok (shape.kept ms) := by
  obtain ⟨s, r, hs, hobject, hr⟩ := h
  rw [whole, fieldsOf_text hfits hs hobject (Nat.le_refl _)]
  simp only [located, bind, Except.bind, hr.skipSpace_nil]
  rfl

/-- A text of a record is not all blanks. -/
theorem RecordText.not_blank {ms : List (String × FieldValue)} {body : List UInt8}
    (h : RecordText ms body) : Byte.openBrace ∈ body := by
  obtain ⟨s, r, ⟨w, -, rfl⟩, ⟨s', rfl, -⟩, -⟩ := h
  simp

/-- A field that was given is kept. -/
theorem lookup_kept {shape : Shape} {ms : List (String × FieldValue)} {name : String}
    {v : FieldValue} (hfits : shape.Fits ms) (hname : (shape.field? name).isSome = true)
    (h : (name, v) ∈ ms) : (shape.kept ms).lookup name = some v := by
  have hms : ms.lookup name = some v := by
    obtain ⟨before, after, rfl⟩ := List.append_of_mem h
    rw [List.lookup_eq_some_iff]
    refine ⟨before, after, rfl, fun m hm => ?_⟩
    have hnodup := hfits.nodup
    rw [List.map_append, List.map_cons, List.nodup_append] at hnodup
    have hne := hnodup.2.2 m.1 (List.mem_map_of_mem hm) name List.mem_cons_self
    simpa using hne.symm
  rw [Shape.kept, lookup_foldl_keep hfits.follows hname, hms]
  rfl

end BucketDriver.Json
