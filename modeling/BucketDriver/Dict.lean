/-!
# Dictionaries

A dictionary maps texts to values and keeps its entries in ascending order of their keys, which is
the order of code points. The order makes the entries a canonical form: two dictionaries with the
same value under every key are equal (`ext_get?`), so states that hold dictionaries can be compared
by equality.

One lemma per operation says what it does to look-up: `get?_empty`, `get?_insert`, `get?_erase`.
-/

namespace BucketDriver

/-- A finite map from texts, its entries in strictly ascending order of their keys. -/
structure Dict (α : Type u) where
  /-- The keys with their values. -/
  entries : List (String × α)
  /-- Each key is below all later ones. -/
  ascending : entries.Pairwise fun a b => a.1 < b.1
  deriving DecidableEq

namespace Dict

variable {α : Type u}

/-- The dictionary without entries. -/
def empty : Dict α :=
  ⟨[], .nil⟩

instance : Inhabited (Dict α) := ⟨empty⟩

/-- The value of the first entry with a key. -/
def valueOf (k : String) : List (String × α) → Option α
  | [] => none
  | (k', v) :: rest => if k = k' then some v else valueOf k rest

/-- The value under a key. -/
def get? (d : Dict α) (k : String) : Option α :=
  valueOf k d.entries

/-- Whether there is a value under a key. -/
def contains (d : Dict α) (k : String) : Bool :=
  (d.get? k).isSome

/-- The keys, in ascending order. -/
def keys (d : Dict α) : List String :=
  d.entries.map (·.1)

/-- The number of entries. -/
def size (d : Dict α) : Nat :=
  d.entries.length

/-- Whether there are no entries. -/
def isEmpty (d : Dict α) : Bool :=
  d.entries.isEmpty

/-- Ascending entries with one more, or with a new value where the key is taken. -/
def insertEntry (k : String) (v : α) : List (String × α) → List (String × α)
  | [] => [(k, v)]
  | (k', v') :: rest =>
    if k < k' then (k, v) :: (k', v') :: rest
    else if k = k' then (k, v) :: rest
    else (k', v') :: insertEntry k v rest

theorem fst_mem_insertEntry {k : String} {v : α} {a : String × α} {l : List (String × α)}
    (h : a ∈ insertEntry k v l) : a.1 = k ∨ a ∈ l := by
  induction l with
  | nil => simp_all [insertEntry]
  | cons b rest ih =>
    obtain ⟨k', v'⟩ := b
    rw [insertEntry] at h
    split at h
    · rcases List.mem_cons.1 h with rfl | h
      · exact .inl rfl
      · exact .inr h
    · split at h
      · rcases List.mem_cons.1 h with rfl | h
        · exact .inl rfl
        · exact .inr (List.mem_cons_of_mem _ h)
      · rcases List.mem_cons.1 h with rfl | h
        · exact .inr List.mem_cons_self
        · exact (ih h).imp_right (List.mem_cons_of_mem _)

theorem lt_of_not_lt_of_ne {a b : String} (h : ¬ a < b) (hne : a ≠ b) : b < a :=
  Decidable.byContradiction fun h' =>
    hne (String.le_antisymm (String.not_lt.1 h') (String.not_lt.1 h))

theorem pairwise_insertEntry (k : String) (v : α) {l : List (String × α)}
    (h : l.Pairwise fun a b => a.1 < b.1) :
    (insertEntry k v l).Pairwise fun a b => a.1 < b.1 := by
  induction l with
  | nil => simp [insertEntry]
  | cons b rest ih =>
    obtain ⟨k', v'⟩ := b
    obtain ⟨hb, hrest⟩ := List.pairwise_cons.1 h
    rw [insertEntry]
    split
    case isTrue hlt =>
      refine List.pairwise_cons.2 ⟨fun a ha => ?_, h⟩
      rcases List.mem_cons.1 ha with rfl | ha
      · exact hlt
      · exact String.lt_trans hlt (hb a ha)
    case isFalse hnlt =>
      split
      case isTrue heq => exact List.pairwise_cons.2 ⟨fun a ha => heq ▸ hb a ha, hrest⟩
      case isFalse hne =>
        refine List.pairwise_cons.2 ⟨fun a ha => ?_, ih hrest⟩
        rcases fst_mem_insertEntry ha with heq | ha
        · rw [heq]; exact lt_of_not_lt_of_ne hnlt hne
        · exact hb a ha

/-- The dictionary with a value under a key, in place of the one that may have been there. -/
def insert (d : Dict α) (k : String) (v : α) : Dict α :=
  ⟨insertEntry k v d.entries, pairwise_insertEntry k v d.ascending⟩

/-- The dictionary without a key. -/
def erase (d : Dict α) (k : String) : Dict α :=
  ⟨d.entries.filter (·.1 ≠ k), d.ascending.filter _⟩

/-- The dictionary of a list of entries; of two entries with one key the later counts. -/
def ofList (l : List (String × α)) : Dict α :=
  l.foldl (fun d (k, v) => d.insert k v) empty

/-- The first dictionary with the entries of the second, which win. -/
def overlay (d e : Dict α) : Dict α :=
  e.entries.foldl (fun d (k, v) => d.insert k v) d

@[simp] theorem get?_empty (k : String) : (empty : Dict α).get? k = none := rfl

theorem valueOf_insertEntry (k k' : String) (v : α) (l : List (String × α)) :
    valueOf k' (insertEntry k v l) = if k' = k then some v else valueOf k' l := by
  induction l with
  | nil => rfl
  | cons b rest ih => grind [insertEntry, valueOf]

/-- Under the key of an insertion lies the new value, under every other key what lay there. -/
theorem get?_insert (d : Dict α) (k k' : String) (v : α) :
    (d.insert k v).get? k' = if k' = k then some v else d.get? k' :=
  valueOf_insertEntry k k' v d.entries

@[simp] theorem get?_insert_self (d : Dict α) (k : String) (v : α) :
    (d.insert k v).get? k = some v := by
  simp [get?_insert]

theorem valueOf_filter_ne (k k' : String) (l : List (String × α)) :
    valueOf k' (l.filter fun a => decide (a.1 ≠ k)) = if k' = k then none else valueOf k' l := by
  induction l with
  | nil => simp [valueOf]
  | cons b rest ih => grind [valueOf]

/-- Under an erased key lies nothing, under every other key what lay there. -/
theorem get?_erase (d : Dict α) (k k' : String) :
    (d.erase k).get? k' = if k' = k then none else d.get? k' :=
  valueOf_filter_ne k k' d.entries

@[simp] theorem get?_erase_self (d : Dict α) (k : String) : (d.erase k).get? k = none := by
  simp [get?_erase]

theorem valueOf_eq_some_iff_mem {l : List (String × α)} (h : l.Pairwise fun a b => a.1 < b.1)
    {k : String} {v : α} : valueOf k l = some v ↔ (k, v) ∈ l := by
  induction l with
  | nil => simp [valueOf]
  | cons b rest ih =>
    obtain ⟨kb, vb⟩ := b
    obtain ⟨hb, hrest⟩ := List.pairwise_cons.1 h
    by_cases hk : k = kb
    · subst hk
      have hnot : (k, v) ∉ rest := fun hm => String.lt_irrefl k (hb (k, v) hm)
      simp [valueOf, hnot, eq_comm]
    · simp [valueOf, hk, ih hrest]

/-- A value lies under a key exactly when the two are an entry. -/
theorem get?_eq_some_iff {d : Dict α} {k : String} {v : α} :
    d.get? k = some v ↔ (k, v) ∈ d.entries :=
  valueOf_eq_some_iff_mem d.ascending

theorem eq_of_mem_iff {l m : List (String × α)} (hl : l.Pairwise fun a b => a.1 < b.1)
    (hm : m.Pairwise fun a b => a.1 < b.1) (h : ∀ a, a ∈ l ↔ a ∈ m) : l = m := by
  induction l generalizing m with
  | nil =>
    cases m with
    | nil => rfl
    | cons b m => exact absurd ((h b).2 List.mem_cons_self) (by simp)
  | cons a l ih =>
    cases m with
    | nil => exact absurd ((h a).1 List.mem_cons_self) (by simp)
    | cons b m =>
      obtain ⟨ha, hl'⟩ := List.pairwise_cons.1 hl
      obtain ⟨hb, hm'⟩ := List.pairwise_cons.1 hm
      have hab : a = b := by
        rcases List.mem_cons.1 ((h a).1 List.mem_cons_self) with rfl | hin
        · rfl
        · rcases List.mem_cons.1 ((h b).2 List.mem_cons_self) with rfl | hin'
          · rfl
          · exact absurd (String.lt_trans (ha _ hin') (hb _ hin)) (String.lt_irrefl _)
      subst hab
      congr 1
      refine ih hl' hm' fun c => ?_
      have hc := h c
      constructor
      · intro hcl
        rcases List.mem_cons.1 (hc.1 (List.mem_cons_of_mem _ hcl)) with rfl | h'
        · exact absurd (ha _ hcl) (String.lt_irrefl _)
        · exact h'
      · intro hcm
        rcases List.mem_cons.1 (hc.2 (List.mem_cons_of_mem _ hcm)) with rfl | h'
        · exact absurd (hb _ hcm) (String.lt_irrefl _)
        · exact h'

/-- Dictionaries with the same value under every key are equal. -/
theorem ext_get? {d e : Dict α} (h : ∀ k, d.get? k = e.get? k) : d = e := by
  obtain ⟨l, hl⟩ := d
  obtain ⟨m, hm⟩ := e
  have : l = m := by
    refine eq_of_mem_iff hl hm fun a => ?_
    obtain ⟨k, v⟩ := a
    rw [← valueOf_eq_some_iff_mem hl, ← valueOf_eq_some_iff_mem hm]
    have := h k
    simp only [get?] at this
    rw [this]
  subst this
  rfl

/-- The keys are the texts under which a value lies. -/
theorem mem_keys_iff {d : Dict α} {k : String} : k ∈ d.keys ↔ ∃ v, d.get? k = some v := by
  simp [keys, get?_eq_some_iff]

end Dict

end BucketDriver
