import BucketDriver.Dict

/-!
# Dictionaries within one another

`d ⊆ e` says that every entry of `d` is one of `e`. Beside it stand the few equations between
dictionaries that states are compared by: insertions and erasures that change nothing, and
dictionaries with at most one key. The dictionary of a list of entries has the last value for each
key (`get?_ofList`), so it can be made of its own entries in any order (`ofList_of_perm`). All are
proved by look-up (`ext_get?`).
-/

namespace BucketDriver.Dict

variable {α : Type u} {d e f : Dict α} {k : String} {v : α}

instance : HasSubset (Dict α) :=
  ⟨fun d e => ∀ k v, d.get? k = some v → e.get? k = some v⟩

theorem subset_refl (d : Dict α) : d ⊆ d := fun _ _ h => h

theorem subset_trans (hde : d ⊆ e) (hef : e ⊆ f) : d ⊆ f := fun k v h => hef k v (hde k v h)

theorem empty_subset (d : Dict α) : empty ⊆ d := fun k v h => by simp at h

/-- Erasing only takes entries away. -/
theorem erase_subset (d : Dict α) (k : String) : d.erase k ⊆ d := by
  intro k' v h
  rw [get?_erase] at h
  split at h
  · cases h
  · exact h

/-- A key that a dictionary does not have is in none within it. -/
theorem get?_eq_none_of_subset (h : d ⊆ e) (hk : e.get? k = none) : d.get? k = none := by
  cases hd : d.get? k with
  | none => rfl
  | some v => rw [h k v hd] at hk; cases hk

theorem eq_empty_of_get? (h : ∀ k, d.get? k = none) : d = empty :=
  ext_get? fun k => by rw [h k, get?_empty]

/-- A dictionary within another is empty when it has none of the other's keys. -/
theorem eq_empty_of_subset (h : d ⊆ e) (hgone : ∀ k ∈ e.keys, d.get? k = none) : d = empty := by
  refine eq_empty_of_get? fun k => ?_
  cases hd : d.get? k with
  | none => rfl
  | some v =>
    have hk := hgone k (mem_keys_iff.2 ⟨v, h k v hd⟩)
    rw [hk] at hd
    cases hd

/-- A dictionary that has the entry already is not changed by inserting it. -/
theorem insert_eq_self (h : d.get? k = some v) : d.insert k v = d := by
  apply ext_get?
  intro k'
  rw [get?_insert]
  split
  case isTrue heq => rw [heq, h]
  case isFalse => rfl

/-- A dictionary without the key is not changed by erasing it. -/
theorem erase_eq_self (h : d.get? k = none) : d.erase k = d := by
  apply ext_get?
  intro k'
  rw [get?_erase]
  split
  case isTrue heq => rw [heq, h]
  case isFalse => rfl

theorem contains_eq_false_iff : d.contains k = false ↔ d.get? k = none := by
  simp [contains]

theorem isEmpty_iff : d.isEmpty = true ↔ d = empty := by
  obtain ⟨l, hl⟩ := d
  simp [isEmpty, empty]

theorem length_insertEntry_le (k : String) (v : α) (l : List (String × α)) :
    (insertEntry k v l).length ≤ l.length + 1 := by
  induction l with
  | nil => exact Nat.le_refl 1
  | cons b rest ih => grind [insertEntry]

/-- An insertion adds one entry at most. -/
theorem size_insert_le (d : Dict α) (k : String) (v : α) : (d.insert k v).size ≤ d.size + 1 :=
  length_insertEntry_le k v d.entries

/-- Erasing adds no entry. -/
theorem size_erase_le (d : Dict α) (k : String) : (d.erase k).size ≤ d.size :=
  List.length_filter_le _ _

/-- A dictionary with no key but one has that key or none. -/
theorem get?_eq_none_of_keys {n : String} (h : ∀ k ∈ d.keys, k = n) (hk : k ≠ n) :
    d.get? k = none := by
  cases hd : d.get? k with
  | none => rfl
  | some v => exact absurd (h k (mem_keys_iff.2 ⟨v, hd⟩)) hk

/-- Inserting under the only key there may be leaves that entry alone. -/
theorem insert_eq_insert_empty {n : String} (h : ∀ k ∈ d.keys, k = n) :
    d.insert n v = empty.insert n v := by
  apply ext_get?
  intro k
  rw [get?_insert, get?_insert]
  split
  case isTrue => rfl
  case isFalse hk => rw [get?_eq_none_of_keys h hk, get?_empty]

/-- A dictionary has no key but one exactly when nothing is left without that key. -/
theorem erase_eq_empty_iff {n : String} : d.erase n = empty ↔ ∀ k ∈ d.keys, k = n := by
  constructor
  · intro h k hk
    obtain ⟨v, hv⟩ := mem_keys_iff.1 hk
    refine Decidable.byContradiction fun hne => ?_
    have hget : (d.erase n).get? k = some v := by rw [get?_erase, if_neg hne, hv]
    rw [h] at hget
    cases hget
  · intro h
    refine eq_empty_of_get? fun k => ?_
    rw [get?_erase]
    split
    case isTrue => rfl
    case isFalse hk => exact get?_eq_none_of_keys h hk

/-! ## Lists of entries -/

/-- The last value that a list of entries has for a key. -/
def LastValue (l : List (String × α)) (k : String) (v : α) : Prop :=
  ∃ before after, l = before ++ (k, v) :: after ∧ k ∉ after.map (·.1)

variable {l : List (String × α)}

@[simp] theorem not_lastValue_nil : ¬ LastValue [] k v := by
  simp [LastValue]

theorem lastValue_cons {k' : String} {v' : α} :
    LastValue ((k', v') :: l) k v ↔
      LastValue l k v ∨ k ∉ l.map (·.1) ∧ k = k' ∧ v = v' := by
  constructor
  · rintro ⟨before, after, hl, hafter⟩
    cases before with
    | nil =>
      simp only [List.nil_append, List.cons.injEq, Prod.mk.injEq] at hl
      obtain ⟨⟨rfl, rfl⟩, rfl⟩ := hl
      exact .inr ⟨hafter, rfl, rfl⟩
    | cons e before =>
      rw [List.cons_append, List.cons.injEq] at hl
      exact .inl ⟨before, after, hl.2, hafter⟩
  · rintro (⟨before, after, rfl, hafter⟩ | ⟨hk, rfl, rfl⟩)
    · exact ⟨(k', v') :: before, after, rfl, hafter⟩
    · exact ⟨[], l, rfl, hk⟩

/-- A key that comes at all has a last value. -/
theorem exists_lastValue_iff : (∃ v, LastValue l k v) ↔ k ∈ l.map (·.1) := by
  induction l with
  | nil => simp
  | cons e l ih =>
    obtain ⟨k', v'⟩ := e
    simp only [lastValue_cons, exists_or, ih, List.map_cons, List.mem_cons]
    by_cases hk : k ∈ l.map (·.1) <;> simp [hk]

/-- Of values that are mapped the same ones are the last. -/
theorem lastValue_map {β : Type w} {f : α → β} {b : β} :
    LastValue (l.map fun e => (e.1, f e.2)) k b ↔ ∃ v, LastValue l k v ∧ f v = b := by
  induction l with
  | nil => simp
  | cons e l ih =>
    obtain ⟨k', v'⟩ := e
    simp only [List.map_cons, lastValue_cons, ih, List.map_map, or_and_right, exists_or]
    refine or_congr_right ⟨?_, ?_⟩
    · rintro ⟨hk, rfl, rfl⟩
      exact ⟨v', ⟨hk, rfl, rfl⟩, rfl⟩
    · rintro ⟨v, ⟨hk, rfl, rfl⟩, rfl⟩
      exact ⟨hk, rfl, rfl⟩

/-- Where no key comes twice, every value is the last one for its key. -/
theorem lastValue_iff_mem (hl : (l.map (·.1)).Nodup) : LastValue l k v ↔ (k, v) ∈ l := by
  induction l with
  | nil => simp
  | cons e l ih =>
    obtain ⟨k', v'⟩ := e
    rw [List.map_cons, List.nodup_cons] at hl
    rw [lastValue_cons, ih hl.2, List.mem_cons, Prod.mk.injEq, or_comm]
    have hnew : k = k' → k ∉ l.map (·.1) := by
      rintro rfl
      exact hl.1
    refine or_congr_left ⟨And.right, fun h => ⟨hnew h.1, h⟩⟩

/-- Insertions put the last value of each key in and leave other keys alone. By induction on the
entries, from any dictionary. -/
theorem get?_foldl_insert :
    (l.foldl (fun d e => d.insert e.1 e.2) d).get? k = some v ↔
      LastValue l k v ∨ k ∉ l.map (·.1) ∧ d.get? k = some v := by
  induction l generalizing d with
  | nil => simp
  | cons e l ih =>
    obtain ⟨k', v'⟩ := e
    rw [List.foldl_cons, ih, get?_insert, lastValue_cons]
    by_cases hk : k = k'
    · simp [hk, eq_comm]
    · simp [hk]

/-- In the dictionary of a list of entries lies the last value for each key. -/
theorem get?_ofList : (ofList l).get? k = some v ↔ LastValue l k v := by
  have h : (ofList l).get? k = some v ↔ _ := get?_foldl_insert
  simpa using h

theorem mem_entries_ofList : (k, v) ∈ (ofList l).entries ↔ LastValue l k v := by
  rw [← get?_eq_some_iff, get?_ofList]

/-- No key of a dictionary comes twice. -/
theorem nodup_keys (d : Dict α) : d.keys.Nodup := by
  rw [keys, List.nodup_iff_pairwise_ne, List.pairwise_map]
  refine d.ascending.imp fun {a b} (hlt : a.1 < b.1) (heq : a.1 = b.1) => ?_
  rw [heq] at hlt
  exact String.lt_irrefl _ hlt

/-- A dictionary is made of its entries, in whatever order. -/
theorem ofList_of_perm (h : l.Perm d.entries) : ofList l = d := by
  have hnodup : (l.map (·.1)).Nodup := (h.map _).nodup_iff.2 d.nodup_keys
  apply ext_get?
  intro k
  apply Option.ext
  intro v
  rw [get?_ofList, lastValue_iff_mem hnodup, h.mem_iff, get?_eq_some_iff]

end BucketDriver.Dict
