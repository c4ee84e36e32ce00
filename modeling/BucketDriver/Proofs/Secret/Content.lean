import BucketDriver.Proofs.Dictionary
import BucketDriver.Proofs.Json.Members
import BucketDriver.Proofs.Secret.Confinement

/-!
# What the file of a secret says

The file of a secret holds an object of scalars. Whatever the order of its members, the escapes and
the blanks, the secret that was written is the one that is read (`Spells`). Of several members with
one key the last one counts, and every one that counts has to be a scalar (`Decodes`); a content
that is no object is no secret. Main statement: `secret_decoded`.

The members of a content are those that it has as a value (`Json.whole_value_eq_object_iff`), and
the dictionary made of them keeps the last value for each key (`Dict.get?_ofList`).
-/

namespace BucketDriver.Secret

open Dict (LastValue)
open Json (Value Number Blanks ObjectText StringText)

/-! ## Scalars -/

/-- A value that is a string, a truth value or a number. -/
def IsScalar : Value → Prop
  | .string _ | .boolean _ | .number _ => True
  | .null | .array _ | .object _ => False

/-- The text of a scalar: a string itself, a truth value by its name, a number by its digits. -/
inductive ScalarText : Value → String → Prop where
  | string (s : String) : ScalarText (.string s) s
  | isTrue : ScalarText (.boolean true) "true"
  | isFalse : ScalarText (.boolean false) "false"
  | number (n : Number) : ScalarText (.number n) n.text

variable {v : Value} {t : String}

theorem scalarText?_eq_some_iff : scalarText? v = some t ↔ ScalarText v t := by
  constructor
  · intro h
    cases v with
    | null | array | object => cases h
    | string => cases h; exact .string _
    | boolean b => cases b <;> cases h <;> constructor
    | number => cases h; exact .number _
  · intro h
    cases h <;> rfl

/-- The scalars are the values with a text. -/
theorem isScalar_iff : IsScalar v ↔ ∃ t, ScalarText v t := by
  simp only [← scalarText?_eq_some_iff]
  cases v <;> simp [IsScalar, scalarText?]

theorem not_isScalar_iff : ¬ IsScalar v ↔ scalarText? v = none := by
  cases v <;> simp [IsScalar, scalarText?]

/-! ## The texts of members -/

variable {r : Reference} {ms : List (String × Value)}

/-- The error of a member that is no scalar. -/
def notScalar (r : Reference) (k : String) : DriverError :=
  .secretStore ("secret " ++ r.text ++ " key " ++ k ++ " must be a scalar")

/-- Scalars give each its text, under its key. -/
theorem scalarTexts_of_scalars (h : ∀ m ∈ ms, IsScalar m.2) :
    ∃ ts, scalarTexts r ms = .ok ts ∧ ts.map (·.1) = ms.map (·.1) ∧
      ∀ k t, (k, t) ∈ ts ↔ ∃ v, (k, v) ∈ ms ∧ ScalarText v t := by
  induction ms with
  | nil => exact ⟨[], rfl, rfl, by simp⟩
  | cons m ms ih =>
    obtain ⟨k', v'⟩ := m
    obtain ⟨ts, hts, hkeys, hmem⟩ := ih fun m hm => h m (List.mem_cons_of_mem _ hm)
    obtain ⟨t', ht'⟩ := isScalar_iff.1 (h (k', v') List.mem_cons_self)
    refine ⟨(k', t') :: ts, ?_, by rw [List.map_cons, hkeys, List.map_cons], fun k t => ?_⟩
    · rw [scalarTexts, scalarText?_eq_some_iff.2 ht', hts]
      rfl
    -- A value has one text, so the first member adds one pair and no other.
    · have hone : t = t' ↔ ScalarText v' t := by
        rw [← scalarText?_eq_some_iff, scalarText?_eq_some_iff.2 ht', Option.some.injEq, eq_comm]
      simp only [List.mem_cons, Prod.mk.injEq, hmem, or_and_right, exists_or]
      refine or_congr_left ⟨?_, ?_⟩
      · rintro ⟨rfl, ht⟩
        exact ⟨v', ⟨rfl, rfl⟩, hone.1 ht⟩
      · rintro ⟨v, ⟨rfl, rfl⟩, ht⟩
        exact ⟨rfl, hone.2 ht⟩

/-- One member that is no scalar spoils the others. -/
theorem scalarTexts_of_other (h : ∃ m ∈ ms, ¬ IsScalar m.2) :
    ∃ m ∈ ms, ¬ IsScalar m.2 ∧ scalarTexts r ms = .error (notScalar r m.1) := by
  induction ms with
  | nil => simp at h
  | cons m ms ih =>
    obtain ⟨k', v'⟩ := m
    cases hv' : scalarText? v' with
    | none =>
      exact ⟨(k', v'), List.mem_cons_self, not_isScalar_iff.2 hv', by rw [scalarTexts, hv']; rfl⟩
    | some t' =>
      -- The first member is fine, so the one that is not comes later.
      have hscalar : IsScalar v' := isScalar_iff.2 ⟨t', scalarText?_eq_some_iff.1 hv'⟩
      obtain ⟨m, hm, hother⟩ := h
      have hlater : ∃ m ∈ ms, ¬ IsScalar m.2 := by
        rcases List.mem_cons.1 hm with rfl | hm
        · exact absurd hscalar hother
        · exact ⟨m, hm, hother⟩
      obtain ⟨m, hm, hother, herror⟩ := ih hlater
      exact ⟨m, List.mem_cons_of_mem _ hm, hother, by rw [scalarTexts, hv', herror]; rfl⟩

/-! ## Contents -/

/-- A content as a value. -/
def valueIn (content : List UInt8) : Except Json.ParseError Value :=
  Json.whole (fun size => Json.value size Json.depthLimit) content

/-- What comes of an object with the given members. -/
structure Decodes (r : Reference) (ms : List (String × Value))
    (outcome : Except DriverError (Dict String)) : Prop where
  /-- There is a secret exactly when the last value for each key is a scalar. -/
  succeeds : (∃ d, outcome = .ok d) ↔ ∀ k v, LastValue ms k v → IsScalar v
  /-- The secret has the keys of the object. -/
  keys : ∀ d, outcome = .ok d → ∀ k, k ∈ d.keys ↔ k ∈ ms.map (·.1)
  /-- Under a key lies the text of the last value for it. -/
  texts : ∀ d, outcome = .ok d → ∀ k t, d.get? k = some t ↔ ∃ v, LastValue ms k v ∧ ScalarText v t
  /-- One last value that is no scalar is reported, whatever the others are. -/
  fails : (∃ k v, LastValue ms k v ∧ ¬ IsScalar v) →
    ∃ k v, LastValue ms k v ∧ ¬ IsScalar v ∧ outcome = .error (notScalar r k)

variable {content : List UInt8}

/-- The members of a content are those of the object that it is, the last one for each key. -/
theorem membersOf_eq (h : valueIn content = .ok (.object ms)) :
    membersOf content = .ok (Dict.ofList ms) := by
  have hentries := Json.whole_value_eq_object_iff.1 h
  rw [membersOf, Json.depthLimit, hentries]
  rfl

/-- A content that is no object has no members. -/
theorem membersOf_of_other (h : ∀ ms, valueIn content ≠ .ok (.object ms)) :
    ∃ e, membersOf content = .error e := by
  unfold membersOf
  dsimp only
  cases hentries : Json.whole
      (fun size => Json.entries size (Json.value size (Json.depthLimit - 1))) content with
  | error e => exact ⟨e, rfl⟩
  | ok ms => exact absurd (Json.whole_value_eq_object_iff.2 hentries) (h ms)

theorem ofContent_of_scalars (h : valueIn content = .ok (.object ms))
    (hscalars : ∀ k v, LastValue ms k v → IsScalar v) :
    ∃ d, ofContent r content = .ok d ∧
      ∀ k t, d.get? k = some t ↔ ∃ v, LastValue ms k v ∧ ScalarText v t := by
  obtain ⟨ts, hts, hkeys, hmem⟩ := scalarTexts_of_scalars (r := r)
    fun m (hm : m ∈ (Dict.ofList ms).entries) => hscalars m.1 m.2 (Dict.mem_entries_ofList.1 hm)
  have hnodup : (ts.map (·.1)).Nodup := by
    rw [hkeys]
    exact (Dict.ofList ms).nodup_keys
  refine ⟨Dict.ofList ts, ?_, fun k t => ?_⟩
  · rw [ofContent, membersOf_eq h]
    dsimp only
    rw [hts]
    rfl
  · simp only [Dict.get?_ofList, Dict.lastValue_iff_mem hnodup, hmem, Dict.mem_entries_ofList]

theorem ofContent_of_notScalar (h : valueIn content = .ok (.object ms))
    (hother : ∃ k v, LastValue ms k v ∧ ¬ IsScalar v) :
    ∃ k v, LastValue ms k v ∧ ¬ IsScalar v ∧ ofContent r content = .error (notScalar r k) := by
  obtain ⟨k, v, hv, hother⟩ := hother
  obtain ⟨m, hm, hother, herror⟩ :=
    scalarTexts_of_other (r := r) ⟨(k, v), Dict.mem_entries_ofList.2 hv, hother⟩
  refine ⟨m.1, m.2, Dict.mem_entries_ofList.1 hm, hother, ?_⟩
  rw [ofContent, membersOf_eq h]
  dsimp only
  rw [herror]
  rfl

theorem decodes_ofContent (h : valueIn content = .ok (.object ms)) :
    Decodes r ms (ofContent r content) := by
  have hfails := ofContent_of_notScalar (r := r) h
  -- A secret that is there would have failed for a last value that is no scalar.
  have hscalars : (∃ d, ofContent r content = .ok d) → ∀ k v, LastValue ms k v → IsScalar v := by
    rintro ⟨d, hd⟩ k v hv
    refine Classical.byContradiction fun hother => ?_
    obtain ⟨k', v', -, -, herror⟩ := hfails ⟨k, v, hv, hother⟩
    rw [hd] at herror
    cases herror
  have htexts : ∀ d, ofContent r content = .ok d →
      ∀ k t, d.get? k = some t ↔ ∃ v, LastValue ms k v ∧ ScalarText v t := by
    intro d hd
    obtain ⟨d', hd', hget⟩ := ofContent_of_scalars (r := r) h (hscalars ⟨d, hd⟩)
    cases hd.symm.trans hd'
    exact hget
  refine ⟨⟨hscalars, fun hs => ?_⟩, fun d hd k => ?_, htexts, hfails⟩
  · obtain ⟨d, hd, -⟩ := ofContent_of_scalars (r := r) h hs
    exact ⟨d, hd⟩
  · simp only [Dict.mem_keys_iff, htexts d hd, ← Dict.exists_lastValue_iff]
    constructor
    · rintro ⟨t, v, hv, -⟩
      exact ⟨v, hv⟩
    · rintro ⟨v, hv⟩
      obtain ⟨t, ht⟩ := isScalar_iff.1 (hscalars ⟨d, hd⟩ k v hv)
      exact ⟨t, v, hv, ht⟩

/-! ## Written secrets -/

/-- A content spells a dictionary: it is a text of an object that lists the entries, in whatever
order, with any escapes in the strings and any blanks between the tokens. -/
def Spells (content : List UInt8) (d : Dict String) : Prop :=
  ∃ es s r, es.Perm d.entries ∧ Blanks content s ∧ ObjectText StringText es s r ∧ Blanks r []

/-- Every dictionary can be spelled. -/
theorem spells_written (d : Dict String) :
    Spells (Text.Utf8.encodeChars (Json.writtenObject Json.stringChars d.entries)) d := by
  have hobject : ObjectText StringText d.entries
      (Text.Utf8.encodeChars (Json.writtenObject Json.stringChars d.entries) ++ []) [] :=
    Json.objectText_written Json.stringChars d.entries
      (fun m _ r => Json.stringText_stringChars m.2 r) []
  rw [List.append_nil] at hobject
  exact ⟨d.entries, _, [], .refl _, .none _, hobject, .none _⟩

/-- A spelled dictionary is read back. -/
theorem ofContent_of_spells {d : Dict String} (h : Spells content d) :
    ofContent r content = .ok d := by
  obtain ⟨es, s, r', hes, hbefore, hobject, hbehind⟩ := h
  have hread : valueIn content = .ok (.object (es.map fun e => (e.1, .string e.2))) :=
    Json.whole_ofStrings_text hbefore hobject hbehind
  -- No key comes twice, so the values that count are the strings of the dictionary.
  have hnodup : (es.map (·.1)).Nodup := (hes.map _).nodup_iff.2 d.nodup_keys
  have hlast : ∀ k v, LastValue (es.map fun e => (e.1, Value.string e.2)) k v ↔
      ∃ t, d.get? k = some t ∧ .string t = v := by
    intro k v
    simp only [Dict.lastValue_map, Dict.lastValue_iff_mem hnodup, hes.mem_iff,
      Dict.get?_eq_some_iff]
  obtain ⟨d', hd', hget⟩ := ofContent_of_scalars (r := r) hread fun k v hv => by
    obtain ⟨t, -, rfl⟩ := (hlast k v).1 hv
    trivial
  have heq : d' = d := by
    refine Dict.ext_get? fun k => Option.ext fun t => ?_
    simp only [hget, hlast]
    constructor
    · rintro ⟨_, ⟨t', ht', rfl⟩, htext⟩
      cases htext
      exact ht'
    · intro ht
      exact ⟨.string t, ⟨t, ht, rfl⟩, .string t⟩
  rw [hd', heq]

/-! ## Files -/

/-- The file of a secret is there and has a content. -/
def Holds (tree : FileTree) (root : Path) (r : Reference) (content : List UInt8) : Prop :=
  ∃ place, r.place = .ok place ∧ tree.read root place = .ok content

theorem fileStore_of_holds {tree : FileTree} {root : Path} (h : Holds tree root r content) :
    fileStore tree root r = ofContent r content := by
  obtain ⟨place, hplace, hread⟩ := h
  unfold fileStore secretIn
  simp only [hplace]
  show (tree.read root place).mapError (unreadable r) >>= ofContent r = _
  rw [hread]
  rfl

/-- Secret files decode faithfully. A dictionary that the file spells is the secret. Of any object
the last value for each key counts, and has to be a scalar. A content that is no object is refused
as a whole. -/
theorem secret_decoded {tree : FileTree} {root : Path} (h : Holds tree root r content) :
    (∀ d, Spells content d → fileStore tree root r = .ok d) ∧
    (∀ ms, valueIn content = .ok (.object ms) → Decodes r ms (fileStore tree root r)) ∧
    ((∀ ms, valueIn content ≠ .ok (.object ms)) →
      ∃ e, fileStore tree root r =
        .error (.secretStore ("failed to parse secret " ++ r.text ++ ": " ++ e))) := by
  rw [fileStore_of_holds h]
  refine ⟨fun _ => ofContent_of_spells, fun _ => decodes_ofContent, fun hother => ?_⟩
  obtain ⟨e, he⟩ := membersOf_of_other hother
  exact ⟨e.message, by rw [ofContent, he]⟩

/-- A tree with the file of one secret, of the given content. -/
def oneFile (content : List UInt8) : FileTree :=
  FileTree.empty.withEntry ["team", "prod.json"] (.file content)

theorem holds_oneFile (content : List UInt8) :
    Holds (oneFile content) [] ⟨"prod", "team"⟩ content := by
  have hdirectory : oneFile content ["team"] = some .directory := rfl
  have hfile : oneFile content ["team", "prod.json"] = some (.file content) := rfl
  have hplace := place_of_names (r := ⟨"prod", "team"⟩) (by decide) (by decide)
  refine ⟨["team", "prod.json"], hplace, ?_⟩
  rw [FileTree.read, readIn, if_neg (by decide), if_neg (by decide), descendIn,
    if_neg (by decide), List.nil_append, hdirectory, pure_bind]
  dsimp only
  rw [descendIn, if_neg (by decide), List.singleton_append, hfile, pure_bind]
  rfl

/-- An object with a key that comes twice, the second time in escapes and with a scalar. -/
def mended : List UInt8 :=
  Text.Utf8.encode "\x7b\"k\": null, \"\\u006b\" :\n\"\\ud83d\\ude00\"\x7d"

/-- An object with a key that comes twice, the second time with no scalar. -/
def spoiled : List UInt8 :=
  Text.Utf8.encode "\x7b\"k\": \"v\", \"k\": [], \"l\": true\x7d"

/-- The members of an object, those that are scalars with their text. -/
def shown : Value → Option (List (String × Option String))
  | .object ms => some (ms.map fun m => (m.1, scalarText? m.2))
  | _ => none

theorem exists_members {texts : List (String × Option String)}
    (h : (valueIn content).toOption.bind shown = some texts) :
    ∃ ms, valueIn content = .ok (.object ms) ∧
      ∀ k text, LastValue texts k text ↔ ∃ v, LastValue ms k v ∧ scalarText? v = text := by
  cases hvalue : valueIn content with
  | error e => rw [hvalue] at h; cases h
  | ok v =>
    rw [hvalue] at h
    cases v with
    | object ms =>
      cases Option.some.inj h
      exact ⟨ms, rfl, fun k text => Dict.lastValue_map⟩
    | null | boolean | number | string | array => cases h

/-- Every dictionary is read back as it is written. A value that is no scalar does no harm where a
scalar comes later, and spoils the secret where it comes last; an array is no secret. -/
theorem secret_decoded_doubled :
    (∀ d : Dict String, fileStore
      (oneFile (Text.Utf8.encodeChars (Json.writtenObject Json.stringChars d.entries))) []
        ⟨"prod", "team"⟩ = .ok d) ∧
    (∃ d, fileStore (oneFile mended) [] ⟨"prod", "team"⟩ = .ok d ∧ d.get? "k" = some "😀") ∧
    fileStore (oneFile spoiled) [] ⟨"prod", "team"⟩ =
      .error (.secretStore "secret team/prod key k must be a scalar") ∧
    ∃ e, fileStore (oneFile (Text.Utf8.encode "[\"k\"]")) [] ⟨"prod", "team"⟩ =
      .error (.secretStore ("failed to parse secret team/prod: " ++ e)) := by
  refine ⟨fun d => (secret_decoded (holds_oneFile _)).1 d (spells_written d), ?_, ?_, ?_⟩
  · have hmended : (valueIn mended).toOption.bind shown = some [("k", none), ("k", some "😀")] := by
      decide +kernel
    obtain ⟨ms, hread, hlast⟩ := exists_members hmended
    have hdecodes := (secret_decoded (holds_oneFile mended)).2.1 ms hread
    obtain ⟨d, hd⟩ := hdecodes.succeeds.2 fun k v hv => by
      have hv' := (hlast k _).2 ⟨v, hv, rfl⟩
      simp only [Dict.lastValue_cons, Dict.not_lastValue_nil, false_or] at hv'
      obtain ⟨-, -, htext⟩ | ⟨hother, rfl, -⟩ := hv'
      · exact isScalar_iff.2 ⟨_, scalarText?_eq_some_iff.1 htext⟩
      · exact absurd List.mem_cons_self hother
    refine ⟨d, hd, (hdecodes.texts d hd "k" "😀").2 ?_⟩
    obtain ⟨v, hv, htext⟩ := (hlast "k" (some "😀")).1 ⟨[("k", none)], [], rfl, by decide⟩
    exact ⟨v, hv, scalarText?_eq_some_iff.1 htext⟩
  · have hspoiled : (valueIn spoiled).toOption.bind shown =
        some [("k", some "v"), ("k", none), ("l", some "true")] := by
      decide +kernel
    obtain ⟨ms, hread, hlast⟩ := exists_members hspoiled
    obtain ⟨v, hv, htext⟩ :=
      (hlast "k" none).1 ⟨[("k", some "v")], [("l", some "true")], rfl, by decide⟩
    obtain ⟨k, v', hv', hother, herror⟩ :=
      ((secret_decoded (holds_oneFile spoiled)).2.1 ms hread).fails
        ⟨"k", v, hv, not_isScalar_iff.2 htext⟩
    have hk : k ≠ "l" ∧ k = "k" := by
      simpa [Dict.lastValue_cons] using (hlast k none).2 ⟨v', hv', not_isScalar_iff.1 hother⟩
    rw [herror, hk.2]
    rfl
  · refine (secret_decoded (holds_oneFile _)).2.2 fun ms h => ?_
    have hnone : ((valueIn (Text.Utf8.encode "[\"k\"]")).toOption.bind shown).isNone := by
      decide +kernel
    rw [h] at hnone
    cases hnone

end BucketDriver.Secret
