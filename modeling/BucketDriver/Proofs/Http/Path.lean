import BucketDriver.Http.Route
import BucketDriver.Http.Target
import Mathlib.Data.List.TakeWhile

/-!
# Paths with encoded segments

A segment may spell a text with any choice of escapes: a character that a path may hold stands for
itself, and any byte may be escaped, with digits of either case. Such a segment is read back as its
text (`SegmentText.segmentText?_eq`), and a path of such segments is taken apart into them
(`pathOf_joined`, `segments_joined`).
-/

namespace BucketDriver.Http

open Text (digitValue?)
open Text.Utf8 (encodeChars)
open Text.Percent (decode octet?)

/-- The characters that may stand for themselves in a segment. -/
def isSegmentChar (c : Char) : Bool :=
  isPathChar c && c.toNat < 0x80 && c ≠ '/' && c ≠ '%'

/-- A segment that spells some bytes. -/
inductive SegmentBytes : List UInt8 → List Char → Prop where
  | nil : SegmentBytes [] []
  | plain {c : Char} {bs : List UInt8} {cs : List Char} (hc : isSegmentChar c = true)
    (h : SegmentBytes bs cs) : SegmentBytes (.ofNat c.toNat :: bs) (c :: cs)
  | escaped {u l : Char} {x y : Nat} {bs : List UInt8} {cs : List Char}
    (hu : digitValue? u.toNat = some x) (hl : digitValue? l.toNat = some y)
    (h : SegmentBytes bs cs) : SegmentBytes (.ofNat (x * 16 + y) :: bs) ('%' :: u :: l :: cs)

/-- A segment that spells a text. -/
def SegmentText (t : String) (segment : List Char) : Prop :=
  SegmentBytes (Text.Utf8.encode t) segment

/-- A digit is an ASCII letter or figure. -/
theorem digit_ranges {n v : Nat} (h : digitValue? n = some v) :
    0x30 ≤ n ∧ n ≤ 0x39 ∨ 0x41 ≤ n ∧ n ≤ 0x46 ∨ 0x61 ≤ n ∧ n ≤ 0x66 := by
  unfold digitValue? at h
  split at h
  · omega
  · split at h
    · omega
    · split at h
      · omega
      · cases h

/-- A digit may stand in a path and is no slash. -/
theorem isPathChar_digit {c : Char} {v : Nat} (h : digitValue? c.toNat = some v) :
    isPathChar c = true ∧ c ≠ '/' := by
  have hc := digit_ranges h
  constructor
  · simp [isPathChar]
    omega
  · rintro rfl
    have hslash : '/'.toNat = 0x2F := rfl
    omega

/-- A segment holds path characters only, and no slash. -/
theorem SegmentBytes.isPathChar_of_mem {bs : List UInt8} {cs : List Char} (h : SegmentBytes bs cs) :
    ∀ c ∈ cs, isPathChar c = true ∧ c ≠ '/' := by
  induction h with
  | nil => simp
  | plain hc _ ih =>
    simp only [isSegmentChar, Bool.and_eq_true, decide_eq_true_eq] at hc
    exact List.forall_mem_cons.2 ⟨⟨hc.1.1.1, hc.1.2⟩, ih⟩
  | escaped hu hl _ ih =>
    refine List.forall_mem_cons.2 ⟨⟨rfl, by decide⟩, ?_⟩
    exact List.forall_mem_cons.2
      ⟨isPathChar_digit hu, List.forall_mem_cons.2 ⟨isPathChar_digit hl, ih⟩⟩

/-- The bytes of ASCII characters are their numbers. -/
theorem encodeChars_cons_ascii {c : Char} (hc : c.toNat < 0x80) (cs : List Char) :
    encodeChars (c :: cs) = .ofNat c.toNat :: encodeChars cs := by
  rw [encodeChars, List.flatMap_cons, Text.Utf8.encodeChar, if_pos hc]
  rfl

/-- Undoing the escapes of a segment gives the bytes that it spells. -/
theorem SegmentBytes.decode_eq {bs : List UInt8} {cs : List Char} (h : SegmentBytes bs cs) :
    decode (encodeChars cs) = bs := by
  induction h with
  | nil => rfl
  | @plain c bs cs hc _ ih =>
    simp only [isSegmentChar, Bool.and_eq_true, decide_eq_true_eq] at hc
    -- A character that stands for itself is not taken for the sign of an escape.
    have hsign : UInt8.ofNat c.toNat ≠ Text.Percent.sign := by
      intro h
      have hnat := congrArg UInt8.toNat h
      rw [Text.Utf8.toNat_ofNat (by omega)] at hnat
      exact hc.2 (Char.toNat_inj.1 hnat)
    rw [encodeChars_cons_ascii hc.1.1.2, Text.Percent.decode_cons_of_ne hsign, ih]
  | @escaped u l x y bs cs hu hl _ ih =>
    have hu' := digit_ranges hu
    have hl' := digit_ranges hl
    have hoctet : octet? (.ofNat u.toNat) (.ofNat l.toNat) = some (.ofNat (x * 16 + y)) := by
      rw [octet?, Text.Utf8.toNat_ofNat (by omega), Text.Utf8.toNat_ofNat (by omega), hu, hl]
    have hsign : encodeChars ('%' :: u :: l :: cs) =
        Text.Percent.sign :: .ofNat u.toNat :: .ofNat l.toNat :: encodeChars cs := by
      rw [encodeChars_cons_ascii (by decide), encodeChars_cons_ascii (by omega),
        encodeChars_cons_ascii (by omega)]
      rfl
    rw [hsign, Text.Percent.decode_escape hoctet, ih]

/-- A segment is read as the text that it spells. -/
theorem SegmentText.segmentText?_eq {t : String} {segment : List Char} (h : SegmentText t segment) :
    segmentText? segment = some t := by
  rw [segmentText?, h.decode_eq, Text.Utf8.decode?_encode]

/-- A segment that spells a text is empty only if the text is. -/
theorem SegmentText.ne_nil {t : String} {segment : List Char} (h : SegmentText t segment)
    (ht : t ≠ "") : segment ≠ [] := by
  rintro rfl
  have hread := h.segmentText?_eq
  have hempty : segmentText? [] = some "" := by decide
  rw [hempty] at hread
  exact ht (Option.some.inj hread).symm

/-- An encoded byte in front of a segment spells that byte as well. -/
theorem segmentBytes_encodeByte {b : UInt8} {bs : List UInt8} {cs : List Char}
    (h : SegmentBytes bs cs) : SegmentBytes (b :: bs) (Text.Percent.encodeByte b ++ cs) := by
  -- The unreserved bytes are among the characters that may stand for themselves.
  have hself : ∀ n : Fin 256, Text.Percent.isUnreserved (.ofNat n) = true →
      isSegmentChar (Char.ofNat (UInt8.ofNat n).toNat) = true ∧
      (Char.ofNat (UInt8.ofNat n).toNat).toNat = n := by
    decide +kernel
  have hb : UInt8.ofNat b.toNat = b := UInt8.ofNat_toNat
  unfold Text.Percent.encodeByte
  split
  case isTrue hu =>
    have hchar := hself ⟨b.toNat, b.toNat_lt⟩
    simp only [hb] at hchar
    obtain ⟨hsegment, hnat⟩ := hchar hu
    have hplain := SegmentBytes.plain hsegment h
    rwa [hnat, hb] at hplain
  case isFalse =>
    have hlt := b.toNat_lt
    have hu := (Text.digitValue?_digitChar (n := b.toNat / 16) (by omega)).2
    have hl := (Text.digitValue?_digitChar (n := b.toNat % 16) (by omega)).2
    have hescaped := SegmentBytes.escaped hu hl h
    have hbyte : b.toNat / 16 * 16 + b.toNat % 16 = b.toNat := by omega
    rwa [hbyte, hb] at hescaped

/-- An encoded text is a segment that spells it. -/
theorem segmentText_encode (t : String) : SegmentText t (Text.Percent.encode t).toList := by
  have hbytes : ∀ bs : List UInt8, SegmentBytes bs (bs.flatMap Text.Percent.encodeByte) := by
    intro bs
    induction bs with
    | nil => exact .nil
    | cons b bs ih => exact segmentBytes_encodeByte ih
  rw [SegmentText, Text.Percent.encode, String.toList_ofList]
  exact hbytes _

/-! ## Joined segments -/

/-- The path of some segments. -/
def joined (segs : List (List Char)) : List Char :=
  segs.flatMap ('/' :: ·)

/-- The first segment reaches to the first slash. -/
theorem segments_append {segment rest : List Char} {segs : List (List Char)}
    (h : ∀ c ∈ segment, c ≠ '/') (hrest : segments rest = [] :: segs) :
    segments (segment ++ rest) = segment :: segs := by
  induction segment with
  | nil => exact hrest
  | cons c cs ih =>
    obtain ⟨hc, hcs⟩ := List.forall_mem_cons.1 h
    rw [List.cons_append, segments, if_neg hc, ih hcs]

/-- A path is taken apart into its segments. -/
theorem segments_joined {segs : List (List Char)} (h : ∀ s ∈ segs, ∀ c ∈ s, c ≠ '/') :
    segments (joined segs) = [] :: segs := by
  induction segs with
  | nil => rfl
  | cons s segs ih =>
    obtain ⟨hs, hsegs⟩ := List.forall_mem_cons.1 h
    have hrest := ih hsegs
    rw [joined] at hrest ⊢
    rw [List.flatMap_cons, List.cons_append, segments, if_pos rfl, segments_append hs hrest]

/-- A target that is a path of path characters has that path. -/
theorem pathOf_joined {target : String} {segs : List (List Char)} (hne : segs ≠ [])
    (htarget : target.toList = joined segs)
    (h : ∀ s ∈ segs, ∀ c ∈ s, isPathChar c = true)
    (hlength : (Text.Utf8.encode target).length ≤ maxTarget) :
    pathOf target = .ok (joined segs) := by
  have hall : ∀ c ∈ joined segs, isPathChar c = true := by
    intro c hc
    obtain ⟨s, hs, hc⟩ := List.mem_flatMap.1 hc
    rcases List.mem_cons.1 hc with rfl | hc
    · rfl
    · exact h s hs c hc
  have htake : (joined segs).takeWhile (fun c => c ≠ '?' && c ≠ '#') = joined segs := by
    -- Neither character is one of a path.
    have hpass : ∀ c ∈ joined segs, (c ≠ '?' && c ≠ '#') = true := by
      intro c hc
      have hne : ∀ d, isPathChar d = false → c ≠ d := by
        rintro d hd rfl
        exact Bool.false_ne_true (hd.symm.trans (hall c hc))
      simp [hne '?' (by decide), hne '#' (by decide)]
    exact List.takeWhile_eq_self_iff.2 hpass
  have hsplit : splitPath (joined segs) = .ok (joined segs) := by
    rw [splitPath, htake, if_pos (List.all_eq_true.2 hall), List.drop_length]
  obtain ⟨s, segs, rfl⟩ := List.exists_cons_of_ne_nil hne
  rw [pathOf, if_neg (Nat.not_lt.2 hlength), htarget]
  exact hsplit

end BucketDriver.Http
