import BucketDriver.Proofs.Policy.Matching

/-!
# The text of a policy

The document for a bucket is one fixed text in which the bucket's name stands twice, written by the
rules for characters in a string (`Json.Escaped`). The rules say for every character how it is
written, and no name that is written by them ends its string early: the document is read back as the
policy it was written for, whatever characters the name has. Main statement: `document_unconfused`.
-/

namespace BucketDriver.Json

/-! ## Rules of escaping -/

/-- The digits of a control character's number, letters in lower case. -/
def escapeDigits : List Char :=
  "0123456789abcdef".toList

/-- The characters with an escape of one letter, and the letter. -/
def letterEscapes : List (Char × Char) :=
  [('"', '"'), ('\\', '\\'), ('\x08', 'b'), ('\x0c', 'f'), ('\n', 'n'), ('\r', 'r'), ('\t', 't')]

/-- How a character is written in a string. -/
inductive Escaped : Char → List Char → Prop where
  /-- Seven characters have an escape of one letter. -/
  | letter {c e : Char} (h : (c, e) ∈ letterEscapes) : Escaped c ['\\', e]
  /-- The other control characters are written by their number, in four digits. -/
  | control {c d e : Char} (hcontrol : c.toNat < 0x20) (hletter : ∀ e, (c, e) ∉ letterEscapes)
    (hd : escapeDigits[c.toNat / 16]? = some d) (he : escapeDigits[c.toNat % 16]? = some e) :
    Escaped c ['\\', 'u', '0', '0', d, e]
  /-- All other characters stand for themselves. -/
  | plain {c : Char} (hcontrol : 0x20 ≤ c.toNat) (hletter : ∀ e, (c, e) ∉ letterEscapes) :
    Escaped c [c]

/-- Characters in a string, one after the other. -/
inductive EscapedText : List Char → List Char → Prop where
  | nil : EscapedText [] []
  | cons {c : Char} {cs t ts : List Char} (hc : Escaped c t) (hcs : EscapedText cs ts) :
    EscapedText (c :: cs) (t ++ ts)

/-- The digits of a control character are the ones that are written. -/
theorem controlDigits_eq {n : Nat} (h : n < 0x20) : ∃ d e, controlDigits n = [d, e] ∧
    escapeDigits[n / 16]? = some d ∧ escapeDigits[n % 16]? = some e := by
  have key : ∀ m : Fin 0x20, escapeDigits[m.val / 16]? = some (Nat.digitChar (m.val / 16)) ∧
      escapeDigits[m.val % 16]? = some (Nat.digitChar (m.val % 16)) := by decide
  exact ⟨_, _, rfl, key ⟨n, h⟩⟩

/-- Every character is written by the rules. -/
theorem escaped_escapedChar (c : Char) : Escaped c (escapedChar c) := by
  -- Seven characters have an escape of one letter.
  by_cases h₁ : c = '"'
  · subst h₁; exact .letter (by decide)
  by_cases h₂ : c = '\\'
  · subst h₂; exact .letter (by decide)
  by_cases h₃ : c = '\x08'
  · subst h₃; exact .letter (by decide)
  by_cases h₄ : c = '\x0c'
  · subst h₄; exact .letter (by decide)
  by_cases h₅ : c = '\n'
  · subst h₅; exact .letter (by decide)
  by_cases h₆ : c = '\r'
  · subst h₆; exact .letter (by decide)
  by_cases h₇ : c = '\t'
  · subst h₇; exact .letter (by decide)
  have hletter : ∀ e, (c, e) ∉ letterEscapes := by
    intro e he
    simp [letterEscapes, h₁, h₂, h₃, h₄, h₅, h₆, h₇] at he
  rw [escapedChar, if_neg h₁, if_neg h₂, if_neg h₃, if_neg h₄, if_neg h₅, if_neg h₆, if_neg h₇]
  by_cases h₈ : c.toNat < 0x20
  · obtain ⟨d, e, hdigits, hd, he⟩ := controlDigits_eq h₈
    rw [if_pos h₈, hdigits]
    exact .control h₈ hletter hd he
  · rw [if_neg h₈]
    exact .plain (Nat.not_lt.1 h₈) hletter

/-- Every text is written by the rules, character by character. -/
theorem escapedText_flatMap (cs : List Char) : EscapedText cs (cs.flatMap escapedChar) := by
  induction cs with
  | nil => exact .nil
  | cons c cs ih =>
    rw [List.flatMap_cons]
    exact .cons (escaped_escapedChar c) ih

end BucketDriver.Json

namespace BucketDriver.Policy

open Json (EscapedText escapedText_flatMap)

/-! ## The document -/

/-- The document up to the first place of the bucket's name. -/
def documentFront : String :=
  "\x7b\"Version\":\"2012-10-17\",\"Statement\":[\x7b\"Effect\":\"Allow\",\"Action\":\"s3:*\"," ++
    "\"Resource\":[\"arn:aws:s3:::"

/-- The document between the two places of the bucket's name. -/
def documentMiddle : String := "\",\"arn:aws:s3:::"

/-- The document behind the second place of the bucket's name. -/
def documentEnd : String := "/*\"]\x7d]\x7d"

/-- The document with a text in place of the bucket's name. -/
def documentAround (t : List Char) : List Char :=
  documentFront.toList ++ t ++ documentMiddle.toList ++ t ++ documentEnd.toList

/-- A resource of the policy in writing: a front without escapes, the bucket's name escaped, and an
end without escapes. -/
theorem stringChars_around (front bucket last : String)
    (hfront : front.toList.flatMap Json.escapedChar = front.toList)
    (hlast : last.toList.flatMap Json.escapedChar = last.toList) :
    Json.stringChars (front ++ bucket ++ last) =
      '"' :: (front.toList ++
        (bucket.toList.flatMap Json.escapedChar ++ (last.toList ++ ['"']))) := by
  simp only [Json.stringChars, String.toList_append, List.flatMap_append, hfront, hlast,
    List.append_assoc]

/-- The document holds the bucket's name, escaped, twice. -/
theorem document_toList (bucket : String) :
    (document bucket).toList = documentAround (bucket.toList.flatMap Json.escapedChar) := by
  have hbucket := stringChars_around "arn:aws:s3:::" bucket "" (by decide) (by decide)
  have hobjects := stringChars_around "arn:aws:s3:::" bucket "/*" (by decide) (by decide)
  rw [String.append_empty] at hbucket
  have hchars : (document bucket).toList = (fullAccess bucket).chars := by
    rw [document, Json.Value.render, String.toList_ofList]
  rw [hchars]
  simp only [fullAccess, resources, documentAround, List.map_cons, List.map_nil, Json.Value.chars,
    Json.memberChars, Json.itemChars, Json.separated, hbucket, hobjects, List.append_assoc,
    List.cons_append]
  rfl

/-- The document for a bucket cannot be confused. It is one fixed text in which the bucket's name
stands twice, written by the rules of escaping; it is read back as an object with the version and
one statement, whose members are the effect, the action and the two resources, and nothing else; and
different buckets have different documents and different names of policies. -/
theorem document_unconfused (bucket : String) :
    (∃ t, EscapedText bucket.toList t ∧ (document bucket).toList = documentAround t) ∧
    Json.whole (fun size => Json.value size Json.depthLimit) (Text.Utf8.encode (document bucket)) =
      .ok (.object [
        ("Version", .string "2012-10-17"),
        ("Statement", .array [.object [
          ("Effect", .string "Allow"),
          ("Action", .string "s3:*"),
          ("Resource", .array [.string ("arn:aws:s3:::" ++ bucket),
            .string ("arn:aws:s3:::" ++ bucket ++ "/*")])]])]) ∧
    ∀ bucket', (document bucket' = document bucket ↔ bucket' = bucket) ∧
      (name bucket' = name bucket ↔ bucket' = bucket) := by
  have hread := fun b => Json.whole_render (plain_fullAccess b)
  refine ⟨⟨_, escapedText_flatMap _, document_toList bucket⟩, hread bucket, fun bucket' => ?_⟩
  refine ⟨?_, name_inj⟩
  constructor
  · intro h
    -- What is read back has the bucket's name in it.
    have hvalue : fullAccess bucket' = fullAccess bucket := by
      have hsame := hread bucket'
      rw [← document, h, document, hread bucket] at hsame
      exact (Except.ok.inj hsame).symm
    simpa [fullAccess, resources] using hvalue
  · exact congrArg document

end BucketDriver.Policy
