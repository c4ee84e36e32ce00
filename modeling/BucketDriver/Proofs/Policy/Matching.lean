import BucketDriver.Policy
import BucketDriver.Proofs.Json.Rendered
import BucketDriver.Text.Blank
import Mathlib.Data.List.TakeWhile

/-!
# What a policy opens

A resource of a policy is a pattern: `*` stands for any text, `?` for any character and every other
character for itself (`Matches`). A document opens a bucket or an object when a resource in it
matches its full name.

Main statement: `opens_own_iff`. The document for a bucket opens no other bucket exactly when the
bucket's name is `Literal`: the first character in it that no bucket's name has, if there is one, is
neither of the two that stand for others nor the slash behind which an object's key begins.
-/

namespace BucketDriver.Policy

/-! ## Patterns -/

/-- The characters of a pattern that stand for others. -/
def IsWildcard (c : Char) : Prop :=
  c = '*' ∨ c = '?'

instance : DecidablePred IsWildcard := fun c => inferInstanceAs (Decidable (c = '*' ∨ c = '?'))

/-- A pattern matches a text. -/
inductive Matches : List Char → List Char → Prop where
  | nil : Matches [] []
  | run (front : List Char) {p t : List Char} (h : Matches p t) : Matches ('*' :: p) (front ++ t)
  | any (c : Char) {p t : List Char} (h : Matches p t) : Matches ('?' :: p) (c :: t)
  | same {c : Char} (hc : ¬ IsWildcard c) {p t : List Char} (h : Matches p t) :
    Matches (c :: p) (c :: t)

variable {p p' t t' front : List Char} {c : Char}

/-- A character matches itself, whatever else it matches. -/
theorem Matches.cons (c : Char) (h : Matches p t) : Matches (c :: p) (c :: t) := by
  by_cases hstar : c = '*'
  · subst hstar
    exact .run ['*'] h
  by_cases hmark : c = '?'
  · subst hmark
    exact .any '?' h
  exact .same (fun hc => hc.elim hstar hmark) h

/-- A text behind the same beginning is matched. -/
theorem Matches.behind (front : List Char) (h : Matches p t) :
    Matches (front ++ p) (front ++ t) := by
  induction front with
  | nil => exact h
  | cons c front ih => exact ih.cons c

/-- A pattern matches itself. -/
theorem matches_self (p : List Char) : Matches p p := by
  have h := Matches.behind p .nil
  rwa [List.append_nil] at h

/-- Nothing but itself is matched by a character that does not stand for others. -/
theorem matches_cons_iff (hc : ¬ IsWildcard c) :
    Matches (c :: p) t ↔ ∃ t', t = c :: t' ∧ Matches p t' := by
  constructor
  · intro h
    cases h with
    | run => exact (hc (.inl rfl)).elim
    | any => exact (hc (.inr rfl)).elim
    | same _ h => exact ⟨_, rfl, h⟩
  · rintro ⟨t', rfl, h⟩
    exact h.cons c

/-- A beginning without characters that stand for others is that of the text, too. -/
theorem matches_append_iff (hfront : ∀ c ∈ front, ¬ IsWildcard c) :
    Matches (front ++ p) t ↔ ∃ t', t = front ++ t' ∧ Matches p t' := by
  induction front generalizing t with
  | nil => simp
  | cons c front ih =>
    rw [List.cons_append, matches_cons_iff (hfront c List.mem_cons_self)]
    have hrest := fun t => @ih t fun d hd => hfront d (List.mem_cons_of_mem c hd)
    constructor
    · rintro ⟨t₁, rfl, h⟩
      obtain ⟨t', rfl, h'⟩ := (hrest t₁).1 h
      exact ⟨t', rfl, h'⟩
    · rintro ⟨t', rfl, h⟩
      exact ⟨front ++ t', rfl, (hrest _).2 ⟨t', rfl, h⟩⟩

/-! ## Names of buckets -/

/-- The characters of a bucket's name: lower-case letters, digits, dots and hyphens. -/
def isNameChar (c : Char) : Bool :=
  c.isLower || c.isDigit || c = '.' || c = '-'

/-- A text of such characters, the empty one included. -/
def IsName (cs : List Char) : Prop :=
  cs.all isNameChar = true

instance : DecidablePred IsName := fun cs =>
  inferInstanceAs (Decidable (cs.all isNameChar = true))

/-- Every character of a bucket's name stands for itself. -/
theorem not_isWildcard (hc : isNameChar c = true) : ¬ IsWildcard c := by
  rintro (rfl | rfl) <;> cases hc

/-- What may stand behind a bucket's name: nothing, or a slash and the key of an object. -/
def IsRest (t : List Char) : Prop :=
  t = [] ∨ ∃ key, t = '/' :: key

/-- The first character that no bucket's name has stands for itself and is no slash. -/
def Literal (cs : List Char) : Prop :=
  ∀ c ∈ (cs.dropWhile isNameChar).head?, ¬ IsWildcard c ∧ c ≠ '/'

/-- No bucket's name goes on with the text. -/
def Stops (t : List Char) : Prop :=
  ∀ c, t.head? = some c → isNameChar c = false

/-- What may stand behind a bucket's name does not go on with it. -/
theorem IsRest.stops (h : IsRest t) : Stops t := by
  rcases h with rfl | ⟨key, rfl⟩
  · exact fun _ hc => nomatch hc
  · rintro _ ⟨⟩
    decide

/-- A bucket's name that does not go on is what is taken off the front of a text. -/
theorem span_name {name : List Char} (hname : IsName name) (ht : Stops t) :
    (name ++ t).takeWhile isNameChar = name ∧ (name ++ t).dropWhile isNameChar = t := by
  have hall := List.all_eq_true.1 hname
  rw [List.takeWhile_append_of_pos hall, List.dropWhile_append_of_pos hall]
  cases t with
  | nil => exact ⟨List.append_nil name, rfl⟩
  | cons c t =>
    have hc : ¬ isNameChar c = true := by simp [ht c rfl]
    rw [List.takeWhile_cons_of_neg hc, List.dropWhile_cons_of_neg hc]
    exact ⟨List.append_nil name, rfl⟩

/-- A text begins with one bucket's name that does not go on. -/
theorem name_unique {name name' : List Char} (hname : IsName name) (hname' : IsName name')
    (ht : Stops t) (ht' : Stops t') (h : name ++ t = name' ++ t') : name = name' ∧ t = t' := by
  obtain ⟨hfront, hrest⟩ := span_name hname ht
  obtain ⟨hfront', hrest'⟩ := span_name hname' ht'
  rw [h] at hfront hrest
  exact ⟨hfront.symm.trans hfront', hrest.symm.trans hrest'⟩

/-- A text is the part that a bucket's name could have, and what begins with the first character
that no name has. -/
theorem exists_front (cs : List Char) :
    ∃ front rest, IsName front ∧ cs.dropWhile isNameChar = rest ∧ front ++ rest = cs :=
  ⟨cs.takeWhile isNameChar, _, List.all_eq_true.2 fun _ hc => List.mem_takeWhile_imp hc, rfl,
    List.takeWhile_append_dropWhile⟩

/-- A pattern that begins with a bucket's name matches only texts that begin with it. -/
theorem matches_name_iff {name : List Char} (hname : IsName name) :
    Matches (name ++ p) t ↔ ∃ t', t = name ++ t' ∧ Matches p t' :=
  matches_append_iff fun c hc => not_isWildcard (List.all_eq_true.1 hname c hc)

/-- A literal name, with or without a pattern for keys behind it, matches no bucket's name but
itself. -/
theorem Literal.eq_of_matches {cs name : List Char} (hcs : Literal cs) (hp : IsRest p)
    (hname : IsName name) (ht : IsRest t) (h : Matches (cs ++ p) (name ++ t)) : name = cs := by
  obtain ⟨front, rest, hfront, hrest, rfl⟩ := exists_front cs
  have hlast : Stops rest := by
    rw [← hrest]
    exact fun c hc => by simpa [hc] using List.head?_dropWhile_not isNameChar (front ++ rest)
  rw [Literal, hrest] at hcs
  rw [List.append_assoc, matches_name_iff hfront] at h
  obtain ⟨t', htext, hmatch⟩ := h
  cases rest with
  | nil =>
    -- The whole of it could be a bucket's name, and the text goes on as the pattern does.
    have ht' : IsRest t' := by
      rcases hp with rfl | ⟨key, rfl⟩
      · cases hmatch
        exact .inl rfl
      · obtain ⟨key', rfl, -⟩ := (matches_cons_iff (by decide)).1 hmatch
        exact .inr ⟨key', rfl⟩
    rw [List.append_nil]
    exact (name_unique hname hfront ht.stops ht'.stops htext).1
  | cons c rest =>
    -- No bucket's name and no slash stands where the text must have `c`.
    obtain ⟨hc, hslash⟩ := hcs c rfl
    obtain ⟨t'', rfl, -⟩ := (matches_cons_iff hc).1 hmatch
    have hother : Stops (c :: t'') := hlast
    obtain ⟨-, rfl⟩ := name_unique hname hfront ht.stops hother htext
    rcases ht with hnil | ⟨key, hkey⟩
    · cases hnil
    · cases hkey
      exact (hslash rfl).elim

/-- A name that is not literal matches the full name of an object in another bucket: the bucket is
what stands in front of the character that is not, and the key what stands behind it. -/
theorem exists_matches_of_not_literal {cs : List Char} (h : ¬ Literal cs) :
    ∃ name key, IsName name ∧ name ≠ cs ∧ Matches cs (name ++ '/' :: key) := by
  obtain ⟨name, rest, hname, hrest, rfl⟩ := exists_front cs
  rw [Literal, hrest] at h
  obtain ⟨c, himp⟩ := not_forall.1 h
  obtain ⟨hhead, hc⟩ := Classical.not_imp.1 himp
  obtain ⟨key, rfl⟩ := List.head?_eq_some_iff.1 hhead
  have hslash : Matches (c :: key) ('/' :: key) := by
    by_cases hwild : IsWildcard c
    · rcases hwild with rfl | rfl
      · exact .run ['/'] (matches_self key)
      · exact .any '/' (matches_self key)
    · obtain rfl : c = '/' := not_not.1 fun hslash => hc ⟨hwild, hslash⟩
      exact matches_self _
  exact ⟨name, key, hname, by simp, hslash.behind name⟩

/-! ## Documents -/

/-- A member of an object. -/
def member? (k : String) : Json.Value → Option Json.Value
  | .object members => members.lookup k
  | _ => none

/-- The elements of an array. -/
def items : Json.Value → List Json.Value
  | .array items => items
  | _ => []

/-- The text of a string. -/
def text? : Json.Value → Option String
  | .string s => some s
  | _ => none

/-- The resources in the statements of a document. -/
def resourcesOf (document : Json.Value) : List String :=
  let statements := ((member? "Statement" document).map items).getD []
  statements.flatMap fun statement =>
    (((member? "Resource" statement).map items).getD []).filterMap text?

/-- The resources in a document that is read as JSON; a text that cannot be read has none. -/
def resourcesIn (document : String) : List String :=
  match Json.whole (fun size => Json.value size Json.depthLimit) (Text.Utf8.encode document) with
  | .ok v => resourcesOf v
  | .error _ => []

/-- The full name of a bucket. -/
def bucketArn (bucket : String) : String :=
  "arn:aws:s3:::" ++ bucket

/-- The full name of an object. -/
def objectArn (bucket key : String) : String :=
  bucketArn bucket ++ "/" ++ key

/-- A document opens what has the given full name. -/
def Opens (document fullName : String) : Prop :=
  ∃ resource ∈ resourcesIn document, Matches resource.toList fullName.toList

/-- A document opens a bucket or an object in it. -/
def OpensIn (document bucket : String) : Prop :=
  Opens document (bucketArn bucket) ∨ ∃ key, Opens document (objectArn bucket key)

/-- The policy of a bucket is a plain value. -/
theorem plain_fullAccess (bucket : String) : (fullAccess bucket).Plain Json.depthLimit := by
  simp [fullAccess, Json.depthLimit, Json.Value.Plain, resources]

/-- The document for a bucket is read back as the resources that it was written with. -/
theorem resourcesIn_document (bucket : String) :
    resourcesIn (document bucket) = [bucketArn bucket, bucketArn bucket ++ "/*"] := by
  rw [resourcesIn, document, Json.whole_render (plain_fullAccess bucket)]
  rfl

/-- What the full names of buckets and objects begin with. -/
def arnFront : List Char :=
  "arn:aws:s3:::".toList

theorem bucketArn_toList (bucket : String) :
    (bucketArn bucket).toList = arnFront ++ (bucket.toList ++ []) := by
  rw [bucketArn, String.toList_append, List.append_nil]
  rfl

theorem objectArn_toList (bucket key : String) :
    (objectArn bucket key).toList = arnFront ++ (bucket.toList ++ '/' :: key.toList) := by
  have hslash : "/".toList = ['/'] := rfl
  rw [objectArn, String.toList_append, String.toList_append, bucketArn_toList, hslash,
    List.append_nil, List.append_assoc, List.append_assoc, List.singleton_append]

/-- The document for a bucket opens a full name when the rest of it matches the bucket's name, or
that name with the pattern for all keys behind it. -/
theorem opens_document_iff {bucket fullName : String} {t : List Char}
    (h : fullName.toList = arnFront ++ t) :
    Opens (document bucket) fullName ↔ ∃ p ∈ [[], ['/', '*']], Matches (bucket.toList ++ p) t := by
  have hfront : ∀ c ∈ arnFront, ¬ IsWildcard c := by
    have hstar : '*' ∉ arnFront := by decide
    have hmark : '?' ∉ arnFront := by decide
    rintro c hc (rfl | rfl)
    · exact hstar hc
    · exact hmark hc
  have hrest : ∀ p, Matches (arnFront ++ (bucket.toList ++ p)) (arnFront ++ t) ↔
      Matches (bucket.toList ++ p) t := by
    intro p
    rw [matches_append_iff hfront]
    exact ⟨fun ⟨t', ht', hm⟩ => List.append_cancel_left ht' ▸ hm, fun hm => ⟨t, rfl, hm⟩⟩
  have hall : (bucketArn bucket ++ "/*").toList = arnFront ++ (bucket.toList ++ ['/', '*']) := by
    have hslash : "/*".toList = ['/', '*'] := rfl
    rw [String.toList_append, bucketArn_toList, hslash, List.append_nil, List.append_assoc]
  rw [Opens, resourcesIn_document, h]
  simp only [List.mem_cons, List.not_mem_nil, or_false, exists_eq_or_imp, exists_eq_left,
    bucketArn_toList, hall, hrest]

/-- The document for a bucket opens that bucket and every object in it. -/
theorem opens_own (bucket : String) :
    Opens (document bucket) (bucketArn bucket) ∧
      ∀ key, Opens (document bucket) (objectArn bucket key) := by
  refine ⟨(opens_document_iff (bucketArn_toList bucket)).2 ⟨[], by simp, matches_self _⟩,
    fun key => (opens_document_iff (objectArn_toList bucket key)).2 ⟨['/', '*'], by simp, ?_⟩⟩
  have hkey : Matches ['/', '*'] ('/' :: key.toList) := by
    have hstar := Matches.run key.toList .nil
    rw [List.append_nil] at hstar
    exact hstar.cons '/'
  exact hkey.behind bucket.toList

/-- The document for a bucket opens no other bucket, and nothing in one, exactly when the bucket's
name is literal. -/
theorem opens_own_iff (bucket : String) :
    (∀ name : String, IsName name.toList → OpensIn (document bucket) name → name = bucket) ↔
      Literal bucket.toList := by
  constructor
  · intro h
    by_contra hliteral
    obtain ⟨name, key, hname, hne, hmatch⟩ := exists_matches_of_not_literal hliteral
    have hopens : Opens (document bucket) (objectArn (.ofList name) (.ofList key)) := by
      refine (opens_document_iff (objectArn_toList _ _)).2 ⟨[], by simp, ?_⟩
      rwa [String.toList_ofList, String.toList_ofList, List.append_nil]
    have hown : String.ofList name = bucket :=
      h (.ofList name) (by rwa [String.toList_ofList]) (.inr ⟨_, hopens⟩)
    exact hne (by rw [← hown, String.toList_ofList])
  · intro hliteral name hname hopens
    have hrest : ∀ p ∈ [[], ['/', '*']], IsRest p := by
      intro p hp
      simp only [List.mem_cons, List.not_mem_nil, or_false] at hp
      exact hp.imp id fun hp => ⟨_, hp⟩
    rcases hopens with hopens | ⟨key, hopens⟩
    · obtain ⟨p, hp, hmatch⟩ := (opens_document_iff (bucketArn_toList name)).1 hopens
      exact String.toList_inj.1 (hliteral.eq_of_matches (hrest p hp) hname (.inl rfl) hmatch)
    · obtain ⟨p, hp, hmatch⟩ := (opens_document_iff (objectArn_toList name key)).1 hopens
      exact String.toList_inj.1 (hliteral.eq_of_matches (hrest p hp) hname (.inr ⟨_, rfl⟩) hmatch)

end BucketDriver.Policy
