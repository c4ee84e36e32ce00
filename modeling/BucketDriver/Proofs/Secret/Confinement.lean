import BucketDriver.Http.Route
import BucketDriver.Secret.Store

/-!
# Secrets stay in their files

The path of a secret is made by joining two names to the root, and a file system takes the text
apart at its slashes again (`joinText`, `parts`). A text that is no name of an entry (`IsName`) is
turned down before anything is looked at, the namespace first. With two names, the path has the
parts of the root and exactly these two behind them, whatever the root is, so that no two secrets
share a path, and reading the secret looks at nothing but the two entries: `secret_confined`.

What is looked at on the way is said by `secretIn`, of which `fileStore` is the case without
effects: two ways of looking, in any monad, give the same effects and the same secret when they
agree on what is looked at.
-/

namespace BucketDriver.Secret

open Http (segments)

/-! ## Paths as texts -/

/-- A part of a path that is given as a text. -/
inductive Part where
  /-- The top of the file system, in front of a path that begins with a slash. -/
  | top
  /-- The directory where the path begins, if the path says so first. -/
  | here
  /-- The directory above. -/
  | above
  /-- An entry with a name. -/
  | named (name : String)
  deriving DecidableEq, Repr

/-- What the text between two slashes stands for: nothing if it is empty or a single dot. -/
def Part.ofSegment? (segment : List Char) : Option Part :=
  if segment = [] ∨ segment = ['.'] then none
  else if segment = ['.', '.'] then some .above
  else some (.named (String.ofList segment))

/-- What a path begins with, given the texts between its slashes. -/
def frontOf : List (List Char) → List Part
  | [] => []
  | s :: rest =>
    if s = [] ∧ rest ≠ [] then [.top]
    else if s = ['.'] then [.here]
    else []

/-- The parts of a path. -/
def parts (path : String) : List Part :=
  let between := segments path.toList
  frontOf between ++ between.filterMap Part.ofSegment?

/-- A path joined to another: in its place if it begins at the top, and otherwise behind it, with a
slash between both unless there is one. -/
def joinText (base path : String) : String :=
  if path.toList.head? = some '/' then path
  else if base = "" ∨ base.toList.getLast? = some '/' then base ++ path
  else base ++ "/" ++ path

/-- The path of a secret below a root, as a text. -/
def Reference.pathText (root : String) (r : Reference) : Except DriverError String :=
  r.place.map (·.foldl joinText root)

/-- Texts that can name an entry of a directory on every file system. -/
structure IsName (s : String) : Prop where
  /-- It is not empty. -/
  nonempty : s ≠ ""
  /-- It is not the directory itself. -/
  ne_here : s ≠ "."
  /-- It is not the directory above. -/
  ne_above : s ≠ ".."
  /-- It has no slash. -/
  slash : '/' ∉ s.toList
  /-- It has no backslash. -/
  backslash : '\\' ∉ s.toList

theorem segments_ne_nil (cs : List Char) : segments cs ≠ [] := by
  cases cs with
  | nil => exact List.cons_ne_nil _ _
  | cons c cs =>
    rw [segments]
    split
    · exact List.cons_ne_nil _ _
    · split <;> exact List.cons_ne_nil _ _

/-- A slash divides the texts between slashes. -/
theorem segments_slash (cs ds : List Char) :
    segments (cs ++ '/' :: ds) = segments cs ++ segments ds := by
  induction cs with
  | nil => rfl
  | cons c cs ih =>
    rw [List.cons_append, segments, segments, ih]
    split
    case isTrue => rfl
    case isFalse =>
      cases hcs : segments cs with
      | nil => exact absurd hcs (segments_ne_nil cs)
      | cons s segs => rfl

/-- A text without slashes stands alone. -/
theorem segments_of_not_mem {cs : List Char} (h : '/' ∉ cs) : segments cs = [cs] := by
  induction cs with
  | nil => rfl
  | cons c cs ih =>
    obtain ⟨hc, hcs⟩ := not_or.1 (mt List.mem_cons.2 h)
    rw [segments, if_neg (Ne.symm hc), ih hcs]

/-- What a path begins with does not depend on what follows its last slash. -/
theorem frontOf_concat {segs : List (List Char)} (h : segs ≠ []) (s t : List Char) :
    frontOf (segs ++ [s]) = frontOf (segs ++ [t]) := by
  cases segs with
  | nil => exact absurd rfl h
  | cons x rest => simp [frontOf]

/-- A path that is not empty begins as it did before something was joined to it. -/
theorem frontOf_concat_of_ne {segs : List (List Char)} (h : segs ≠ [[]]) (hne : segs ≠ [])
    (s : List Char) : frontOf (segs ++ [s]) = frontOf segs := by
  cases segs with
  | nil => exact absurd rfl hne
  | cons x rest =>
    cases rest with
    | nil =>
      have hx : x ≠ [] := fun heq => h (by rw [heq])
      simp [frontOf, hx]
    | cons y rest => simp [frontOf]

theorem segments_eq_singleton_nil {cs : List Char} (h : segments cs = [[]]) : cs = [] := by
  cases cs with
  | nil => rfl
  | cons c cs =>
    rw [segments] at h
    split at h
    case isTrue => exact absurd (List.cons.inj h).2 (segments_ne_nil cs)
    case isFalse => split at h <;> cases h

namespace IsName

variable {s : String}

/-- A name has no slash, so it is one text between slashes. -/
theorem segments_eq (h : IsName s) : segments s.toList = [s.toList] :=
  segments_of_not_mem h.slash

theorem toList_ne_nil (h : IsName s) : s.toList ≠ [] :=
  fun heq => h.nonempty (String.toList_inj.1 heq)

/-- A name stands for the entry of that name. -/
theorem ofSegment?_eq (h : IsName s) : Part.ofSegment? s.toList = some (.named s) := by
  have hhere : s.toList ≠ ['.'] := fun heq => h.ne_here (String.toList_inj.1 heq)
  have habove : s.toList ≠ ['.', '.'] := fun heq => h.ne_above (String.toList_inj.1 heq)
  rw [Part.ofSegment?, if_neg (not_or.2 ⟨h.toList_ne_nil, hhere⟩), if_neg habove,
    String.ofList_toList]

/-- Joining a name to a path adds one part, the entry of that name. -/
theorem parts_joinText (h : IsName s) (base : String) :
    parts (joinText base s) = parts base ++ [.named s] := by
  have hhead : s.toList.head? ≠ some '/' := fun heq => h.slash (List.mem_of_mem_head? heq)
  have hlast : [s.toList].filterMap Part.ofSegment? = [.named s] := by
    rw [List.filterMap_cons_some h.ofSegment?_eq, List.filterMap_nil]
  rw [joinText, if_neg hhead]
  by_cases hempty : base = ""
  · -- The name is the whole path.
    subst hempty
    have hhere : s.toList ≠ ['.'] := fun heq => h.ne_here (String.toList_inj.1 heq)
    have hfront : frontOf [s.toList] = [] := by simp [frontOf, hhere]
    rw [if_pos (.inl rfl), String.empty_append, parts, h.segments_eq]
    rw [hlast, hfront]
    rfl
  by_cases hslash : base.toList.getLast? = some '/'
  · -- The path ends with the slash already, and nothing follows it.
    obtain ⟨front, hfront⟩ := List.getLast?_eq_some_iff.1 hslash
    have hbase : segments base.toList = segments front ++ [[]] := by
      rw [hfront, segments_slash]
      rfl
    have hjoined : segments (base ++ s).toList = segments front ++ [s.toList] := by
      rw [String.toList_append, hfront, List.append_assoc, List.singleton_append, segments_slash,
        h.segments_eq]
    have hnothing : [([] : List Char)].filterMap Part.ofSegment? = [] := rfl
    rw [if_pos (.inr hslash), parts, parts, hbase, hjoined]
    rw [List.filterMap_append, List.filterMap_append, hlast, hnothing,
      frontOf_concat (segments_ne_nil front) s.toList [], List.append_nil, List.append_assoc]
  · -- A slash is put between both.
    have hjoined : segments (base ++ "/" ++ s).toList = segments base.toList ++ [s.toList] := by
      rw [String.toList_append, String.toList_append, List.append_assoc]
      show segments (base.toList ++ '/' :: s.toList) = _
      rw [segments_slash, h.segments_eq]
    have hne : segments base.toList ≠ [[]] := fun heq =>
      hempty (String.toList_inj.1 (segments_eq_singleton_nil heq))
    rw [if_neg (not_or.2 ⟨hempty, hslash⟩), parts, parts, hjoined]
    rw [List.filterMap_append, hlast, frontOf_concat_of_ne hne (segments_ne_nil _),
      List.append_assoc]

theorem ne_of_length_lt {t : String} (h : t.length < 5) : s ++ ".json" ≠ t := by
  rintro rfl
  rw [String.length_append] at h
  exact absurd h (Nat.not_lt.2 (Nat.le_add_left _ _))

/-- The file of a secret with a name has a name. -/
theorem file (h : IsName s) : IsName (s ++ ".json") where
  nonempty := ne_of_length_lt (by decide)
  ne_here := ne_of_length_lt (by decide)
  ne_above := ne_of_length_lt (by decide)
  slash := by simpa using h.slash
  backslash := by simpa using h.backslash

end IsName

theorem isComponent_iff (s : String) : isComponent s = true ↔ IsName s := by
  constructor
  · intro h
    simp only [isComponent, Bool.and_eq_true, decide_eq_true_eq, List.all_eq_true] at h
    obtain ⟨⟨⟨hempty, hhere⟩, habove⟩, hchars⟩ := h
    exact ⟨hempty, hhere, habove, fun hc => (hchars _ hc).1 rfl, fun hc => (hchars _ hc).2 rfl⟩
  · intro h
    simp only [isComponent, Bool.and_eq_true, decide_eq_true_eq, List.all_eq_true]
    exact ⟨⟨⟨h.nonempty, h.ne_here⟩, h.ne_above⟩, fun c hc =>
      ⟨fun heq => h.slash (heq ▸ hc), fun heq => h.backslash (heq ▸ hc)⟩⟩

instance (s : String) : Decidable (IsName s) :=
  decidable_of_iff _ (isComponent_iff s)

/-! ## The place of a secret -/

section Place

variable {r : Reference}

theorem checkComponent_of_isName {s : String} (h : IsName s) (what : String) :
    checkComponent what s = .ok () :=
  if_pos ((isComponent_iff s).2 h)

theorem checkComponent_of_not_isName {s : String} (h : ¬ IsName s) (what : String) :
    checkComponent what s =
      .error (.invalidParameters ("invalid " ++ what ++ ": " ++ Text.quoted s)) :=
  if_neg (mt (isComponent_iff s).1 h)

theorem place_of_names (hspace : IsName r.space) (hname : IsName r.name) :
    r.place = .ok [r.space, r.name ++ ".json"] := by
  rw [Reference.place, checkComponent_of_isName hspace, checkComponent_of_isName hname]
  rfl

theorem place_of_space (hspace : ¬ IsName r.space) : r.place =
    .error (.invalidParameters ("invalid secret namespace: " ++ Text.quoted r.space)) := by
  rw [Reference.place, checkComponent_of_not_isName hspace]
  rfl

theorem place_of_name (hspace : IsName r.space) (hname : ¬ IsName r.name) : r.place =
    .error (.invalidParameters ("invalid secret name: " ++ Text.quoted r.name)) := by
  rw [Reference.place, checkComponent_of_isName hspace, checkComponent_of_not_isName hname]
  rfl

/-- A path is given to two names and to nothing else. -/
theorem names_of_pathText {root text : String} (h : r.pathText root = .ok text) :
    IsName r.space ∧ IsName r.name := by
  rw [Reference.pathText] at h
  by_cases hspace : IsName r.space
  · by_cases hname : IsName r.name
    · exact ⟨hspace, hname⟩
    · rw [place_of_name hspace hname] at h
      cases h
  · rw [place_of_space hspace] at h
    cases h

end Place

/-! ## What is looked at -/

section Looks

variable {m : Type → Type} [Monad m]

/-- Going down looks at nothing but the entries on the way. By induction on the way. -/
theorem descendIn_congr {look look' : Path → m (Option Entry)} {above below : Path}
    (h : ∀ p, p ≠ [] → p <+: below → look (above ++ p) = look' (above ++ p)) :
    descendIn look above below = descendIn look' above below := by
  induction below generalizing above with
  | nil => rfl
  | cons c below ih =>
    have hhere : look (above ++ [c]) = look' (above ++ [c]) :=
      h [c] (List.cons_ne_nil _ _) ⟨below, rfl⟩
    have hbelow : descendIn look (above ++ [c]) below = descendIn look' (above ++ [c]) below := by
      refine ih fun p _ hp => ?_
      rw [List.append_assoc]
      exact h ([c] ++ p) (List.cons_ne_nil _ _) ((List.prefix_append_right_inj [c]).2 hp)
    rw [descendIn, descendIn, hhere, hbelow]

end Looks

/-! ## Secrets in their files -/

/-- A reference is turned away with an error: there is no path, and the secret fails in every file
tree, without a look at it. -/
structure TurnedAway (r : Reference) (e : DriverError) : Prop where
  /-- There is no path. -/
  path : ∀ root, r.pathText root = .error e
  /-- The secret fails, whatever the files are. -/
  secret : ∀ tree root, fileStore tree root r = .error e
  /-- Nothing is looked at. -/
  looks : ∀ {m : Type → Type} [Monad m] (look : Path → m (Option Entry)) (root : Path),
    secretIn look root r = pure (.error e)

/-- A secret stays in its file, which lies two levels below the root. -/
structure Confined (r : Reference) : Prop where
  /-- The file has a name as well. -/
  file : IsName (r.name ++ ".json")
  /-- The path has the parts of the root and two names behind them. -/
  path : ∀ root, ∃ text, r.pathText root = .ok text ∧
    parts text = parts root ++ [.named r.space, .named (r.name ++ ".json")]
  /-- So has the path in a file tree. -/
  place : ∀ root : Path, r.path root = .ok (root ++ [r.space, r.name ++ ".json"])
  /-- The secret depends on the two entries on the way. -/
  secret : ∀ (tree tree' : FileTree) (root : Path),
    tree (root ++ [r.space]) = tree' (root ++ [r.space]) →
    tree (root ++ [r.space, r.name ++ ".json"]) = tree' (root ++ [r.space, r.name ++ ".json"]) →
    fileStore tree root r = fileStore tree' root r
  /-- Nothing but these two is looked at. -/
  looks : ∀ {m : Type → Type} [Monad m] (look look' : Path → m (Option Entry)) (root : Path),
    look (root ++ [r.space]) = look' (root ++ [r.space]) →
    look (root ++ [r.space, r.name ++ ".json"]) = look' (root ++ [r.space, r.name ++ ".json"]) →
    secretIn look root r = secretIn look' root r

theorem turnedAway_of_place {r : Reference} {e : DriverError} (h : r.place = .error e) :
    TurnedAway r e := by
  have hlooks {m : Type → Type} [Monad m] (look : Path → m (Option Entry)) (root : Path) :
      secretIn look root r = pure (.error e) := by
    unfold secretIn
    rw [h]
  refine ⟨fun root => ?_, fun tree root => ?_, hlooks⟩
  · rw [Reference.pathText, h]
    rfl
  -- A file tree is looked at without effects.
  · exact hlooks (m := Id) (fun path => pure (tree path)) root

theorem pathText_eq {r : Reference} (hspace : IsName r.space) (hname : IsName r.name)
    (root : String) : ∃ text, r.pathText root = .ok text ∧
      parts text = parts root ++ [.named r.space, .named (r.name ++ ".json")] := by
  refine ⟨joinText (joinText root r.space) (r.name ++ ".json"), ?_, ?_⟩
  · rw [Reference.pathText, place_of_names hspace hname]
    rfl
  · rw [hname.file.parts_joinText, hspace.parts_joinText, List.append_assoc]
    rfl

theorem confined {r : Reference} (hspace : IsName r.space) (hname : IsName r.name) :
    Confined r := by
  have hlooks {m : Type → Type} [Monad m] (look look' : Path → m (Option Entry)) (root : Path)
      (h₁ : look (root ++ [r.space]) = look' (root ++ [r.space]))
      (h₂ : look (root ++ [r.space, r.name ++ ".json"]) =
        look' (root ++ [r.space, r.name ++ ".json"])) :
      secretIn look root r = secretIn look' root r := by
    unfold secretIn readIn
    rw [place_of_names hspace hname]
    have hway : ∀ p, p ≠ [] → p <+: [r.space, r.name ++ ".json"] →
        look (root ++ p) = look' (root ++ p) := by
      intro p hp hprefix
      obtain rfl | ⟨below, rfl, hbelow⟩ := List.prefix_cons_iff.1 hprefix
      · exact absurd rfl hp
      obtain rfl | ⟨last, rfl, hlast⟩ := List.prefix_cons_iff.1 hbelow
      · exact h₁
      · rw [List.prefix_nil.1 hlast]
        exact h₂
    dsimp only
    rw [descendIn_congr hway]
  refine ⟨hname.file, pathText_eq hspace hname, fun root => ?_, fun tree tree' root h₁ h₂ => ?_,
    hlooks⟩
  · rw [Reference.path, place_of_names hspace hname]
    rfl
  · exact hlooks (m := Id) (fun path => pure (tree path)) (fun path => pure (tree' path)) root h₁ h₂

/-- Two secrets have different paths. -/
theorem eq_of_pathText {r r' : Reference} {root text : String}
    (h : r.pathText root = .ok text) (h' : r'.pathText root = .ok text) : r' = r := by
  have hparts : ∀ {q : Reference}, q.pathText root = .ok text →
      parts text = parts root ++ [.named q.space, .named (q.name ++ ".json")] := by
    intro q hq
    obtain ⟨hspace, hname⟩ := names_of_pathText hq
    obtain ⟨text', htext', heq⟩ := pathText_eq hspace hname root
    rw [hq] at htext'
    rw [Except.ok.inj htext', heq]
  have heq := List.append_cancel_left ((hparts h').symm.trans (hparts h))
  simp only [List.cons.injEq, Part.named.injEq, String.append_left_inj, and_true] at heq
  obtain ⟨hspace, hname⟩ := heq
  cases r
  cases r'
  simp_all

/-- Secret references cannot leave their file. There is a path exactly for two names; otherwise the
reference is turned away, for the namespace first, and nothing is looked at. With two names the
secret is confined to its file, and no other reference has its path. -/
theorem secret_confined (r : Reference) :
    (∀ root, (∃ text, r.pathText root = .ok text) ↔ IsName r.space ∧ IsName r.name) ∧
    (¬ IsName r.space → TurnedAway r
      (.invalidParameters ("invalid secret namespace: " ++ Text.quoted r.space))) ∧
    (IsName r.space → ¬ IsName r.name → TurnedAway r
      (.invalidParameters ("invalid secret name: " ++ Text.quoted r.name))) ∧
    (IsName r.space → IsName r.name → Confined r) ∧
    ∀ root text r', r.pathText root = .ok text → r'.pathText root = .ok text → r' = r := by
  refine ⟨fun root => ⟨fun ⟨_, htext⟩ => names_of_pathText htext, fun ⟨hspace, hname⟩ => ?_⟩,
    fun hspace => ?_, fun hspace hname => ?_, confined, fun _ _ _ => eq_of_pathText⟩
  · obtain ⟨text, htext, -⟩ := pathText_eq hspace hname root
    exact ⟨text, htext⟩
  · exact turnedAway_of_place (place_of_space hspace)
  · exact turnedAway_of_place (place_of_name hspace hname)

/-- Of two bad names the namespace is reported. Names that only look like a way up, or like a file
already, are names, and lie below a root whose text ends with a dot. -/
theorem secret_confined_dotted :
    TurnedAway ⟨"../etc", ".."⟩ (.invalidParameters "invalid secret namespace: \"..\"") ∧
    TurnedAway ⟨"a\\b", "..."⟩ (.invalidParameters "invalid secret name: \"a\\\\b\"") ∧
    Confined ⟨".json", "..."⟩ ∧
    ∃ text, Reference.pathText "/secrets//." ⟨".json", "..."⟩ = .ok text ∧
      parts text = [.top, .named "secrets", .named "...", .named ".json.json"] := by
  have hspace : IsName "..." := by decide
  have hname : IsName ".json" := by decide
  have hconfined := (secret_confined ⟨".json", "..."⟩).2.2.2.1 hspace hname
  exact ⟨(secret_confined ⟨"../etc", ".."⟩).2.1 (by decide),
    (secret_confined ⟨"a\\b", "..."⟩).2.2.1 hspace (by decide), hconfined,
    hconfined.path "/secrets//."⟩

end BucketDriver.Secret
