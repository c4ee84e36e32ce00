import BucketDriver.Proofs.Http.Path

/-!
# The paths of the routes

Each route serves paths of a fixed shape (`Route.Serves`), and a path is matched to the route that
serves it (`Route.ofPath?_eq_some_iff`). So no path is served by two routes.
-/

namespace BucketDriver.Http

/-! ## Segments -/

/-- The text has no slash. -/
def NoSlash (s : List Char) : Prop :=
  '/' ∉ s

instance : DecidablePred NoSlash := fun s => inferInstanceAs (Decidable ('/' ∉ s))

/-- None of its characters is one. -/
theorem NoSlash.ne {s : List Char} (h : NoSlash s) : ∀ c ∈ s, c ≠ '/' :=
  fun _ hc heq => h (heq ▸ hc)

/-- A path is put together from its segments again. -/
theorem exists_segments (path : List Char) :
    ∃ s segs, segments path = s :: segs ∧ path = s ++ joined segs ∧ ∀ t ∈ s :: segs, NoSlash t := by
  induction path with
  | nil => exact ⟨[], [], rfl, rfl, by simp [NoSlash]⟩
  | cons c cs ih =>
    obtain ⟨s, segs, hsegs, hpath, hno⟩ := ih
    by_cases hc : c = '/'
    · subst hc
      refine ⟨[], s :: segs, ?_, ?_, ?_⟩
      · rw [segments, if_pos rfl, hsegs]
      · rw [hpath]
        rfl
      · exact List.forall_mem_cons.2 ⟨by simp [NoSlash], hno⟩
    · refine ⟨c :: s, segs, ?_, ?_, ?_⟩
      · rw [segments, if_neg hc, hsegs]
      · rw [hpath, List.cons_append]
      · obtain ⟨hs, hrest⟩ := List.forall_mem_cons.1 hno
        have hslash : NoSlash (c :: s) := List.not_mem_cons_of_ne_of_not_mem (Ne.symm hc) hs
        exact List.forall_mem_cons.2 ⟨hslash, hrest⟩

/-! ## Routes -/

/-- The paths of a route: what stands for a bucket or an account is one segment, and the last
segment is not empty. -/
inductive Route.Serves : Route → List Char → Prop where
  | health : Serves .health (joined ["health".toList])
  | info : Serves .info (joined ["v1".toList, "info".toList])
  | buckets : Serves .buckets (joined ["v1".toList, "buckets".toList])
  | bucket {b : List Char} (hb : NoSlash b) (hne : b ≠ []) :
    Serves (.bucket b) (joined ["v1".toList, "buckets".toList, b])
  | access {b : List Char} (hb : NoSlash b) :
    Serves (.access b) (joined ["v1".toList, "buckets".toList, b, "access".toList])
  | account {b a : List Char} (hb : NoSlash b) (ha : NoSlash a) (hne : a ≠ []) :
    Serves (.account b a) (joined ["v1".toList, "buckets".toList, b, "access".toList, a])

/-- A path behind the version is matched by its other segments. -/
theorem ofPath?_versioned {segs : List (List Char)} (hno : ∀ s ∈ segs, NoSlash s) (hne : segs ≠ []) :
    Route.ofPath? (joined ("v1".toList :: segs)) = Route.ofVersioned? segs := by
  obtain ⟨s, segs, rfl⟩ := List.exists_cons_of_ne_nil hne
  have hversion : NoSlash "v1".toList := by decide
  have hall := List.forall_mem_cons.2 ⟨hversion, hno⟩
  rw [Route.ofPath?, segments_joined fun t ht => (hall t ht).ne]
  rfl

/-- The route of some segments behind the version serves the path of them. -/
theorem serves_of_versioned {segs : List (List Char)} {route : Route}
    (h : Route.ofVersioned? segs = some route) (hno : ∀ s ∈ segs, NoSlash s) :
    route.Serves (joined ("v1".toList :: segs)) := by
  unfold Route.ofVersioned? at h
  split at h
  case h_1 what =>
    split at h
    case isTrue hinfo =>
      cases h
      subst hinfo
      exact .info
    case isFalse =>
      split at h
      case isTrue hbuckets =>
        cases h
        subst hbuckets
        exact .buckets
      case isFalse => cases h
  case h_2 what b =>
    split at h
    case isTrue hwords =>
      cases h
      obtain ⟨rfl, hne⟩ := hwords
      exact .bucket (hno b (by simp)) hne
    case isFalse => cases h
  case h_3 what b rest =>
    split at h
    case isTrue hwords =>
      cases h
      obtain ⟨rfl, rfl⟩ := hwords
      exact .access (hno b (by simp))
    case isFalse => cases h
  case h_4 what b rest a =>
    split at h
    case isTrue hwords =>
      cases h
      obtain ⟨rfl, rfl, hne⟩ := hwords
      exact .account (hno b (by simp)) (hno a (by simp)) hne
    case isFalse => cases h
  case h_5 => cases h

/-- A path is matched to the route that serves it. -/
theorem Route.ofPath?_eq_some_iff {path : List Char} {route : Route} :
    Route.ofPath? path = some route ↔ route.Serves path := by
  constructor
  · intro h
    obtain ⟨s, segs, hsegs, rfl, hno⟩ := exists_segments path
    rw [ofPath?, hsegs] at h
    match s, segs, h, hno with
    | [], [], h, _ => cases h
    | [], [what], h, _ =>
      dsimp only at h
      split at h
      case isTrue hwhat =>
        cases h
        subst hwhat
        exact .health
      case isFalse => cases h
    | [], version :: what :: segs, h, hno =>
      dsimp only at h
      split at h
      case isTrue hversion =>
        subst hversion
        exact serves_of_versioned h fun t ht => hno t (.tail _ (.tail _ ht))
      case isFalse => cases h
    | c :: s, segs, h, _ => cases h
  · intro h
    have hbuckets : NoSlash "buckets".toList := by decide
    have haccess : NoSlash "access".toList := by decide
    cases h with
    | health => rfl
    | info => rfl
    | buckets => rfl
    | @bucket b hb hne =>
      have hno : ∀ s ∈ ["buckets".toList, b], NoSlash s :=
        List.forall_mem_cons.2 ⟨hbuckets, List.forall_mem_singleton.2 hb⟩
      exact (ofPath?_versioned hno (by simp)).trans (if_pos ⟨rfl, hne⟩)
    | @access b hb =>
      have hno : ∀ s ∈ ["buckets".toList, b, "access".toList], NoSlash s := List.forall_mem_cons.2
        ⟨hbuckets, List.forall_mem_cons.2 ⟨hb, List.forall_mem_singleton.2 haccess⟩⟩
      exact (ofPath?_versioned hno (by simp)).trans rfl
    | @account b a hb ha hne =>
      have hno : ∀ s ∈ ["buckets".toList, b, "access".toList, a], NoSlash s :=
        List.forall_mem_cons.2 ⟨hbuckets, List.forall_mem_cons.2
          ⟨hb, List.forall_mem_cons.2 ⟨haccess, List.forall_mem_singleton.2 ha⟩⟩⟩
      exact (ofPath?_versioned hno (by simp)).trans (if_pos ⟨rfl, rfl, hne⟩)

/-- No path is served by two routes. -/
theorem Route.Serves.unique {path : List Char} {route route' : Route} (h : route.Serves path)
    (h' : route'.Serves path) : route = route' :=
  Option.some.inj ((ofPath?_eq_some_iff.2 h).symm.trans (ofPath?_eq_some_iff.2 h'))

end BucketDriver.Http
