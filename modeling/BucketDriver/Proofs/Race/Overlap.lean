import BucketDriver.Proofs.Race.Policies
import Mathlib.Data.List.Infix

/-!
# Grants of one account to several buckets at the same time

A grant checks that the account is free for its bucket, and attaches its policy some calls later.
Two grants for different buckets that stand between the two at the same time (`Overlap`) have both
found the account free, and both attach their policies (`Contest.holds_of_attaching`). In a race
without such an overlap a grant finds the account as free when it attaches its policy as when it has
checked it, so the account belongs to one bucket at all times (`Exclusive`).

The main result, `one_bucket_of_no_overlap`, says both. Nothing keeps grants from overlapping, as
`not_forall_one_bucket` shows.
-/

namespace BucketDriver

/-- Whether the next call is one that a grant makes after its check of the account and until its
policy is attached. -/
def Program.attaching {α : Type} (x : Program α) : Bool :=
  x.next?.any fun c => [CallKind.listAccessKeys, .deleteAccessKey, .putUserPolicy].contains c.kind

namespace Provision

open Memory (State KeySource answer)

variable {ι : Type}

/-- Grants of one account to buckets, from the store without contents on. -/
structure Contest (ι : Type) where
  /-- Who each grant calls the provider as. -/
  callers : ι → String
  /-- The bucket of each grant. -/
  buckets : ι → String
  /-- The account. -/
  account : String
  /-- The parameters of each grant. -/
  params : ι → Parameters
  /-- The keys to come. -/
  source : KeySource

/-- The race after the grants have taken turns. -/
def Contest.after [DecidableEq ι] (C : Contest ι) (turns : List ι) :
    Race (fun _ : ι => Except Failure Credentials) State :=
  (grants C.buckets C.account C.params ⟨.empty, C.source⟩).run (fun i => answer (C.callers i)) turns

/-- Two grants for different buckets stand between check and policy at the same time. -/
def Overlap (buckets : ι → String) (r : Race (fun _ : ι => Except Failure Credentials) State) : Prop :=
  ∃ i j, buckets i ≠ buckets j ∧ (r.programs i).attaching = true ∧ (r.programs j).attaching = true

instance {k : ℕ} (buckets : Fin k → String)
    (r : Race (fun _ : Fin k => Except Failure Credentials) State) :
    Decidable (Overlap buckets r) :=
  inferInstanceAs (Decidable (∃ i j, buckets i ≠ buckets j ∧
    (r.programs i).attaching = true ∧ (r.programs j).attaching = true))

/-- The account has no policies of two different buckets. -/
def OneBucket (account : String) (s : State) : Prop :=
  ∀ u, s.store.users.get? account = some u → ∀ b b', Policy.name b ∈ u.policies.keys →
    Policy.name b' ∈ u.policies.keys → b = b'

/-- A grant stands between check and policy when its next call says so. -/
theorem GrantPhase.attaching_program {bucket account : String} {p : Parameters} (φ : GrantPhase) :
    (φ.program bucket account p).attaching = φ.attaching := by
  unfold Program.attaching
  rw [next?_program]
  cases φ with
  | clearing keys => cases keys <;> rfl
  | _ => rfl

variable {buckets : ι → String} {account : String} {params : ι → Parameters} {φ : ι → GrantPhase}
  {s s' : State} {i j : ι} {next : GrantPhase}

/-! ## Without an overlap -/

/-- What holds throughout a race without an overlap. -/
structure Exclusive (buckets : ι → String) (account : String) (φ : ι → GrantPhase) (s : State) :
    Prop where
  /-- The account is free for the bucket of every grant that is attaching its policy. -/
  free : ∀ i, (φ i).attaching = true → FreeFor (buckets i) (s.store.users.get? account)
  /-- The grants that have attached their policies find them attached. -/
  holds : ∀ i, (φ i).hasAttached = true → Holds (buckets i) (s.store.users.get? account)
  /-- The account is free for some bucket. -/
  one : ∃ b, FreeFor b (s.store.users.get? account)

/-- An account that is free for some bucket has no policies of two. -/
theorem Exclusive.oneBucket (h : Exclusive buckets account φ s) : OneBucket account s := by
  obtain ⟨b, hb⟩ := h.one
  intro u hu b₁ b₂ h₁ h₂
  have hb₁ := Policy.name_inj.1 (hb u hu _ h₁)
  have hb₂ := Policy.name_inj.1 (hb u hu _ h₂)
  rw [hb₁, hb₂]

/-- Grants that have succeeded are for one bucket. -/
theorem Exclusive.buckets_eq (h : Exclusive buckets account φ s) {c c' : Credentials}
    (hi : φ i = .ended (.ok c)) (hj : φ j = .ended (.ok c')) : buckets i = buckets j := by
  obtain ⟨b, hb⟩ := h.one
  have hbi := (h.holds i (by rw [hi]; rfl)).eq_of_freeFor hb
  have hbj := (h.holds j (by rw [hj]; rfl)).eq_of_freeFor hb
  rw [hbi, hbj]

variable [DecidableEq ι]

/-- Every turn that begins without an overlap preserves the invariant. -/
theorem Exclusive.step (h : Exclusive buckets account φ s)
    (hoverlap : ¬ Overlap buckets (grantsAt buckets account params φ s))
    (hturn : GrantTurn (buckets i) account (params i) s (φ i) next s') :
    Exclusive buckets account (Function.update φ i next) s' where
  free j hj := by
    by_cases hji : j = i
    · rw [hji] at hj ⊢
      rw [Function.update_self] at hj
      exact hturn.freeFor_of_attaching (h.free i) hj
    · rw [Function.update_of_ne hji] at hj
      refine hturn.freeFor (fun hi => ?_) (h.free j hj)
      -- The turn attaches a policy while another grant is about to, so it is for the same bucket.
      refine Decidable.byContradiction fun hne => hoverlap ⟨j, i, hne, ?_, ?_⟩
      · exact (GrantPhase.attaching_program (φ j)).trans hj
      · refine (GrantPhase.attaching_program (φ i)).trans ?_
        rw [hi]
        rfl
  holds := holds_step h.holds hturn
  one := by
    by_cases hi : φ i = .clearing []
    · have hfree := h.free i (by rw [hi]; rfl)
      exact ⟨buckets i, hturn.freeFor (fun _ => rfl) hfree⟩
    · obtain ⟨b, hb⟩ := h.one
      exact ⟨b, hturn.freeFor (fun hclearing => absurd hclearing hi) hb⟩

/-- The invariant holds throughout a race without an overlap. -/
theorem Contest.exclusive (C : Contest ι) {turns : List ι}
    (hoverlap : ∀ before, before <+: turns → ¬ Overlap C.buckets (C.after before)) :
    ∃ φ s, C.after turns = grantsAt C.buckets C.account C.params φ s ∧
      Exclusive C.buckets C.account φ s := by
  have hstart : Exclusive C.buckets C.account (fun _ => .creating) ⟨.empty, C.source⟩ := by
    refine ⟨?_, ?_, "", ?_⟩
    · exact fun i hi => by cases hi
    · exact fun i hi => by cases hi
    · exact fun r hr => by cases hr
  obtain ⟨φ, s, hrun, -, hinv⟩ := grants_invariant (P := fun r => ¬ Overlap C.buckets r)
    (fun φ s i next s' hP h hturn => h.step hP hturn) (fun _ => rfl) hstart hoverlap
  exact ⟨φ, s, hrun, hinv⟩

/-! ## With an overlap -/

/-- A user is there for every grant that has begun. -/
def Present (account : String) (φ : ι → GrantPhase) (s : State) : Prop :=
  ∀ i, φ i ≠ .creating → ∃ r, s.store.users.get? account = some r

/-- Every turn preserves that. -/
theorem Present.step (h : Present account φ s)
    (hturn : GrantTurn (buckets i) account (params i) s (φ i) next s') :
    Present account (Function.update φ i next) s' :=
  fun _ _ => hturn.present (h i)

/-- A user is there, and a grant is attaching its policy or finds it attached. -/
structure Committed (buckets : ι → String) (account : String) (i : ι) (φ : ι → GrantPhase)
    (s : State) : Prop where
  /-- A user is there. -/
  there : ∃ r, s.store.users.get? account = some r
  /-- The grant stands between check and policy, or after it. -/
  holds : (φ i).attaching = true ∨ Holds (buckets i) (s.store.users.get? account)

/-- Every turn preserves that, whoever takes it. -/
theorem Committed.step (h : Committed buckets account i φ s)
    (hturn : GrantTurn (buckets j) account (params j) s (φ j) next s') :
    Committed buckets account i (Function.update φ j next) s' := by
  refine ⟨hturn.present fun _ => h.there, ?_⟩
  rcases h.holds with hi | hholds
  · by_cases hij : i = j
    · rw [hij] at hi ⊢
      rw [Function.update_self]
      exact hturn.attaching_or_holds h.there hi
    · rw [Function.update_of_ne hij]
      exact .inl hi
  · exact .inr (hturn.holds hholds)

namespace Contest

variable (C : Contest ι) {before turns : List ι}

/-- A grant that stands between check and policy is committed. -/
theorem committed (hattaching : ((C.after before).programs i).attaching = true) :
    ∃ φ s, C.after before = grantsAt C.buckets C.account C.params φ s ∧ s.store.FaultFree ∧
      Committed C.buckets C.account i φ s := by
  obtain ⟨φ, s, hφ, hs, hpresent⟩ : ∃ φ s, C.after before =
      grantsAt C.buckets C.account C.params φ s ∧ s.store.FaultFree ∧ Present C.account φ s :=
    grants_invariant (P := fun _ => True) (fun φ s i next s' _ h hturn => Present.step h hturn)
      (fun _ => rfl) (fun i hi => absurd rfl hi) fun _ _ => trivial
  rw [hφ] at hattaching
  have hi : (φ i).attaching = true := (GrantPhase.attaching_program (φ i)).symm.trans hattaching
  refine ⟨φ, s, hφ, hs, hpresent i fun hcreating => ?_, .inl hi⟩
  rw [hcreating] at hi
  cases hi

/-- A grant that stands between check and policy has attached its policy when it has ended, whatever
turns are taken in between. -/
theorem holds_of_attaching (hbefore : before <+: turns)
    (hattaching : ((C.after before).programs i).attaching = true)
    {result : Except Failure Credentials} (hdone : (C.after turns).programs i = .done result) :
    Holds (C.buckets i) ((C.after turns).state.store.users.get? C.account) := by
  obtain ⟨φ, s, hφ, hs, hstart⟩ := C.committed hattaching
  obtain ⟨rest, rfl⟩ := hbefore
  obtain ⟨φ', s', hφ', -, hcommitted⟩ : ∃ φ' s',
      (grantsAt C.buckets C.account C.params φ s).run (fun i => answer (C.callers i)) rest =
        grantsAt C.buckets C.account C.params φ' s' ∧
      s'.store.FaultFree ∧ Committed C.buckets C.account i φ' s' :=
    grants_invariant (P := fun _ => True) (fun φ s i next s' _ h hturn => Committed.step h hturn)
      hs hstart fun _ _ => trivial
  have hrun : C.after (before ++ rest) = grantsAt C.buckets C.account C.params φ' s' := by
    rw [← hφ', ← hφ]
    exact Race.run_append _ _ _
  rw [hrun] at hdone ⊢
  have hended : φ' i = .ended result := GrantPhase.program_eq_done_iff.1 hdone
  refine hcommitted.holds.resolve_left fun hstill => ?_
  rw [hended] at hstill
  cases hstill

end Contest

/-! ## The result -/

/-- Any number of grants of one account race, for any buckets, from the store without contents on.
When at no time two of them for different buckets stand between check and policy, the account never
has policies of two different buckets, and no two grants for different buckets succeed. When two do
so at any time, the account has the policies of both once they have ended. -/
theorem one_bucket_of_no_overlap (C : Contest ι) (turns : List ι) :
    ((∀ before, before <+: turns → ¬ Overlap C.buckets (C.after before)) →
      (∀ before, before <+: turns → OneBucket C.account (C.after before).state) ∧
      ∀ i j c c', (C.after turns).programs i = .done (.ok c) →
        (C.after turns).programs j = .done (.ok c') → C.buckets i = C.buckets j) ∧
    ∀ before i j, before <+: turns → ((C.after before).programs i).attaching = true →
      ((C.after before).programs j).attaching = true →
      ∀ result result', (C.after turns).programs i = .done result →
        (C.after turns).programs j = .done result' →
        Holds (C.buckets i) ((C.after turns).state.store.users.get? C.account) ∧
          Holds (C.buckets j) ((C.after turns).state.store.users.get? C.account) := by
  constructor
  · intro hoverlap
    constructor
    · intro before hbefore
      obtain ⟨φ, s, hrun, hinv⟩ := C.exclusive fun first hfirst =>
        hoverlap first (hfirst.trans hbefore)
      rw [hrun]
      exact hinv.oneBucket
    · intro i j c c' hi hj
      obtain ⟨φ, s, hrun, hinv⟩ := C.exclusive hoverlap
      rw [hrun] at hi hj
      exact hinv.buckets_eq (GrantPhase.program_eq_done_iff.1 hi)
        (GrantPhase.program_eq_done_iff.1 hj)
  · intro before i j hbefore hi hj result result' hdone hdone'
    exact ⟨C.holds_of_attaching hbefore hi hdone, C.holds_of_attaching hbefore hj hdone'⟩

/-- Three grants of the account `u`, two for the bucket `b1` and one for the bucket `b2`. -/
def rivals : Contest (Fin 3) where
  callers _ := "AK"
  buckets i := if i = 2 then "b2" else "b1"
  account := "u"
  params _ := sample
  source n := ⟨"new" ++ n.repr, "secret"⟩

/-- The two grants for the one bucket overlap, and the third one looks at the policies after the
first one has attached its own. -/
def orderly : List (Fin 3) :=
  [0, 1, 2, 1, 0, 2, 1, 0, 1, 1]

/-- The first grant creates the user, the third one adopts it and ends, and then the first one
attaches its policy and draws its key. -/
def overlapping : List (Fin 3) :=
  [0, 2, 2, 2, 2, 2, 0, 0]

/-- In the one order of turns the third grant is refused, and the account is one bucket's
throughout. In the other it has the policies of both. -/
theorem one_bucket_of_no_overlap_rivals :
    (∃ f, (rivals.after orderly).programs 2 = .done (.error f) ∧
      ∀ before, before <+: orderly → OneBucket "u" (rivals.after before).state) ∧
    Holds "b1" ((rivals.after overlapping).state.store.users.get? "u") ∧
      Holds "b2" ((rivals.after overlapping).state.store.users.get? "u") := by
  constructor
  · have hoverlap : ∀ before ∈ orderly.inits, ¬ Overlap rivals.buckets (rivals.after before) := by
      decide
    obtain ⟨hone, -⟩ := (one_bucket_of_no_overlap rivals orderly).1 fun before hbefore =>
      hoverlap before ((List.mem_inits _ _).2 hbefore)
    exact ⟨_, rfl, hone⟩
  · have hbefore : [0, 2, 2] <+: overlapping := ⟨[2, 2, 2, 0, 0], rfl⟩
    exact (one_bucket_of_no_overlap rivals overlapping).2 _ 0 2 hbefore rfl rfl _ _ rfl rfl

/-- Grants do overlap: an account can come to have the policies of two buckets, and grants for both
can succeed. -/
theorem not_forall_one_bucket :
    (¬ ∀ (k : ℕ) (C : Contest (Fin k)) (turns : List (Fin k)),
      OneBucket C.account (C.after turns).state) ∧
    ¬ ∀ (k : ℕ) (C : Contest (Fin k)) (turns : List (Fin k)) (i j : Fin k) (c c' : Credentials),
      (C.after turns).programs i = .done (.ok c) → (C.after turns).programs j = .done (.ok c') →
        C.buckets i = C.buckets j := by
  constructor
  · intro h
    exact absurd (h 3 rivals overlapping _ rfl "b1" "b2" (by decide) (by decide)) (by decide)
  · intro h
    exact absurd (h 3 rivals overlapping 0 2 _ _ rfl rfl) (by decide)

end Provision

end BucketDriver
