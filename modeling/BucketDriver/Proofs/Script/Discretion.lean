import BucketDriver.Proofs.Blank
import BucketDriver.Proofs.Provision.Grant
import BucketDriver.Proofs.Script.Walk
import BucketDriver.Proofs.Service.Resource
import Mathlib.Data.List.Forall2

/-!
# What a provider says and nobody is told

Of a provider error an operation sees whether it has a code and what the table of its service makes
of that code. `ProviderError.Alike` relates errors that differ in nothing else: in the detail, in
blank characters around the code, in a blank code and none, or in which code it is that the table
does not have.

Main statement: `play_alike`. Against scripts that are alike reply by reply, every operation makes
the same calls and has the same result, its message included.
-/

namespace BucketDriver

/-- A code that a service knows nothing about. -/
structure ErrorTable.Unclassified (t : ErrorTable) (code : String) : Prop where
  /-- Something is left of it when it is trimmed. -/
  notBlank : Text.isBlank code = false
  /-- Then it does not say that something is absent. -/
  notAbsence : isAbsence (Text.trim code) = false
  /-- And it is not in the table. -/
  notListed : t.get? (Text.trim code) = none

/-- Errors with the same meaning for a service. -/
inductive ProviderError.Alike (t : ErrorTable) : ProviderError → ProviderError → Prop where
  /-- Each has a blank code or none. -/
  | codeless {e e' : ProviderError} (h : ∀ code ∈ e.rawCode, Text.isBlank code = true)
    (h' : ∀ code ∈ e'.rawCode, Text.isBlank code = true) : Alike t e e'
  /-- Both have the same code, up to the blank characters around it. -/
  | spaced {code code' detail detail' : String} (h : Text.trim code = Text.trim code') :
    Alike t (.withCode code detail) (.withCode code' detail')
  /-- Each has a code that the service knows nothing about. -/
  | unclassified {code code' detail detail' : String} (h : t.Unclassified code)
    (h' : t.Unclassified code') : Alike t (.withCode code detail) (.withCode code' detail')

/-- Codes that are the same up to the blank characters around them leave the same when trimmed. -/
theorem trimmed?_eq_of_trim_eq {code code' : String} (h : Text.trim code = Text.trim code') :
    Text.trimmed? code = Text.trimmed? code' := by
  have hblank : Text.isBlank code = Text.isBlank code' := by
    rw [Bool.eq_iff_iff, Text.isBlank_iff_trim_eq_empty, Text.isBlank_iff_trim_eq_empty, h]
  rw [Text.trimmed?, Text.trimmed?, hblank, h]

/-- A blank code counts as none. -/
theorem ProviderError.code?_eq_none {e : ProviderError}
    (h : ∀ code ∈ e.rawCode, Text.isBlank code = true) : e.code? = none := by
  obtain ⟨rawCode, detail⟩ := e
  cases rawCode with
  | none => rfl
  | some code =>
    have hblank : Text.isBlank code = true := h code rfl
    exact if_pos hblank

variable {α : Type} {t : ErrorTable} {e e' : ProviderError}

/-- A code that the service knows nothing about tells that the action failed and no more. -/
theorem ErrorTable.Unclassified.normalize_eq {code : String} (h : t.Unclassified code) (a : Action)
    (resource detail : String) :
    normalize a resource (.withCode code detail) t = .error a.failure := by
  have hcode : (ProviderError.withCode code detail).code? = some (Text.trim code) :=
    if_neg (by rw [h.notBlank]; exact Bool.false_ne_true)
  simp only [normalize, hcode, classify, h.notAbsence, h.notListed, Bool.false_eq_true, if_false]

/-- Errors with the same meaning have the same outcome. -/
theorem ProviderError.Alike.normalize_eq (h : e.Alike t e') (a : Action) (resource : String) :
    normalize a resource e t = normalize a resource e' t := by
  cases h with
  | codeless h h' => rw [normalize, normalize, code?_eq_none h, code?_eq_none h']
  | @spaced code code' detail detail' h =>
    have hcode : (withCode code detail).code? = (withCode code' detail').code? :=
      trimmed?_eq_of_trim_eq h
    rw [normalize, normalize, hcode]
  | unclassified h h' => rw [h.normalize_eq, h'.normalize_eq]

namespace Script

/-- Replies with the same meaning for a service. -/
inductive Reply.Alike (t : ErrorTable) : Reply → Reply → Prop where
  /-- Both are the same success. -/
  | success (texts : List String) : Alike t (.success texts) (.success texts)
  /-- Both are errors with the same meaning. -/
  | failure {e e' : ProviderError} (h : e.Alike t e') : Alike t (.failure e) (.failure e')

variable {r r' : Reply} {script script' : List Reply}

/-- Replies with the same meaning settle to the same, for every call. -/
theorem Reply.Alike.settle_eq (h : r.Alike t r') (c : Call) (a : Action) (resource : String) :
    settle (r.toResult c) a resource t = settle (r'.toResult c) a resource t := by
  cases h with
  | success texts => rfl
  | failure h => exact congrArg (Except.map fun _ => none) (h.normalize_eq a resource)

/-- The next replies of scripts that are alike are alike, also when none is left. -/
theorem next_alike (h : List.Forall₂ (Reply.Alike t) script script') :
    (next script).Alike t (next script') := by
  cases h with
  | nil =>
    have hcode : ∀ code ∈ exhausted.rawCode, Text.isBlank code = true := fun _ hcode => nomatch hcode
    exact .failure (.codeless hcode hcode)
  | cons hr _ => exact hr

/-- And so are the scripts after them. -/
theorem tail_alike (h : List.Forall₂ (Reply.Alike t) script script') :
    List.Forall₂ (Reply.Alike t) script.tail script'.tail := by
  cases h with
  | nil => exact .nil
  | cons _ hrest => exact hrest

/-- The calls made so far are the same, and what is left of the scripts is alike. -/
structure InStep (t : ErrorTable) (s s' : List Call × List Reply) : Prop where
  /-- The calls so far. -/
  calls : s.1 = s'.1
  /-- The replies to come. -/
  script : List.Forall₂ (Reply.Alike t) s.2 s'.2

/-- Runs that are in step settle their next call alike and stay in step. -/
theorem InStep.answer {s s' : List Call × List Reply} (h : InStep t s s') (c : Call) :
    (∀ a resource, settle (Handler.traced answer c s).1 a resource t =
        settle (Handler.traced answer c s').1 a resource t) ∧
      InStep t (Handler.traced answer c s).2 (Handler.traced answer c s').2 := by
  obtain ⟨before, script⟩ := s
  obtain ⟨before', script'⟩ := s'
  obtain ⟨hcalls, hscript⟩ := h
  rw [traced_answer_eq, traced_answer_eq]
  have hnext : (next script).Alike t (next script') := next_alike hscript
  exact ⟨fun a resource => hnext.settle_eq c a resource,
    congrArg (c :: ·) hcalls, tail_alike hscript⟩

/-- What a provider says beside its code, and what it says in a code that the service knows nothing
about, reaches nobody. Against two scripts of which each reply means the same as the other's, an
operation makes the same calls with the same arguments and has the same result: the same value, or a
failure with the same code and the same message. -/
theorem play_alike (q : Service.Request) (p : Parameters) {script script' : List Reply}
    (h : List.Forall₂ (Reply.Alike q.service.errors) script script') :
    (play (q.attempt p).run script).calls = (play (q.attempt p).run script').calls ∧
      (play (q.attempt p).run script).result = (play (q.attempt p).run script').result := by
  have hstart : InStep q.service.errors (([], script) : List Call × List Reply) ([], script') :=
    ⟨rfl, h⟩
  obtain ⟨hresult, hlast⟩ := (q.attempt_settling p).run_related (fun c _ _ _ h => h.answer c) hstart
  exact ⟨congrArg List.reverse hlast.calls, hresult⟩

/-- A provider that says at length that a user is there, and then fails in its own words. -/
def talkative : List Reply :=
  [.failure (.withCode " EntityAlreadyExists\t" "user u of tenant 7"), .success [],
    .success ["k1", "k2"], .failure (.withCode "SlowDown" "10.0.0.7 is busy"),
    .failure (.withCode " " "10.0.0.7 is gone")]

/-- A provider that says no more than it has to. -/
def terse : List Reply :=
  [.failure (.withCode "EntityAlreadyExists" ""), .success [],
    .success ["k1", "k2"], .failure (.withCode "Busy" ""), .failure (.withoutCode "")]

/-- A request for access of an account that both providers know. -/
def regrant : Service.Request :=
  .grant "b" "u" .empty

/-- The grant ends at the first key that it takes from the user, with the same calls to both
providers and the same message about them. -/
theorem play_alike_talkative :
    List.Forall₂ (Reply.Alike regrant.service.errors) talkative terse ∧
      (play (regrant.attempt Provision.sample).run talkative).calls =
        (play (regrant.attempt Provision.sample).run terse).calls ∧
      (play (regrant.attempt Provision.sample).run talkative).result =
        .error (Action.grant .deleteStaleAccessKey).failure := by
  have hslow : identityErrors.Unclassified "SlowDown" := ⟨by decide, by decide, by decide⟩
  have hbusy : identityErrors.Unclassified "Busy" := ⟨by decide, by decide, by decide⟩
  have hgone : ∀ code ∈ some " ", Text.isBlank code = true := by decide
  have halike : List.Forall₂ (Reply.Alike regrant.service.errors) talkative terse :=
    .cons (.failure (.spaced (by decide))) (.cons (.success []) (.cons (.success ["k1", "k2"])
      (.cons (.failure (.unclassified hslow hbusy))
        (.cons (.failure (.codeless hgone fun _ h => nomatch h)) .nil))))
  obtain ⟨hcalls, hresult⟩ := play_alike regrant Provision.sample halike
  exact ⟨halike, hcalls, hresult.trans rfl⟩

end Script

end BucketDriver
