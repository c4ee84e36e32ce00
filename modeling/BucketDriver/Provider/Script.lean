import BucketDriver.Provider.Program

/-!
# Scripted providers

A provider that plays back a list of replies, whatever it is called for. When the script is used up,
every further call fails without a code.
-/

namespace BucketDriver.Script

/-- One reply of a script. -/
inductive Reply where
  /-- Success, with the names of a listing or the two parts of a key. -/
  | success (texts : List String)
  /-- A provider error. -/
  | failure (error : ProviderError)
  deriving DecidableEq, Repr

/-- A reply as the result of a call: only listings and keys look at its texts. -/
def Reply.toResult (r : Reply) (c : Call) : c.Result :=
  match r with
  | .failure e => .error e
  | .success texts =>
    match c with
    | .listUserPolicies _ | .listAccessKeys _ => .ok texts
    | .createAccessKey _ => .ok ⟨texts[0]?.getD "", texts[1]?.getD ""⟩
    | .createBucket .. | .deleteBucket _ | .createUser _ | .getUser _ | .deleteUser _
    | .putUserPolicy .. | .deleteUserPolicy .. | .deleteAccessKey .. => .ok ()

/-- The error of a call for which no reply is left. -/
def exhausted : ProviderError :=
  .withoutCode "no reply is left"

/-- Answers a call with the next reply. -/
def answer : Handler (List Reply)
  | _, [] => (.error exhausted, [])
  | c, r :: rest => (r.toResult c, rest)

/-- What a program made of a script. -/
structure Playback (α : Type) where
  /-- The result of the program. -/
  result : α
  /-- The calls it made, in order. -/
  calls : List Call
  /-- The replies that were left. -/
  unused : List Reply

/-- Runs a program against a script. -/
def play {α : Type} (p : Program α) (script : List Reply) : Playback α :=
  let (result, calls, unused) := p.run (Handler.traced answer) ([], script)
  ⟨result, calls.reverse, unused⟩

end BucketDriver.Script
