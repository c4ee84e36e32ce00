import BucketDriver.Json.Reader

/-!
# Passing over JSON values

A value of no interest is passed over without being read: it may nest without limit, its numbers may
be out of range and its strings need not be texts. The open brackets are kept on a stack, so that
depth costs nothing.
-/

namespace BucketDriver.Json

/-- An open bracket. -/
inductive Bracket where
  | list
  | object
  deriving DecidableEq, Repr

/-- The byte that closes a bracket. -/
def Bracket.closing : Bracket → UInt8
  | list => Byte.closeBracket
  | object => Byte.closeBrace

/-- What is wrong when the text ends inside a bracket. -/
def Bracket.unclosed : Bracket → Cause
  | list => .endInList
  | object => .endInObject

/-- What is wrong when neither a comma nor the closing bracket follows a value. -/
def Bracket.unseparated : Bracket → Cause
  | list => .expectedCommaOrBracket
  | object => .expectedCommaOrBrace

/-- Passes over a key and its colon where the innermost bracket asks for one. -/
def skipKey (bracket : Bracket) (s : List UInt8) : Except Fault (List UInt8) :=
  match bracket with
  | .list => .ok s
  | .object =>
    match skipSpace s with
    | [] => .error ⟨.endInObject, []⟩
    | b :: r =>
      if b = Byte.quote then do
        let (_, r) ← skipString r
        colon r
      else .error ⟨.keyNotString, r⟩

/-- Passes over a scalar whose first byte is given, if it starts one. -/
def skipScalar? (b : UInt8) (r : List UInt8) : Option (Reading Unit) :=
  if b = 0x6E then some (literal nullTail r)
  else if b = 0x74 then some (literal trueTail r)
  else if b = 0x66 then some (literal falseTail r)
  else if b = Byte.minus then some (skipNumber r)
  else if (digit? b).isSome then some (skipNumber (b :: r))
  else if b = Byte.quote then some (skipString r)
  else none

/-- The bracket that a byte opens. -/
def opened? (b : UInt8) : Option Bracket :=
  if b = Byte.openBracket then some .list else if b = Byte.openBrace then some .object else none

/-- The two places between which passing over a value moves. -/
inductive Place where
  /-- Before a value. -/
  | before
  /-- Behind an opening bracket, the innermost one on the stack. -/
  | inside
  /-- Behind a value. -/
  | behind
  deriving DecidableEq, Repr

/-- Passes over what is left of a value with some brackets open. The first argument bounds the
number of places on the way. -/
def skipFrom : Nat → Place → List Bracket → List UInt8 → Except Fault (List UInt8)
  | 0, _, _, _ => .error ⟨.endInValue, []⟩
  -- No bracket is open: the value has ended.
  | _ + 1, .behind, [], s => .ok s
  | _ + 1, .inside, [], s => .ok s
  | bound + 1, .before, stack, s =>
    match skipSpace s with
    | [] => .error ⟨.endInValue, []⟩
    | b :: r =>
      match skipScalar? b r with
      | some reading => do
        let (_, r) ← reading
        skipFrom bound .behind stack r
      | none =>
        match opened? b with
        | some bracket => skipFrom bound .inside (bracket :: stack) r
        | none => .error ⟨.expectedValue, r⟩
  | bound + 1, .inside, bracket :: stack, s =>
    match skipSpace s with
    | [] => .error ⟨bracket.unclosed, []⟩
    | b :: r =>
      if b = bracket.closing then skipFrom bound .behind stack r
      else do
        let r ← skipKey bracket (b :: r)
        skipFrom bound .before (bracket :: stack) r
  | bound + 1, .behind, bracket :: stack, s =>
    match skipSpace s with
    | [] => .error ⟨bracket.unclosed, []⟩
    | b :: r =>
      if b = Byte.comma then do
        let r ← skipKey bracket r
        skipFrom bound .before (bracket :: stack) r
      else if b = bracket.closing then skipFrom bound .behind stack r
      else .error ⟨bracket.unseparated, r⟩

/-- Passes over a value in a text of the given size: the bytes behind it. -/
def skipValue (size : Nat) (s : List UInt8) : Except Fault (List UInt8) :=
  skipFrom (2 * size + 2) .before [] s

end BucketDriver.Json
