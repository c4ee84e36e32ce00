import BucketDriver.Json.Fault
import BucketDriver.Text.Digit
import BucketDriver.Text.Utf8

/-!
# Tokens of JSON texts

Readers for the smallest parts of a JSON text: blanks, literal names, strings and numbers. Each
takes the bytes that are left and gives what it read with the bytes behind it, or a fault. The
fault's place is behind the offending byte, and at the end of the text when that comes too early.
-/

namespace BucketDriver.Json

open Decimal (Double)

/-- The result of reading: a value and the bytes behind it. -/
abbrev Reading (α : Type u) := Except Fault (α × List UInt8)

namespace Byte

def quote : UInt8 := 0x22
def backslash : UInt8 := 0x5C
def comma : UInt8 := 0x2C
def colon : UInt8 := 0x3A
def openBrace : UInt8 := 0x7B
def closeBrace : UInt8 := 0x7D
def openBracket : UInt8 := 0x5B
def closeBracket : UInt8 := 0x5D
def minus : UInt8 := 0x2D
def plus : UInt8 := 0x2B
def point : UInt8 := 0x2E
def zero : UInt8 := 0x30
def letterU : UInt8 := 0x75

end Byte

/-- The value of a decimal digit. -/
def digit? (b : UInt8) : Option Nat :=
  if 0x30 ≤ b.toNat ∧ b.toNat ≤ 0x39 then some (b.toNat - 0x30) else none

/-- The value of four hexadecimal digits. -/
def hexQuad? (a b c d : UInt8) : Option Nat := do
  let w ← Text.digitValue? a.toNat
  let x ← Text.digitValue? b.toNat
  let y ← Text.digitValue? c.toNat
  let z ← Text.digitValue? d.toNat
  return ((w * 16 + x) * 16 + y) * 16 + z

/-- Space, tab, line feed and carriage return. -/
def isSpace (b : UInt8) : Bool :=
  b = 0x20 || b = 0x09 || b = 0x0A || b = 0x0D

/-- The bytes behind the blanks at the front. -/
def skipSpace (s : List UInt8) : List UInt8 :=
  s.dropWhile isSpace

/-! ## Literal names -/

/-- Reads the letters of a literal name that are left of it. -/
def literal : List UInt8 → List UInt8 → Reading Unit
  | [], s => .ok ((), s)
  | _ :: _, [] => .error ⟨.endInValue, []⟩
  | e :: name, b :: s => if b = e then literal name s else .error ⟨.expectedIdent, s⟩

/-! ## Strings -/

/-- The character of an escape of one letter. -/
def shortEscape? (b : UInt8) : Option Char :=
  match b with
  | 0x22 => some '"'
  | 0x5C => some '\\'
  | 0x2F => some '/'
  | 0x62 => some '\x08'
  | 0x66 => some '\x0c'
  | 0x6E => some '\n'
  | 0x72 => some '\r'
  | 0x74 => some '\t'
  | _ => none

/-- Whether a number is the first half of a surrogate pair. -/
def isHighSurrogate (n : Nat) : Bool :=
  0xD800 ≤ n && n ≤ 0xDBFF

/-- Whether a number is the second half of a surrogate pair. -/
def isLowSurrogate (n : Nat) : Bool :=
  0xDC00 ≤ n && n ≤ 0xDFFF

/-- The character of a surrogate pair. -/
def surrogatePair (high low : Nat) : Char :=
  Char.ofNat (0x10000 + (high - 0xD800) * 0x400 + (low - 0xDC00))

/-- Reads a string behind its opening quote, after the characters already read, last first. A byte
that belongs to no character is remembered with the bytes behind it, and reported when the string
has ended without another fault. -/
def stringOnto (read : List Char) (stray : Option (List UInt8)) : List UInt8 → Reading String
  | [] => .error ⟨.endInString, []⟩
  | a :: s₁ =>
    if a = Byte.quote then
      match stray with
      | some rest => .error ⟨.invalidCodePoint, rest⟩
      | none => .ok (String.ofList read.reverse, s₁)
    else if a = Byte.backslash then
      match s₁ with
      | [] => .error ⟨.endInString, []⟩
      | e :: s₂ =>
        match shortEscape? e with
        | some ch => stringOnto (ch :: read) stray s₂
        | none =>
          if e ≠ Byte.letterU then .error ⟨.invalidEscape, s₂⟩
          else match s₂ with
            | h₁ :: h₂ :: h₃ :: h₄ :: s₆ =>
              match hexQuad? h₁ h₂ h₃ h₄ with
              | none => .error ⟨.invalidEscape, s₆⟩
              | some n =>
                if isLowSurrogate n then .error ⟨.loneSurrogate, s₆⟩
                else if isHighSurrogate n then
                  -- The second half of the pair must follow at once, as an escape of its own.
                  match s₆ with
                  | [] => .error ⟨.endInString, []⟩
                  | b :: s₇ =>
                    if b ≠ Byte.backslash then .error ⟨.endInEscape, s₇⟩
                    else match s₇ with
                      | [] => .error ⟨.endInString, []⟩
                      | u :: s₈ =>
                        if u ≠ Byte.letterU then .error ⟨.endInEscape, s₈⟩
                        else match s₈ with
                          | l₁ :: l₂ :: l₃ :: l₄ :: s₁₂ =>
                            match hexQuad? l₁ l₂ l₃ l₄ with
                            | none => .error ⟨.invalidEscape, s₁₂⟩
                            | some m =>
                              if isLowSurrogate m then
                                stringOnto (surrogatePair n m :: read) stray s₁₂
                              else .error ⟨.loneSurrogate, s₁₂⟩
                          | _ => .error ⟨.endInString, []⟩
                else stringOnto (Char.ofNat n :: read) stray s₆
            | _ => .error ⟨.endInString, []⟩
    else if a.toNat < 0x20 then .error ⟨.controlCharacter, s₁⟩
    else if a.toNat < 0x80 then stringOnto (Char.ofNat a.toNat :: read) stray s₁
    else
      -- A character of two, three or four bytes, the shortest that fits; else a stray byte, of
      -- which only the first in the string is remembered.
      let pastByte := fun (_ : Unit) => stringOnto read (stray <|> some s₁) s₁
      match s₁ with
      | [] => .error ⟨.endInString, []⟩
      | b :: s₂ =>
        match Text.Utf8.pair? a b with
        | some ch => stringOnto (ch :: read) stray s₂
        | none => match s₂ with
          | [] => pastByte ()
          | c :: s₃ =>
            match Text.Utf8.triple? a b c with
            | some ch => stringOnto (ch :: read) stray s₃
            | none => match s₃ with
              | [] => pastByte ()
              | d :: s₄ =>
                match Text.Utf8.quadruple? a b c d with
                | some ch => stringOnto (ch :: read) stray s₄
                | none => pastByte ()

/-- Reads a string behind its opening quote. -/
def stringBody (s : List UInt8) : Reading String :=
  stringOnto [] none s

/-- Passes over a string behind its opening quote, whose characters are of no interest. -/
def skipString : List UInt8 → Reading Unit
  | [] => .error ⟨.endInString, []⟩
  | a :: s₁ =>
    if a = Byte.quote then .ok ((), s₁)
    else if a = Byte.backslash then
      match s₁ with
      | [] => .error ⟨.endInString, []⟩
      | e :: s₂ =>
        if (shortEscape? e).isSome then skipString s₂
        else if e ≠ Byte.letterU then .error ⟨.invalidEscape, s₂⟩
        else match s₂ with
          | h₁ :: h₂ :: h₃ :: h₄ :: s₆ =>
            if (hexQuad? h₁ h₂ h₃ h₄).isSome then skipString s₆ else .error ⟨.invalidEscape, s₆⟩
          | _ => .error ⟨.endInString, []⟩
    else if a.toNat < 0x20 then .error ⟨.controlCharacter, a :: s₁⟩
    else skipString s₁

/-! ## Numbers -/

/-- The greatest number of an unsigned word. -/
def wordMax : Nat := 18446744073709551615

/-- The greatest exponent that is read. -/
def exponentMax : Nat := 2147483647

/-- Reads digits onto a number while it fits into a word: the number, the count of the digits, and
the bytes behind them. -/
def digitsOnto (n count : Nat) : List UInt8 → Nat × Nat × List UInt8
  | [] => (n, count, [])
  | b :: s =>
    match digit? b with
    | some d =>
      if n * 10 + d ≤ wordMax then digitsOnto (n * 10 + d) (count + 1) s else (n, count, b :: s)
    | none => (n, count, b :: s)

/-- Passes over digits: their count and the bytes behind them. -/
def skipDigits (count : Nat) : List UInt8 → Nat × List UInt8
  | [] => (count, [])
  | b :: s => if (digit? b).isSome then skipDigits (count + 1) s else (count, b :: s)

/-- Reads the digits of an exponent; a number beyond the greatest exponent is no number, and comes
with the bytes behind the digit that took it there. -/
def exponentOnto (n : Nat) : List UInt8 → Option Nat × List UInt8
  | [] => (some n, [])
  | b :: s =>
    match digit? b with
    | some d => if n * 10 + d ≤ exponentMax then exponentOnto (n * 10 + d) s else (none, s)
    | none => (some n, b :: s)

/-- The number of some digits and a power of ten, if it is in range. -/
def floating (negative : Bool) (digits : Nat) (exponent : Int) (s : List UInt8) : Reading Number :=
  match Double.ofDigits digits exponent with
  | some d => .ok (.floating negative d, s)
  | none => .error ⟨.numberOutOfRange, s⟩

/-- Reads an exponent behind its letter. -/
def exponentPart (negative : Bool) (digits : Nat) (exponent : Int) (s : List UInt8) :
    Reading Number :=
  let (down, s) := match s with
    | b :: r =>
      if b = Byte.minus then (true, r) else if b = Byte.plus then (false, r) else (false, s)
    | [] => (false, [])
  match s with
  | [] => .error ⟨.endInValue, []⟩
  | b :: r =>
    match digit? b with
    | none => .error ⟨.invalidNumber, r⟩
    | some d =>
      match exponentOnto d r with
      | (some e, r) => floating negative digits (if down then exponent - e else exponent + e) r
      | (none, r) =>
        -- No exponent takes zero anywhere, and a great negative one takes every number to zero.
        if digits ≠ 0 ∧ !down then .error ⟨.numberOutOfRange, r⟩
        else .ok (.floating negative .zero, (skipDigits 0 r).2)

/-- Whether a byte is the letter of an exponent. -/
def isExponentLetter (b : UInt8) : Bool :=
  b = 0x65 || b = 0x45

/-- Reads what may stand behind the digits of a double. -/
def exponentIfAny (negative : Bool) (digits : Nat) (exponent : Int) : List UInt8 → Reading Number
  | [] => floating negative digits exponent []
  | b :: s =>
    if isExponentLetter b then exponentPart negative digits exponent s
    else floating negative digits exponent (b :: s)

/-- Reads a fraction behind its point. -/
def fractionPart (negative : Bool) (digits : Nat) (exponent : Int) (s : List UInt8) :
    Reading Number :=
  -- Digits behind the point that have no room in the word change nothing.
  let (n, kept, r) := digitsOnto digits 0 s
  let (dropped, r) := skipDigits 0 r
  if kept + dropped = 0 then
    match r with
    | [] => .error ⟨.endInValue, []⟩
    | _ :: r => .error ⟨.invalidNumber, r⟩
  else exponentIfAny negative n (exponent - kept) r

/-- Reads what may stand behind the whole digits of a number, of which some had no room in a word.
-/
def afterWhole (negative : Bool) (n dropped : Nat) (s : List UInt8) : Reading Number :=
  -- Negative zero is no integer, nor is a number below the least signed word.
  let plain : Reading Number :=
    if dropped ≠ 0 then floating negative n dropped s
    else if !negative then .ok (.natural n, s)
    else if n = 0 ∨ Nat.pow 2 63 < n then floating true n 0 s
    else .ok (.negated n, s)
  match s with
  | [] => plain
  | b :: r =>
    if b = Byte.point then fractionPart negative n dropped r
    else if isExponentLetter b then exponentPart negative n dropped r
    else plain

/-- Reads a number behind its sign. -/
def numberBody (negative : Bool) : List UInt8 → Reading Number
  | [] => .error ⟨.endInValue, []⟩
  | b :: s =>
    match digit? b with
    | none => .error ⟨.invalidNumber, s⟩
    | some 0 =>
      match s with
      | c :: r =>
        if (digit? c).isSome then .error ⟨.invalidNumber, r⟩ else afterWhole negative 0 0 s
      | [] => afterWhole negative 0 0 []
    | some d =>
      let (n, _, r) := digitsOnto d 0 s
      let (dropped, r) := skipDigits 0 r
      afterWhole negative n dropped r

/-- Passes over the digits of an exponent behind its letter. -/
def skipExponent (s : List UInt8) : Reading Unit :=
  let s := match s with
    | b :: r => if b = Byte.minus ∨ b = Byte.plus then r else s
    | [] => []
  match s with
  | [] => .error ⟨.invalidNumber, []⟩
  | b :: r => if (digit? b).isSome then .ok ((), (skipDigits 0 r).2) else .error ⟨.invalidNumber, r⟩

/-- Passes over what may stand behind the whole digits of a number. -/
def skipAfterWhole : List UInt8 → Reading Unit
  | [] => .ok ((), [])
  | b :: s =>
    if b = Byte.point then
      match skipDigits 0 s with
      | (0, r) => .error ⟨.invalidNumber, r.drop 1⟩
      | (_, []) => .ok ((), [])
      | (_, c :: r) => if isExponentLetter c then skipExponent r else .ok ((), c :: r)
    else if isExponentLetter b then skipExponent s
    else .ok ((), b :: s)

/-- Passes over a number behind its sign; its size is of no interest. -/
def skipNumber : List UInt8 → Reading Unit
  | [] => .error ⟨.invalidNumber, []⟩
  | b :: s =>
    match digit? b with
    | none => .error ⟨.invalidNumber, s⟩
    | some 0 =>
      match s with
      | c :: r => if (digit? c).isSome then .error ⟨.invalidNumber, r⟩ else skipAfterWhole s
      | [] => .ok ((), [])
    | some _ => skipAfterWhole (skipDigits 0 s).2

end BucketDriver.Json
