import BucketDriver.Text.Digit
import BucketDriver.Text.Utf8

/-!
# Percent encoding

Bytes in the text of a URL or of a form. `decode` turns each percent sign with two hexadecimal
digits behind it into the byte they stand for, and leaves every other byte alone, a stray percent
sign included. `encode` keeps letters, digits and `-._~` and writes every other byte of a text as a
percent sign with two upper-case digits.
-/

namespace BucketDriver.Text.Percent

/-- The percent sign. -/
def sign : UInt8 := 0x25

/-- The byte that two digits stand for. -/
def octet? (h l : UInt8) : Option UInt8 :=
  match digitValue? h.toNat, digitValue? l.toNat with
  | some x, some y => some (.ofNat (x * 16 + y))
  | _, _ => none

/-- The bytes with every escape undone. -/
def decode : List UInt8 → List UInt8
  | [] => []
  | [a] => [a]
  | [a, b] => [a, b]
  | a :: b :: c :: s =>
    if a = sign then
      match octet? b c with
      | some x => x :: decode s
      | none => a :: decode (b :: c :: s)
    else a :: decode (b :: c :: s)

/-- Whether a byte stands for itself. -/
def isUnreserved (b : UInt8) : Bool :=
  let n := b.toNat
  (0x30 ≤ n && n ≤ 0x39) || (0x41 ≤ n && n ≤ 0x5A) || (0x61 ≤ n && n ≤ 0x7A) ||
    n == 0x2D || n == 0x2E || n == 0x5F || n == 0x7E

/-- An upper-case hexadecimal digit. -/
def upperDigit (n : Nat) : Char :=
  (Nat.digitChar n).toUpper

/-- The characters for one byte. -/
def encodeByte (b : UInt8) : List Char :=
  if isUnreserved b then [Char.ofNat b.toNat]
  else ['%', upperDigit (b.toNat / 16), upperDigit (b.toNat % 16)]

/-- The encoded text. -/
def encode (s : String) : String :=
  String.ofList ((Utf8.encode s).flatMap encodeByte)

theorem decode_cons_of_ne {a : UInt8} (h : a ≠ sign) (s : List UInt8) :
    decode (a :: s) = a :: decode s := by
  match s with
  | [] => rfl
  | [b] => rfl
  | b :: c :: s => rw [decode, if_neg h]

theorem decode_escape {b c x : UInt8} (h : octet? b c = some x) (s : List UInt8) :
    decode (sign :: b :: c :: s) = x :: decode s := by
  rw [decode, if_pos rfl, h]

end BucketDriver.Text.Percent
