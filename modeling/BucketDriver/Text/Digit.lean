/-!
# Digits

Digits up to `f`, of either case, and the numbers they stand for in a base. A byte is a digit when
the ASCII character with its number is one.

Main statement: `digitValue?_digitChar` (the digit written for a value is read as that value).
-/

namespace BucketDriver.Text

/-- The value of the digit with a code point. -/
def digitValue? (code : Nat) : Option Nat :=
  if 0x30 ≤ code ∧ code ≤ 0x39 then some (code - 0x30)
  else if 0x41 ≤ code ∧ code ≤ 0x46 then some (code - 0x37)
  else if 0x61 ≤ code ∧ code ≤ 0x66 then some (code - 0x57)
  else none

/-- The number that digits stand for in a base, behind the digits of a number already read. -/
def numberOnto? (base n : Nat) : List Char → Option Nat
  | [] => some n
  | c :: cs =>
    match digitValue? c.toNat with
    | some d => if d < base then numberOnto? base (n * base + d) cs else none
    | none => none

/-- The number that digits stand for in a base; there must be at least one. -/
def number? (base : Nat) (cs : List Char) : Option Nat :=
  if cs = [] then none else numberOnto? base 0 cs

/-- The digit written for a value is read as that value, in either case. -/
theorem digitValue?_digitChar {n : Nat} (h : n < 16) :
    digitValue? (Nat.digitChar n).toNat = some n ∧
      digitValue? (Nat.digitChar n).toUpper.toNat = some n := by
  have key : ∀ m : Fin 16, digitValue? (Nat.digitChar m).toNat = some m.val ∧
      digitValue? (Nat.digitChar m).toUpper.toNat = some m.val := by decide
  exact key ⟨n, h⟩

end BucketDriver.Text
