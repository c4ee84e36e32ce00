import BucketDriver.Provider.Call

/-!
# New access keys

The form of the keys that the memory store gives out. A key is drawn from three random numbers of
128 bits: its identifier is a fixed word and sixteen upper-case hexadecimal digits of the first
number, its secret forty lower-case digits of the other two.
-/

namespace BucketDriver.Memory

/-- The lowest hexadecimal digits of a number, highest first, in front of others. -/
def hexDigitsOnto (n : Nat) : Nat → List Char → List Char
  | 0, cs => cs
  | count + 1, cs => hexDigitsOnto (n / 16) count (Nat.digitChar (n % 16) :: cs)

/-- The thirty-two digits of a number of 128 bits. -/
def hexDigits (n : Nat) : List Char :=
  hexDigitsOnto n 32 []

/-- The word in front of every identifier. -/
def keyWord : String := "AKIA"

/-- The key drawn from three numbers. -/
def newKey (a b c : Nat) : AccessKey :=
  ⟨keyWord ++ String.ofList (((hexDigits a).take 16).map Char.toUpper),
    String.ofList ((hexDigits b ++ hexDigits c).take 40)⟩

end BucketDriver.Memory
