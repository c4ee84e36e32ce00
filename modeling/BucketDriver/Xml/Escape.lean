import BucketDriver.Text.Digit

/-!
# Escapes in XML text

Text between tags. `escape` writes the five markup characters by name and the line-end characters by
number; `unescape?` reads the five names and any number of a character, and refuses everything else
behind an ampersand.
-/

namespace BucketDriver.Xml

/-- A number in upper-case hexadecimal, as a reference to a character. -/
def numberReference (n : Nat) : List Char :=
  "&#x".toList ++ (Nat.toDigits 16 n).map Char.toUpper ++ [';']

/-- One character of escaped text. -/
def escapedChar (c : Char) : List Char :=
  if c = '&' then "&amp;".toList
  else if c = '<' then "&lt;".toList
  else if c = '>' then "&gt;".toList
  else if c = '"' then "&quot;".toList
  else if c = '\'' then "&apos;".toList
  else if c = '\r' ∨ c = '\n' ∨ c = '\u0085' ∨ c = '\u2028' then numberReference c.toNat
  else [c]

/-- A text with escapes. -/
def escape (s : String) : String :=
  String.ofList (s.toList.flatMap escapedChar)

/-- The number in a reference, in a base; a plus sign may stand in front of the digits. -/
def referenceNumber? (base : Nat) : List Char → Option Nat
  | '+' :: cs => Text.number? base cs
  | cs => Text.number? base cs

/-- The character with a number, if there is one. -/
def numbered? (n : Nat) : Option Char :=
  if h : n.isValidChar then some (Char.ofNatAux n h) else none

/-- The character that a reference stands for. -/
def reference? : List Char → Option Char
  | ['l', 't'] => some '<'
  | ['g', 't'] => some '>'
  | ['a', 'm', 'p'] => some '&'
  | ['q', 'u', 'o', 't'] => some '"'
  | ['a', 'p', 'o', 's'] => some '\''
  | '#' :: 'x' :: digits => (referenceNumber? 16 digits).bind numbered?
  | '#' :: digits => (referenceNumber? 10 digits).bind numbered?
  | _ => none

/-- Undoes escapes behind the characters already read, last first. Inside of a reference, its
characters so far are kept, last first as well. -/
def unescapeOnto (read : List Char) : Option (List Char) → List Char → Option (List Char)
  | none, [] => some read.reverse
  | some _, [] => none
  | none, c :: cs =>
    if c = '&' then unescapeOnto read (some []) cs else unescapeOnto (c :: read) none cs
  | some name, c :: cs =>
    if c = ';' then
      match reference? name.reverse with
      | some d => unescapeOnto (d :: read) none cs
      | none => none
    else if c = '&' then none
    else unescapeOnto read (some (c :: name)) cs

/-- The text that an escaped text stands for. -/
def unescape? (cs : List Char) : Option String :=
  (unescapeOnto [] none cs).map String.ofList

end BucketDriver.Xml
