import BucketDriver.Json.Token

/-!
# JSON values

`Value` is what a JSON text stands for. An object keeps its members in the order of the text,
repeated keys included; which of them counts is for its reader to say. `Value.render` writes a value
without blanks: strings with the short escapes, with `\u00xx` for the other control characters, and
with every other character as itself.
-/

namespace BucketDriver.Json

/-- What a JSON text stands for. -/
inductive Value where
  | null
  | boolean (b : Bool)
  | number (n : Number)
  | string (s : String)
  | array (items : List Value)
  | object (members : List (String × Value))
  deriving Repr

/-- The two digits of a control character in lower-case hexadecimal. -/
def controlDigits (n : Nat) : List Char :=
  [Nat.digitChar (n / 16), Nat.digitChar (n % 16)]

/-- A character inside a string. -/
def escapedChar (c : Char) : List Char :=
  if c = '"' then ['\\', '"']
  else if c = '\\' then ['\\', '\\']
  else if c = '\x08' then ['\\', 'b']
  else if c = '\x0c' then ['\\', 'f']
  else if c = '\n' then ['\\', 'n']
  else if c = '\r' then ['\\', 'r']
  else if c = '\t' then ['\\', 't']
  else if c.toNat < 0x20 then '\\' :: 'u' :: '0' :: '0' :: controlDigits c.toNat
  else [c]

/-- A string between its quotes. -/
def stringChars (s : String) : List Char :=
  '"' :: (s.toList.flatMap escapedChar ++ ['"'])

/-- Texts with a comma between any two. -/
def separated : List (List Char) → List Char
  | [] => []
  | [x] => x
  | x :: y :: rest => x ++ ',' :: separated (y :: rest)

mutual

/-- The characters of a value. -/
def Value.chars : Value → List Char
  | .null => "null".toList
  | .boolean b => (Text.boolText b).toList
  | .number n => n.text.toList
  | .string s => stringChars s
  | .array items => '[' :: (separated (itemChars items) ++ [']'])
  | .object members => '\x7b' :: (separated (memberChars members) ++ ['\x7d'])

/-- The characters of each item of an array. -/
def itemChars : List Value → List (List Char)
  | [] => []
  | v :: rest => v.chars :: itemChars rest

/-- The characters of each member of an object. -/
def memberChars : List (String × Value) → List (List Char)
  | [] => []
  | (k, v) :: rest => (stringChars k ++ ':' :: v.chars) :: memberChars rest

end

/-- The text of a value. -/
def Value.render (v : Value) : String :=
  String.ofList v.chars

/-- An object whose members are strings. -/
def Value.ofStrings (members : List (String × String)) : Value :=
  .object (members.map fun (k, s) => (k, .string s))

end BucketDriver.Json
