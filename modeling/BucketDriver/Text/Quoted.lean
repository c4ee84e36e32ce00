import BucketDriver.Text.Shape

/-!
# Quoted text

A text in quotes for a reader of messages: between double quotes, with a backslash before a quote or
a backslash, with the short escapes for tab, line feed, carriage return and NUL, and with the code
point in braces for any other character without a shape of its own. An apostrophe stands for itself.
-/

namespace BucketDriver.Text

/-- The digits of a number in lower-case hexadecimal, without leading zeros. -/
def hexText (n : Nat) : String :=
  String.ofList (Nat.toDigits 16 n)

/-- One character of quoted text. -/
def quotedChar (c : Char) : String :=
  if c = '\t' then "\\t"
  else if c = '\n' then "\\n"
  else if c = '\r' then "\\r"
  else if c = '\x00' then "\\0"
  else if c = '"' then "\\\""
  else if c = '\\' then "\\\\"
  else if hasShape c then c.toString
  else "\\u\x7b" ++ hexText c.toNat ++ "\x7d"

/-- A text between quotes, with escapes. -/
def quoted (s : String) : String :=
  "\"" ++ String.join (s.toList.map quotedChar) ++ "\""

/-- A value that may be missing, as a reader of messages sees it. -/
def optional (text : α → String) : Option α → String
  | none => "None"
  | some a => "Some(" ++ text a ++ ")"

/-- The text of a record: its name and its fields, each with the text of its value. -/
def record (name : String) (fields : List (String × String)) : String :=
  name ++ " \x7b " ++ ", ".intercalate (fields.map fun (f, v) => f ++ ": " ++ v) ++ " \x7d"

/-- The text of a truth value. -/
def boolText (b : Bool) : String :=
  if b then "true" else "false"

end BucketDriver.Text
