import BucketDriver.Json.Number
import BucketDriver.Text.Quoted

/-!
# Faults in JSON texts

What can be wrong with a JSON text, and where. A reader that meets a fault reports its cause with
the bytes not yet consumed; `Fault.locate` turns them into a line and a column. Lines count from
one, and a column is the number of bytes consumed since the last line feed.
-/

namespace BucketDriver.Json

/-- What was found in the place of an expected value. -/
inductive Found where
  | null
  | boolean (b : Bool)
  | number (n : Number)
  | string (s : String)
  | sequence
  | map
  deriving DecidableEq, Repr

/-- What was found, in words. -/
def Found.text : Found → String
  | null => "null"
  | boolean b => "boolean `" ++ Text.boolText b ++ "`"
  | number n => (if n.isInteger then "integer `" else "floating point `") ++ n.text ++ "`"
  | string s => "string " ++ Text.quoted s
  | sequence => "sequence"
  | map => "map"

/-- What is wrong with a JSON text. -/
inductive Cause where
  | endInValue
  | endInObject
  | endInList
  | endInString
  | expectedColon
  | expectedCommaOrBrace
  | expectedCommaOrBracket
  | expectedValue
  | expectedIdent
  | trailingComma
  | trailingCharacters
  | keyNotString
  | invalidNumber
  | numberOutOfRange
  | invalidEscape
  | loneSurrogate
  | endInEscape
  | controlCharacter
  | invalidCodePoint
  | tooDeep
  | invalidType (found : Found) (expected : String)
  | invalidLength (length : Nat) (expected : String)
  | missingField (name : String)
  | duplicateField (name : String)
  deriving DecidableEq, Repr

/-- A cause in words. -/
def Cause.text : Cause → String
  | endInValue => "EOF while parsing a value"
  | endInObject => "EOF while parsing an object"
  | endInList => "EOF while parsing a list"
  | endInString => "EOF while parsing a string"
  | expectedColon => "expected `:`"
  | expectedCommaOrBrace => "expected `,` or `\x7d`"
  | expectedCommaOrBracket => "expected `,` or `]`"
  | expectedValue => "expected value"
  | expectedIdent => "expected ident"
  | trailingComma => "trailing comma"
  | trailingCharacters => "trailing characters"
  | keyNotString => "key must be a string"
  | invalidNumber => "invalid number"
  | numberOutOfRange => "number out of range"
  | invalidEscape => "invalid escape"
  | loneSurrogate => "lone leading surrogate in hex escape"
  | endInEscape => "unexpected end of hex escape"
  | controlCharacter => "control character (\\u0000-\\u001F) found while parsing a string"
  | invalidCodePoint => "invalid unicode code point"
  | tooDeep => "recursion limit exceeded"
  | invalidType found expected => "invalid type: " ++ found.text ++ ", expected " ++ expected
  | invalidLength n expected =>
    "invalid length " ++ Decimal.natText n ++ ", expected " ++ expected
  | missingField name => "missing field `" ++ name ++ "`"
  | duplicateField name => "duplicate field `" ++ name ++ "`"

/-- A cause with the bytes that were not consumed when it was met. -/
structure Fault where
  /-- What is wrong. -/
  cause : Cause
  /-- The bytes behind the place. -/
  rest : List UInt8
  deriving DecidableEq, Repr

/-- A cause with its place in a text. -/
structure ParseError where
  /-- What is wrong. -/
  cause : Cause
  /-- The line, from one. -/
  line : Nat
  /-- The bytes consumed on the line. -/
  column : Nat
  deriving DecidableEq, Repr

/-- The message of an error. -/
def ParseError.message (e : ParseError) : String :=
  e.cause.text ++ " at line " ++ Decimal.natText e.line ++ " column " ++ Decimal.natText e.column

/-- The line feed. -/
def lineFeed : UInt8 := 0x0A

/-- The line and the column behind some consumed bytes. -/
def placeAfter (consumed : List UInt8) : Nat × Nat :=
  consumed.foldl
    (fun (line, column) b => if b = lineFeed then (line + 1, 0) else (line, column + 1)) (1, 0)

/-- The error that a fault in a text amounts to. -/
def Fault.locate (text : List UInt8) (f : Fault) : ParseError :=
  let (line, column) := placeAfter (text.take (text.length - f.rest.length))
  ⟨f.cause, line, column⟩

/-- Reading with a fault located in the text that is read. -/
def located (text : List UInt8) (result : Except Fault α) : Except ParseError α :=
  result.mapError (·.locate text)

end BucketDriver.Json
