import BucketDriver.Dict
import BucketDriver.Json.Skip

/-!
# Records in JSON texts

A record has named fields that hold a text or a dictionary of texts. It is written as an object,
whose other members are passed over, or as an array of its fields in order. A field may be left out
unless it is required; giving one twice is a fault, but inside a dictionary the last of several
equal keys counts.
-/

namespace BucketDriver.Json

/-- What a field may hold. -/
inductive FieldKind where
  | text
  | texts
  deriving DecidableEq, Repr

/-- A field of a record. -/
structure Field where
  /-- The key of the field. -/
  name : String
  /-- What it holds. -/
  kind : FieldKind
  /-- Whether it must be given. -/
  required : Bool
  deriving DecidableEq, Repr

/-- The name and the fields of a record. -/
structure Shape where
  /-- The name of the record, for messages. -/
  name : String
  /-- The fields, in order. -/
  fields : List Field
  deriving DecidableEq, Repr

/-- What a field holds. -/
inductive FieldValue where
  | text (s : String)
  | texts (d : Dict String)
  deriving DecidableEq

/-- The fields that a record gives. -/
abbrev Fields := List (String × FieldValue)

/-- The text of a field, empty when it is not given. -/
def textOf (fields : Fields) (name : String) : String :=
  match fields.lookup name with
  | some (.text s) => s
  | _ => ""

/-- The dictionary of a field, empty when it is not given. -/
def textsOf (fields : Fields) (name : String) : Dict String :=
  match fields.lookup name with
  | some (.texts d) => d
  | _ => .empty

/-- Reads what a field holds. -/
def fieldValue (size : Nat) : FieldKind → List UInt8 → Reading FieldValue
  | .text, s => (string s).map fun (t, r) => (.text t, r)
  | .texts, s => (entries size string s).map fun (es, r) => (.texts (.ofList es), r)

/-- The place of a repeated key: behind the blanks that follow it, and behind the brace if the
object ends there. -/
def behindKey (s : List UInt8) : List UInt8 :=
  match skipSpace s with
  | [] => []
  | b :: r => if b = Byte.closeBrace then r else b :: r

/-- Reads a member of a record behind its key. -/
def fieldMember (size : Nat) (shape : Shape) (read : Fields) (key : String) (s : List UInt8) :
    Except Fault (Fields × List UInt8) :=
  match shape.fields.find? (·.name = key) with
  | none => do
    let r ← skipValue size (← colon s)
    return (read, r)
  | some field =>
    -- A repeated key is a fault whatever its value is.
    if (read.lookup key).isSome then .error ⟨.duplicateField key, behindKey s⟩
    else do
      let (v, r) ← fieldValue size field.kind (← colon s)
      return ((key, v) :: read, r)

/-- Reads a record from the members of an object behind its opening brace. -/
def fieldsByName (size : Nat) (shape : Shape) (s : List UInt8) :
    Except Fault (Fields × List UInt8) := do
  let (read, r) ← members size (fieldMember size shape) [] s
  match shape.fields.find? fun f => f.required && (read.lookup f.name).isNone with
  | some field => throw ⟨.missingField field.name, r⟩
  | none => return (read, r)

/-- What a record written as an array must have, in words. -/
def Shape.lengthText (shape : Shape) : String :=
  "struct " ++ shape.name ++ " with " ++ Decimal.natText shape.fields.length ++ " elements"

/-- Passes over the closing bracket of an array of which no more is wanted. -/
def closeArray (s : List UInt8) : Except Fault (List UInt8) :=
  match skipSpace s with
  | [] => .error ⟨.endInList, []⟩
  | b :: r =>
    if b = Byte.closeBracket then .ok r
    else if b = Byte.comma then
      match skipSpace r with
      | [] => .error ⟨.trailingCharacters, []⟩
      | c :: r =>
        if c = Byte.closeBracket then .error ⟨.trailingComma, r⟩
        else .error ⟨.trailingCharacters, r⟩
    else .error ⟨.trailingCharacters, r⟩

/-- Reads the fields of a record one after the other, `read` being those in front of them. -/
def fieldsInOrder (size : Nat) (shape : Shape) (read : Fields) :
    List Field → List UInt8 → Except Fault (Fields × List UInt8)
  | [], s => do
    let r ← closeArray s
    return (read, r)
  | field :: fields, s => do
    match ← nextElement read.isEmpty s with
    | .done r =>
      -- The array is too short for the first required field that is left.
      match (field :: fields).findIdx? (·.required) with
      | some i => throw ⟨.invalidLength (read.length + i) shape.lengthText, r⟩
      | none => return (read, r)
    | .another r =>
      let (v, r) ← fieldValue size field.kind r
      fieldsInOrder size shape ((field.name, v) :: read) fields r

/-- Reads a record. -/
def fieldsOf (shape : Shape) (size : Nat) (s : List UInt8) :
    Except Fault (Fields × List UInt8) :=
  match skipSpace s with
  | [] => .error ⟨.endInValue, []⟩
  | b :: r =>
    if b = Byte.openBrace then fieldsByName size shape r
    else if b = Byte.openBracket then fieldsInOrder size shape [] shape.fields r
    else .error (typeFault ("struct " ++ shape.name) s)

end BucketDriver.Json
