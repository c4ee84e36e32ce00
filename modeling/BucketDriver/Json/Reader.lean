import BucketDriver.Json.Value

/-!
# Reading JSON values

`members` and `elements` read the inside of an object or an array, handing each member or element to
a reader of its own, and `value` reads any value. A text is one value between blanks: `whole`
refuses anything behind it.

Every reader gets the size of the whole text, which no count of members or elements exceeds, and
values nest at most as deep as a bound of their own allows.
-/

namespace BucketDriver.Json

/-- How deep arrays and objects may nest, plus one. -/
def depthLimit : Nat := 128

/-- Passes over the colon between a key and its value. -/
def colon (s : List UInt8) : Except Fault (List UInt8) :=
  match skipSpace s with
  | [] => .error ⟨.endInObject, []⟩
  | b :: r => if b = Byte.colon then .ok r else .error ⟨.expectedColon, r⟩

/-- What stands before the next member or element, or behind the last one. -/
inductive Next where
  /-- Another one follows, here. -/
  | another (rest : List UInt8)
  /-- The end, with the bytes behind it. -/
  | done (rest : List UInt8)

/-- Looks for the next key of an object: the bytes behind its opening quote. -/
def nextKey (first : Bool) (s : List UInt8) : Except Fault Next :=
  match skipSpace s with
  | [] => .error ⟨.endInObject, []⟩
  | b :: r =>
    if b = Byte.closeBrace then .ok (.done r)
    else if first then
      if b = Byte.quote then .ok (.another r) else .error ⟨.keyNotString, r⟩
    else if b = Byte.comma then
      match skipSpace r with
      | [] => .error ⟨.endInValue, []⟩
      | c :: r =>
        if c = Byte.quote then .ok (.another r)
        else if c = Byte.closeBrace then .error ⟨.trailingComma, r⟩
        else .error ⟨.keyNotString, r⟩
    else .error ⟨.expectedCommaOrBrace, r⟩

/-- Looks for the next element of an array. -/
def nextElement (first : Bool) (s : List UInt8) : Except Fault Next :=
  match skipSpace s with
  | [] => .error ⟨.endInList, []⟩
  | b :: r =>
    if b = Byte.closeBracket then .ok (.done r)
    else if first then .ok (.another (b :: r))
    else if b = Byte.comma then
      match skipSpace r with
      | [] => .error ⟨.endInValue, []⟩
      | c :: r =>
        if c = Byte.closeBracket then .error ⟨.trailingComma, r⟩ else .ok (.another (c :: r))
    else .error ⟨.expectedCommaOrBracket, r⟩

/-- Reads members until the closing brace. The reader of a member gets what was made of those before
it, the key, and the bytes behind the key. The first argument bounds the number of members. -/
def membersFrom (member : σ → String → List UInt8 → Reading σ) :
    Nat → Bool → σ → List UInt8 → Except Fault (σ × List UInt8)
  | 0, _, _, _ => .error ⟨.endInObject, []⟩
  | bound + 1, first, made, s => do
    match ← nextKey first s with
    | .done r => return (made, r)
    | .another r =>
      let (key, r) ← stringBody r
      let (made, r) ← member made key r
      membersFrom member bound false made r

/-- Reads the members of an object behind its opening brace. -/
def members (size : Nat) (member : σ → String → List UInt8 → Reading σ) (made : σ)
    (s : List UInt8) : Reading σ :=
  membersFrom member (size + 1) true made s

/-- Reads the value of a member, in front of the members already read. -/
def keyed (item : List UInt8 → Reading α) (read : List (String × α)) (key : String)
    (s : List UInt8) : Except Fault (List (String × α) × List UInt8) := do
  let (a, r) ← item (← colon s)
  return ((key, a) :: read, r)

/-- Reads elements until the closing bracket. The first argument bounds their number. -/
def elementsFrom (element : List UInt8 → Reading α) :
    Nat → Bool → List α → List UInt8 → Except Fault (List α × List UInt8)
  | 0, _, _, _ => .error ⟨.endInList, []⟩
  | bound + 1, first, read, s => do
    match ← nextElement first s with
    | .done r => return (read.reverse, r)
    | .another r =>
      let (a, r) ← element r
      elementsFrom element bound false (a :: read) r

/-- Reads the elements of an array behind its opening bracket. -/
def elements (size : Nat) (element : List UInt8 → Reading α) (s : List UInt8) :
    Reading (List α) :=
  elementsFrom element (size + 1) true [] s

/-- What follows the first letter of the name of the null value. -/
def nullTail : List UInt8 := [0x75, 0x6C, 0x6C]

/-- What follows the first letter of the name of the true value. -/
def trueTail : List UInt8 := [0x72, 0x75, 0x65]

/-- What follows the first letter of the name of the false value. -/
def falseTail : List UInt8 := [0x61, 0x6C, 0x73, 0x65]

/-- Reads a scalar whose first byte is given, if it starts one. -/
def scalar? (b : UInt8) (r : List UInt8) : Option (Reading Value) :=
  if b = 0x6E then some ((literal nullTail r).map fun (_, r) => (.null, r))
  else if b = 0x74 then some ((literal trueTail r).map fun (_, r) => (.boolean true, r))
  else if b = 0x66 then some ((literal falseTail r).map fun (_, r) => (.boolean false, r))
  else if b = Byte.minus then some ((numberBody true r).map fun (n, r) => (.number n, r))
  else if (digit? b).isSome then some ((numberBody false (b :: r)).map fun (n, r) => (.number n, r))
  else if b = Byte.quote then some ((stringBody r).map fun (s, r) => (.string s, r))
  else none

/-- Reads a value in which arrays and objects nest less deep than the given bound. -/
def value (size bound : Nat) (s : List UInt8) : Reading Value :=
  match skipSpace s with
  | [] => .error ⟨.endInValue, []⟩
  | b :: r =>
    match scalar? b r with
    | some reading => reading
    | none =>
      if b = Byte.openBracket then
        match bound with
        | 0 | 1 => .error ⟨.tooDeep, r⟩
        | bound + 1 => (elements size (value size bound) r).map fun (vs, r) => (.array vs, r)
      else if b = Byte.openBrace then
        match bound with
        | 0 | 1 => .error ⟨.tooDeep, r⟩
        | bound + 1 =>
          (members size (keyed (value size bound)) [] r).map fun (ms, r) => (.object ms.reverse, r)
      else .error ⟨.expectedValue, r⟩

/-- The fault of a value of another type than the expected one. -/
def typeFault (expected : String) (s : List UInt8) : Fault :=
  match skipSpace s with
  | [] => ⟨.endInValue, []⟩
  | b :: r =>
    match scalar? b r with
    | some (.error fault) => fault
    | some (.ok (.null, r)) => ⟨.invalidType .null expected, r⟩
    | some (.ok (.boolean b, r)) => ⟨.invalidType (.boolean b) expected, r⟩
    | some (.ok (.number n, r)) => ⟨.invalidType (.number n) expected, r⟩
    | some (.ok (.string t, r)) => ⟨.invalidType (.string t) expected, r⟩
    | _ =>
      -- An array or an object is not entered: its place is in front of the bracket.
      if b = Byte.openBracket then ⟨.invalidType .sequence expected, b :: r⟩
      else if b = Byte.openBrace then ⟨.invalidType .map expected, b :: r⟩
      else ⟨.expectedValue, r⟩

/-- Reads a string. -/
def string (s : List UInt8) : Reading String :=
  match skipSpace s with
  | [] => .error ⟨.endInValue, []⟩
  | b :: r => if b = Byte.quote then stringBody r else .error (typeFault "a string" s)

/-- Reads the members of an object, in order, each value by the given reader. -/
def entries (size : Nat) (item : List UInt8 → Reading α) (s : List UInt8) :
    Reading (List (String × α)) :=
  match skipSpace s with
  | [] => .error ⟨.endInValue, []⟩
  | b :: r =>
    if b = Byte.openBrace then
      (members size (keyed item) [] r).map fun (es, r) => (es.reverse, r)
    else .error (typeFault "a map" s)

/-- Reads a text that holds one thing between blanks. -/
def whole (reading : Nat → List UInt8 → Reading α) (text : List UInt8) : Except ParseError α :=
  located text do
    let (a, r) ← reading text.length text
    match skipSpace r with
    | [] => return a
    | _ :: r => throw ⟨.trailingCharacters, r⟩

end BucketDriver.Json
