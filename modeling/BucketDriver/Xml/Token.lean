import BucketDriver.Xml.Escape

/-!
# Tokens of XML documents

A document as a list of tags and texts: `tokens` passes over declaration, comments, instructions and
character data sections, and stops behind the end of the root element. Reading is lenient: a fault
ends the list with the token `broken`, and what stands in front of it remains. A tag that is not
finished is a fault, and so is an attribute with a bad reference.
-/

namespace BucketDriver.Xml

/-- A name with an optional qualifier in front of a colon. -/
structure Name where
  /-- The qualifier, empty if there is none. -/
  qualifier : String
  /-- The name itself. -/
  base : String
  deriving DecidableEq, Repr

/-- A tag or a text. -/
inductive Token where
  /-- The tag at the start of an element. -/
  | opening (name : Name)
  /-- The tag of an element without content. -/
  | single (name : Name)
  /-- The tag at the end of an element. -/
  | closing (name : Name)
  /-- Text between tags, still escaped. -/
  | text (s : List Char)
  /-- A fault. -/
  | broken
  deriving DecidableEq, Repr

/-- The spaces of markup. -/
def isSpace (c : Char) : Bool :=
  c = ' ' || c = '\t' || c = '\n' || c = '\r'

/-- The characters of a document. -/
def isXmlChar (c : Char) : Bool :=
  let n := c.toNat
  if n < 0x20 then n == 0x09 || n == 0x0A || n == 0x0D else n != 0xFFFE && n != 0xFFFF

/-- The intervals of characters beyond ASCII with which a name may start. -/
def nameStarts : List (Nat × Nat) :=
  [(0xC0, 0xD6), (0xD8, 0xF6), (0xF8, 0x2FF), (0x370, 0x37D), (0x37F, 0x1FFF), (0x200C, 0x200D),
    (0x2070, 0x218F), (0x2C00, 0x2FEF), (0x3001, 0xD7FF), (0xF900, 0xFDCF), (0xFDF0, 0xFFFD),
    (0x10000, 0xEFFFF)]

/-- The intervals of further characters beyond ASCII in a name. -/
def nameExtras : List (Nat × Nat) :=
  [(0xB7, 0xB7), (0x300, 0x36F), (0x203F, 0x2040)]

/-- Whether a number is in one of some intervals. -/
def within (intervals : List (Nat × Nat)) (n : Nat) : Bool :=
  intervals.any fun (low, high) => low ≤ n && n ≤ high

/-- The characters with which a name may start. -/
def isNameStart (c : Char) : Bool :=
  c.isAlpha || c = '_' || within nameStarts c.toNat

/-- The characters of a name. -/
def isNameChar (c : Char) : Bool :=
  isNameStart c || c.isDigit || c = '-' || c = '.' || within nameExtras c.toNat

/-- Whether characters can be one of the two parts of a name. -/
def startsName : List Char → Bool
  | [] => false
  | c :: _ => isNameStart c

/-- The rest behind a text at the front. -/
def behind? (front : List Char) (s : List Char) : Option (List Char) :=
  if front.isPrefixOf s then some (s.drop front.length) else none

/-- The rest without the spaces at the front. -/
def skipSpaces (s : List Char) : List Char :=
  s.dropWhile isSpace

/-- Reads a name. -/
def name? (s : List Char) : Option (Name × List Char) :=
  let run := s.takeWhile fun c => isNameChar c || c = ':'
  let rest := s.drop run.length
  match run.dropWhile (· ≠ ':') with
  | [] => if startsName run then some (⟨"", String.ofList run⟩, rest) else none
  | _ :: base =>
    let qualifier := run.takeWhile (· ≠ ':')
    if (qualifier = [] ∨ startsName qualifier) ∧ startsName base ∧ !base.contains ':' then
      some (⟨String.ofList qualifier, String.ofList base⟩, rest)
    else none

/-- Reads an equals sign between spaces. -/
def equals? (s : List Char) : Option (List Char) :=
  (behind? ['='] (skipSpaces s)).map skipSpaces

/-- Reads a quoted value: the characters between two equal quotes, which must satisfy a condition.
-/
def quoted? (allowed : Char → Bool) : List Char → Option (List Char × List Char)
  | [] => none
  | q :: s =>
    if q = '"' ∨ q = '\'' then
      let inside := s.takeWhile (· ≠ q)
      match s.drop inside.length with
      | _ :: rest => if inside.all allowed then some (inside, rest) else none
      | [] => none
    else none

/-- The characters in front of a text, and the rest behind it; the characters must be those of a
document. -/
def upTo? (stop : List Char) (read : List Char) : List Char → Option (List Char × List Char)
  | [] => none
  | c :: s =>
    if stop.isPrefixOf (c :: s) then some (read.reverse, (c :: s).drop stop.length)
    else if isXmlChar c then upTo? stop (c :: read) s
    else none

/-- Whether two hyphens stand side by side, or one at the end. -/
def hasBadHyphen : List Char → Bool
  | [] => false
  | ['-'] => true
  | '-' :: '-' :: _ => true
  | _ :: s => hasBadHyphen s

/-- Passes over a comment behind its start. -/
def skipComment? (s : List Char) : Option (List Char) :=
  match upTo? "-->".toList [] s with
  | some (inside, rest) => if hasBadHyphen inside then none else some rest
  | none => none

/-- Passes over an instruction behind its start. -/
def skipInstruction? (s : List Char) : Option (List Char) :=
  if startsName s || s.head? = some ':' then
    (upTo? "?>".toList [] (s.dropWhile fun c => isNameChar c || c = ':')).map (·.2)
  else none

/-- Passes over a comment or an instruction at the front. Another declaration is no instruction. -/
def skipAside? (s : List Char) : Option (Option (List Char)) :=
  match behind? "<!--".toList s with
  | some r => some (skipComment? r)
  | none =>
    match behind? "<?".toList s with
    | some r => some (if "xml ".toList.isPrefixOf r then none else skipInstruction? r)
    | none => none

/-! ## Tags -/

/-- Reads the attributes and the end of a tag: whether the element has content, and the rest. The
first argument bounds the number of attributes. -/
def tagEnd? : Nat → List Char → Option (Bool × List Char)
  | 0, _ => none
  | bound + 1, s =>
    match skipSpaces s with
    | '/' :: '>' :: rest => some (false, rest)
    | '/' :: _ => none
    | '>' :: rest => some (true, rest)
    | r =>
      if (s.head?.map isSpace).getD false then do
        let (_, r) ← name? r
        let r ← equals? r
        let (value, r) ← quoted? (fun c => isXmlChar c && c ≠ '<') r
        let _ ← unescape? value
        tagEnd? bound r
      else none

/-- Reads a tag behind its opening bracket: its token and the rest. -/
def openingTag? (s : List Char) : Option (Token × List Char) := do
  let (name, r) ← name? s
  let (content, rest) ← tagEnd? (r.length + 1) r
  return (if content then .opening name else .single name, rest)

/-- Reads the tag at the end of an element behind its slash. -/
def closingTag? (s : List Char) : Option (Name × List Char) := do
  let (name, r) ← name? s
  let rest ← behind? ['>'] (skipSpaces r)
  return (name, rest)

/-- Whether a text may stand between tags. -/
def isText (s : List Char) : Bool :=
  s.all isXmlChar && (upTo? "]]>".toList [] s).isNone

/-! ## Documents -/

/-- The tokens of the content of some open elements. The first argument bounds the number of steps.
-/
def contentTokens : Nat → Nat → List Char → List Token
  | 0, _, _ => []
  | _ + 1, _, [] => []
  | bound + 1, depth, c :: s =>
    if c ≠ '<' then
      let run := (c :: s).takeWhile (· ≠ '<')
      if isText run then .text run :: contentTokens bound depth ((c :: s).drop run.length)
      else [.broken]
    else
      match skipAside? (c :: s) with
      | some (some rest) => contentTokens bound depth rest
      | some none => [.broken]
      | none =>
        match behind? "![CDATA[".toList s with
        | some r =>
          -- Character data in a section of its own is passed over: it counts as no text.
          match upTo? "]]>".toList [] r with
          | some (_, rest) => contentTokens bound depth rest
          | none => [.broken]
        | none =>
          match behind? ['/'] s with
          | some r =>
            match closingTag? r with
            | some (name, rest) =>
              -- The root element has ended, and what follows is not read.
              .closing name :: if depth ≤ 1 then [] else contentTokens bound (depth - 1) rest
            | none => [.broken]
          | none =>
            match openingTag? s with
            | some (.opening name, rest) => .opening name :: contentTokens bound (depth + 1) rest
            | some (t, rest) => t :: if depth = 0 then [] else contentTokens bound depth rest
            | none => [.broken]

/-- Reads one part of a declaration: its name, an equals sign and a quoted value. -/
def declared? (what : String) (good : List Char → Bool) (s : List Char) : Option (List Char) := do
  let r ← behind? what.toList s
  let (value, rest) ← quoted? (fun _ => true) (← equals? r)
  if good value then return rest else none

/-- Whether a version is one of XML 1. -/
def isVersion (value : List Char) : Bool :=
  match behind? "1.".toList value with
  | some digits => digits.all Char.isDigit
  | none => false

/-- Whether a text can be the name of an encoding. -/
def isEncoding (value : List Char) : Bool :=
  value.all fun c => c.isAlphanum || c = '.' || c = '-' || c = '_'

/-- The end of a part of a declaration: spaces, unless the declaration ends. -/
def partEnd? (s : List Char) : Option (List Char) :=
  if (s.head?.map isSpace).getD true || "?>".toList.isPrefixOf s then some (skipSpaces s) else none

/-- Passes over a declaration behind its start. -/
def skipDeclaration? (s : List Char) : Option (List Char) := do
  let r ← partEnd? (← declared? "version" isVersion (skipSpaces s))
  let r ←
    if "encoding".toList.isPrefixOf r then partEnd? (← declared? "encoding" isEncoding r)
    else some r
  let r ←
    if "standalone".toList.isPrefixOf r then
      declared? "standalone" (fun v => v = "yes".toList || v = "no".toList) r
    else some r
  behind? "?>".toList (skipSpaces r)

/-- Passes over a document type without declarations of its own, behind its start. -/
def skipDocumentType? (s : List Char) : Option (List Char) := do
  if !(s.head?.map isSpace).getD false then none
  let (_, r) ← name? (skipSpaces s)
  behind? ['>'] (skipSpaces r)

/-- The rest from the root element on, past what may stand in front of it. The first argument bounds
the number of steps, the second tells whether a document type may still come. -/
def rootFrom? : Nat → Bool → List Char → Option (List Char)
  | 0, _, _ => none
  | _ + 1, _, [] => none
  | bound + 1, untyped, c :: s =>
    if isSpace c then rootFrom? bound untyped s
    else
      match skipAside? (c :: s) with
      | some (some rest) => rootFrom? bound untyped rest
      | some none => none
      | none =>
        match behind? "<!DOCTYPE".toList (c :: s) with
        | some r =>
          match if untyped then skipDocumentType? r else none with
          | some rest => rootFrom? bound false rest
          | none => none
        | none => if c = '<' ∧ s.head? ≠ some '!' then some (c :: s) else none

/-- A document without a byte order mark and a declaration at its front. -/
def undeclared? (s : List Char) : Option (List Char) :=
  let s := (behind? ['\uFEFF'] s).getD s
  match behind? "<?xml ".toList s with
  | some r => skipDeclaration? r
  | none => some s

/-- The tokens of a document, from its root element on. -/
def tokens (s : List Char) : List Token :=
  match (undeclared? s).bind fun s => rootFrom? (s.length + 1) true s with
  | some r => contentTokens (r.length + 1) 0 r
  | none => [.broken]

end BucketDriver.Xml
