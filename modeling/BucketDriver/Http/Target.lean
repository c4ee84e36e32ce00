import BucketDriver.Text.Utf8

/-!
# Request targets

The first line of a request names a method and a target. A target is a path with an optional query,
an absolute address in front of these, a lone authority, or a lone asterisk. `pathOf` gives the path
of a target: escapes are not undone, and query and fragment are cut off. A lone authority has the
empty path.
-/

namespace BucketDriver.Http

/-- Why a method or a target cannot be used. -/
inductive LineError where
  | invalidMethod
  | emptyTarget
  | tooLong
  | invalidCharacter
  | invalidAuthority
  | invalidFormat
  | schemeTooLong
  deriving DecidableEq, Repr

/-- The message of an error. -/
def LineError.message : LineError → String
  | invalidMethod => "invalid HTTP method"
  | emptyTarget => "empty string"
  | tooLong => "uri too long"
  | invalidCharacter => "invalid uri character"
  | invalidAuthority => "invalid authority"
  | invalidFormat => "invalid format"
  | schemeTooLong => "scheme too long"

/-- The characters of a method. -/
def isTokenChar (c : Char) : Bool :=
  c.isAlphanum || "!#$%&'*+-.^_`|~".toList.contains c

/-- Checks a method: it is not empty and has the characters of a method only. -/
def checkMethod (method : String) : Except LineError Unit :=
  if method ≠ "" && method.toList.all isTokenChar then .ok () else .error .invalidMethod

/-! ## Paths -/

/-- The characters of a path. The characters from DEL upwards are all allowed, and so are quotes and
braces. -/
def isPathChar (c : Char) : Bool :=
  let n := c.toNat
  n == 0x21 || n == 0x22 || (0x24 ≤ n && n ≤ 0x3B) || n == 0x3D || (0x40 ≤ n && n ≤ 0x5F) ||
    0x61 ≤ n

/-- The characters of a query. -/
def isQueryChar (c : Char) : Bool :=
  let n := c.toNat
  n == 0x21 || (0x24 ≤ n && n ≤ 0x3B) || n == 0x3D || 0x3F ≤ n

/-- Checks a query up to a fragment. -/
def checkQuery (cs : List Char) : Except LineError Unit :=
  if (cs.takeWhile (· ≠ '#')).all isQueryChar then .ok () else .error .invalidCharacter

/-- The path in front of query and fragment; the query is checked, the fragment is not. -/
def splitPath (cs : List Char) : Except LineError (List Char) :=
  let path := cs.takeWhile fun c => c ≠ '?' && c ≠ '#'
  if path.all isPathChar then
    match cs.drop path.length with
    | '?' :: query => (checkQuery query).map fun _ => path
    | _ => .ok path
  else .error .invalidCharacter

/-! ## Authorities -/

/-- The characters of an authority, and a few that end it. -/
def isAddressChar (c : Char) : Bool :=
  c.isAlphanum || "!#$&'()*+,-./:;=?@[]_~".toList.contains c

/-- The most colons between the brackets of an authority, plus one for a port. -/
def maxColons : Nat := 8

/-- What is known of the front of an authority. -/
structure AuthorityScan where
  /-- The colons since the last bracket or at sign. -/
  colons : Nat
  /-- Whether there was an opening bracket. -/
  opened : Bool
  /-- Whether there was a closing bracket. -/
  closed : Bool
  /-- Whether there was a percent sign since the last bracket or at sign. -/
  percent : Bool
  /-- Whether the last character was an at sign. -/
  atSign : Bool
  deriving DecidableEq, Repr

namespace AuthorityScan

/-- Nothing is known. -/
def start : AuthorityScan := ⟨0, false, false, false, false⟩

/-- Takes one more character into account. -/
def next (a : AuthorityScan) (c : Char) : Except LineError AuthorityScan :=
  let a := { a with atSign := c = '@' }
  if c = ':' then
    if maxColons ≤ a.colons then .error .invalidAuthority else .ok { a with colons := a.colons + 1 }
  else if c = '[' then
    if a.percent || a.opened then .error .invalidAuthority else .ok { a with opened := true }
  else if c = ']' then
    if !a.opened || a.closed then .error .invalidAuthority
    else .ok { a with closed := true, colons := 0, percent := false }
  else if c = '@' then .ok { a with colons := 0, percent := false }
  else if c = '%' then .ok { a with percent := true }
  else if isAddressChar c then .ok a
  else .error .invalidCharacter

/-- Whether an authority may end here. -/
def mayEnd (a : AuthorityScan) : Bool :=
  a.opened == a.closed && a.colons ≤ 1 && !a.atSign && !a.percent

end AuthorityScan

/-- The characters that end an authority. -/
def endsAuthority (c : Char) : Bool :=
  c = '/' || c = '?' || c = '#'

/-- Checks the authority at the front of some characters, and gives what stands behind it. -/
def skipAuthority (cs : List Char) : Except LineError (List Char) := do
  let authority := cs.takeWhile fun c => !endsAuthority c
  let a ← authority.foldlM AuthorityScan.next .start
  if a.mayEnd then return cs.drop authority.length else throw .invalidAuthority

/-! ## Schemes -/

/-- The characters of a scheme. -/
def isSchemeChar (c : Char) : Bool :=
  c.isAlphanum || c = '+' || c = '-' || c = '.'

/-- The longest scheme. -/
def maxScheme : Nat := 64

/-- What stands behind the scheme and its two slashes, if there are any. -/
def afterScheme? (cs : List Char) : Except LineError (Option (List Char)) :=
  let scheme := cs.takeWhile isSchemeChar
  match cs.drop scheme.length with
  | ':' :: '/' :: '/' :: rest =>
    if maxScheme < scheme.length then .error .schemeTooLong else .ok (some rest)
  | _ => .ok none

/-! ## Targets -/

/-- The most bytes of a target. -/
def maxTarget : Nat := 65534

/-- The path of a target with an absolute address. -/
def absolutePath (cs : List Char) : Except LineError (List Char) := do
  let rest ← skipAuthority cs
  if rest.length = cs.length then throw .invalidFormat
  let path ← splitPath rest
  return if path = [] then ['/'] else path

/-- The path of a target that does not start with a slash. -/
def otherPath (cs : List Char) : Except LineError (List Char) := do
  match ← afterScheme? cs with
  | some rest => absolutePath rest
  | none =>
    let rest ← skipAuthority cs
    -- A lone authority reaches to the end of the target.
    if rest = [] then return []
    else throw (if cs.length = 1 then .invalidCharacter else .invalidFormat)

/-- The path of a target. -/
def pathOf (target : String) : Except LineError (List Char) :=
  if maxTarget < (Text.Utf8.encode target).length then .error .tooLong
  else match target.toList with
    | [] => .error .emptyTarget
    | ['*'] => .ok ['*']
    | '/' :: rest => splitPath ('/' :: rest)
    | cs => otherPath cs

end BucketDriver.Http
