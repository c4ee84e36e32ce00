import BucketDriver.Url.Host

/-!
# URLs

Whether a text is an absolute URL, and with which scheme. Control characters and spaces at the ends
of the text do not count, nor do tabs and line ends anywhere in it. Behind the scheme, the schemes
of the web must have an authority, whatever number of slashes precedes it, and other schemes have
one behind two slashes. An authority is a host with an optional port, perhaps behind credentials.
-/

namespace BucketDriver.Url

/-- What kind of URLs a scheme makes. -/
inductive SchemeKind where
  /-- A scheme of the web, with a host. -/
  | web
  /-- The scheme of local files. -/
  | file
  /-- Any other scheme. -/
  | other
  deriving DecidableEq, Repr

/-- The kind of a scheme. -/
def SchemeKind.of (scheme : String) : SchemeKind :=
  if ["http", "https", "ws", "wss", "ftp"].contains scheme then .web
  else if scheme = "file" then .file
  else .other

/-- The characters of a text that count. -/
def significant (s : String) : List Char :=
  let isEdge (c : Char) : Bool := c.toNat ≤ 0x20
  let core := ((s.toList.dropWhile isEdge).reverse.dropWhile isEdge).reverse
  core.filter fun c => c ≠ '\t' && c ≠ '\n' && c ≠ '\r'

/-- Whether a character may stand in a scheme behind its first letter. -/
def isSchemeChar (c : Char) : Bool :=
  c.isAlphanum || c = '+' || c = '-' || c = '.'

/-- Splits characters into a scheme in lower case and what stands behind its colon. -/
def scheme? (cs : List Char) : Option (String × List Char) :=
  match cs with
  | c :: _ =>
    match cs.span isSchemeChar with
    | (scheme, ':' :: rest) =>
      if c.isAlpha then some (String.ofList (scheme.map lowered), rest) else none
    | _ => none
  | [] => none

/-- Whether a character ends the authority. -/
def endsAuthority (web : Bool) (c : Char) : Bool :=
  c = '/' || c = '?' || c = '#' || (web && c = '\\')

/-- The characters of a host before the colon of its port; colons in brackets belong to the host. -/
def hostLength : Bool → List Char → Nat
  | _, [] => 0
  | inBrackets, c :: cs =>
    if c = ':' ∧ !inBrackets then 0
    else 1 + hostLength (if c = '[' then true else if c = ']' then false else inBrackets) cs

/-- Judges a port behind its colon; a backslash ends it as a slash does. -/
def checkPort (cs : List Char) : Except Error Unit :=
  go 0 cs
where
  /-- Reads digits onto the number of a port. -/
  go (n : Nat) : List Char → Except Error Unit
    | [] => .ok ()
    | c :: cs =>
      if c.isDigit then
        let n := n * 10 + (c.toNat - 0x30)
        if 65535 < n then .error .invalidPort else go n cs
      else if c = '\\' then .ok ()
      else .error .invalidPort

/-- Judges a host with an optional port. -/
def checkHostPort (web : Bool) (cs : List Char) : Except Error Host := do
  let (host, port) := cs.splitAt (hostLength false cs)
  if web ∧ host = [] then throw .emptyHost
  let found ← if web then checkHost host else checkOpaqueHost host
  match port with
  | [] => return found
  | _ :: digits =>
    if found = .absent then throw .emptyHost
    checkPort digits
    return found

/-- The credentials before the last at-sign, if there is one, and what stands behind it. -/
def splitCredentials (cs : List Char) : Option (List Char) × List Char :=
  let behind := (cs.reverse.takeWhile (· ≠ '@')).reverse
  if cs.contains '@' then (some (cs.take (cs.length - behind.length - 1)), behind) else (none, cs)

/-- Judges an authority, given the characters behind its slashes. -/
def checkAuthority (web : Bool) (cs : List Char) : Except Error Unit := do
  let (authority, rest) := cs.span fun c => !endsAuthority web c
  let (credentials, hostPort) := splitCredentials authority
  -- An at-sign with neither credentials nor host, but with a path.
  if credentials = some [] ∧ hostPort = [] ∧ rest ≠ [] then throw .emptyHost
  let found ← checkHostPort web hostPort
  -- Credentials without a name and a password need no host.
  let named : Bool := match credentials with
    | none | some [] | some [':'] => false
    | _ => true
  if found = .absent ∧ named then throw .emptyHost

/-- Whether characters are the letter of a drive. -/
def isDriveLetter : List Char → Bool
  | [c, d] => c.isAlpha && (d = ':' || d = '|')
  | _ => false

/-- Whether a character is a slash of either kind. -/
def isSlash (c : Char) : Bool :=
  c = '/' || c = '\\'

/-- Judges what stands behind the scheme of local files. -/
def checkFile : List Char → Except Error Unit
  | c :: d :: cs =>
    if isSlash c && isSlash d then
      let host := cs.takeWhile fun c => !endsAuthority true c
      if host = [] || isDriveLetter host then .ok ()
      else (checkHost host).map fun _ => ()
    else .ok ()
  | _ => .ok ()

/-- Judges what stands behind a scheme. -/
def checkRest (kind : SchemeKind) (cs : List Char) : Except Error Unit :=
  match kind with
  | .web => checkAuthority true (cs.dropWhile isSlash)
  | .file => checkFile cs
  | .other =>
    match cs with
    | '/' :: '/' :: cs => checkAuthority false cs
    | _ => .ok ()

/-- The scheme of an absolute URL, in lower case. -/
def schemeOf (s : String) : Except Error String :=
  match scheme? (significant s) with
  | none => .error .noScheme
  | some (scheme, rest) => (checkRest (.of scheme) rest).map fun _ => scheme

/-- The scheme of an absolute URL, or what is wrong with a text that is none, in words. -/
def read (s : String) : Except String String :=
  (schemeOf s).mapError Error.message

end BucketDriver.Url
