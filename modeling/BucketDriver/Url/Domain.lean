import BucketDriver.Url.Composition
import BucketDriver.Url.Direction
import BucketDriver.Url.DomainTable
import BucketDriver.Url.Joining
import BucketDriver.Url.Punycode

/-!
# Domain names

`domainLabels?` decides whether characters are a domain name, and gives its labels. Every character
is replaced by what it stands for, and letters are put together with their marks; the result must
not hold a refused character. Its dots, among them the full stops of other scripts, separate the
labels. A label that starts with `xn--` spells another one, which must be such a result itself. A
label must not start with a mark, may hold joiners between letters that join only, and in a name
with letters that run from right to left every label must run one way.
-/

namespace BucketDriver.Url

/-- The ASCII characters that no domain name may hold. -/
def isDenied (c : Char) : Bool :=
  c.toNat ≤ 0x20 || c.toNat = 0x7F || "%#/:<>?@[\\]^|".toList.contains c

/-- The ASCII form of a letter that has a lower case. -/
def lowered (c : Char) : Char :=
  if 'A' ≤ c ∧ c ≤ 'Z' then Char.ofNat (c.toNat + 32) else c

/-- What a character stands for in a domain name, if it may be in one. -/
def mapped? (c : Char) : Option (List Char) :=
  if c.toNat < 0x80 then some [lowered c]
  else match treatmentOf c with
    | .refused => none
    | .ignored => some []
    | .replaced text => some text
    | .kept => some [c]

/-- The labels of a name, its characters replaced by what they stand for and composed. -/
def mappedLabels? (cs : List Char) : Option (List (List Char)) := do
  let text := composed (← cs.mapM mapped?).flatten
  -- Other characters can stand for ASCII ones, so only what they stand for is judged.
  if text.any isDenied then none else some (text.splitOn '.')

/-- Whether a character of a spelled label stands for itself. -/
def standsForItself (c : Char) : Bool :=
  if c.toNat < 0x80 then !isDenied c && lowered c = c else treatmentOf c = .kept

/-- Whether a spelled label is one that some text is mapped to. -/
def isMapped (label : List Char) : Bool :=
  label.all standsForItself && composed label = label

/-- The label that is meant: the spelled one behind `xn--`, else the label itself. -/
def meant? : List Char → Option (List Char)
  | 'x' :: 'n' :: '-' :: '-' :: cs =>
    match Punycode.decode? cs with
    | some label => if isMapped label then some label else none
    | none => none
  | cs => some cs

/-- The joiner that keeps letters apart. -/
def nonJoiner : Char := '\u200c'

/-- The joiner that binds letters. -/
def joiner : Char := '\u200d'

/-- Whether a mark silences the vowel of the letter before it. -/
def isVirama (c : Char) : Bool :=
  classOf c = 9

/-- Whether letters would join across a place, given the characters before it, last first, and those
after it. -/
def joinsAcross (before after : List Char) : Bool :=
  match before.dropWhile (isIn transparent), after.dropWhile (isIn transparent) with
  | b :: _, a :: _ =>
    (isIn dualJoining b || isIn forwardJoining b) && (isIn dualJoining a || isIn backwardJoining a)
  | _, _ => false

/-- Whether every joiner of a label may stand where it does, given the characters before the rest of
the label, last first. -/
def joinersFit : List Char → List Char → Bool
  | _, [] => true
  | before, c :: cs =>
    (if c = joiner then before.head?.any isVirama
      else if c = nonJoiner then before.head?.any isVirama || joinsAcross before cs
      else true) && joinersFit (c :: before) cs

/-- Whether a label starts with a character other than a mark and its joiners fit. -/
def isWellFormed (label : List Char) : Bool :=
  !label.head?.any (isIn marks) && joinersFit [] label

/-- Whether a label has a character that runs from right to left. -/
def isLeftward (label : List Char) : Bool :=
  label.any fun c => match directionOf c with
    | .leftward | .arabicDigit => true
    | _ => false

/-- The directions of a label's characters without the marks at its end, last first. -/
def withoutAttached (directions : List Direction) : List Direction :=
  directions.reverse.dropWhile (· = .attached)

/-- Whether a label in a name with letters that run from right to left runs one way. -/
def runsOneWay (label : List Char) : Bool :=
  let ds := label.map directionOf
  match ds with
  | [] => true
  | .rightward :: _ =>
    -- No letter against the direction, and at the end a letter or a digit with it.
    ds.all (fun d => d ≠ .leftward && d ≠ .arabicDigit) &&
      (withoutAttached ds).head?.any fun d => d = .rightward || d = .digit
  | .leftward :: _ =>
    -- As before, and digits of one kind only.
    ds.all (· ≠ .rightward) && !(ds.contains .digit && ds.contains .arabicDigit) &&
      (withoutAttached ds).head?.any fun d => d = .leftward || d = .digit || d = .arabicDigit
  | _ => false

/-- The labels of a domain name, as they are written in ASCII where they are, if the characters make
one. -/
def domainLabels? (cs : List Char) : Option (List (List Char)) := do
  let labels ← mappedLabels? cs
  let meantLabels ← labels.mapM meant?
  if meantLabels.all isWellFormed &&
      (!meantLabels.any isLeftward || meantLabels.all runsOneWay) then some labels
  else none

end BucketDriver.Url
