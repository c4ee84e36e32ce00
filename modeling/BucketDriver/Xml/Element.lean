import BucketDriver.Xml.Token

/-!
# XML elements

Elements with what is inside of them, as far as a document can be read: `root?` gives the root
element, and elements that are still open where reading stops are closed there. `elements` and
`data?` are the two ways to look into an element: at the elements in it, or at its text.
-/

namespace BucketDriver.Xml

/-- What can be inside of an element. -/
inductive Node where
  /-- An element with what is inside of it. -/
  | element (name : Name) (inside : List Node)
  /-- A text, still escaped. -/
  | text (s : List Char)
  /-- The place of a fault. -/
  | broken
  deriving Repr

/-- An element that is still open. -/
structure Frame where
  /-- The name of the element. -/
  name : Name
  /-- What is inside so far, last first. -/
  inside : List Node

namespace Frame

/-- The element with one more node inside. -/
def add (f : Frame) (n : Node) : Frame :=
  { f with inside := n :: f.inside }

/-- The element when it is closed. -/
def close (f : Frame) : Node :=
  .element f.name f.inside.reverse

/-- A node at the end of the innermost of some open elements when all of them are closed. -/
def closeOnto (n : Node) : List Frame → Node
  | [] => n
  | f :: fs => closeOnto (f.add n).close fs

/-- The outermost of some open elements, innermost first, when all are closed. -/
def closeAll : List Frame → Option Node
  | [] => none
  | f :: fs => some (closeOnto f.close fs)

end Frame

/-- The root element of some tokens, with the elements that are open in front of them. A closing tag
of another element than the innermost one ends the reading. -/
def build : List Frame → List Token → Option Node
  | stack, [] => Frame.closeAll stack
  | [], .opening name :: ts => build [⟨name, []⟩] ts
  | [], .single name :: _ => some (.element name [])
  | [], _ :: _ => none
  | f :: fs, .opening name :: ts => build (⟨name, []⟩ :: f :: fs) ts
  | f :: fs, .single name :: ts => build (f.add (.element name []) :: fs) ts
  | f :: fs, .text s :: ts => build (f.add (.text s) :: fs) ts
  | f :: fs, .broken :: _ => Frame.closeAll (f.add .broken :: fs)
  | f :: fs, .closing name :: ts =>
    if f.name = name then
      match fs with
      | [] => some f.close
      | g :: gs => build (g.add f.close :: gs) ts
    else Frame.closeAll (f :: fs)

/-- The name of the root element of a document without its qualifier, and what is inside of it. -/
def root? (document : String) : Option (String × List Node) :=
  match build [] (tokens document.toList) with
  | some (.element name inside) => some (name.base, inside)
  | _ => none

/-- The elements among some nodes, by name without qualifier, each with what is inside of it. -/
def elements : List Node → List (String × List Node)
  | [] => []
  | .element name inside :: rest => (name.base, inside) :: elements rest
  | .text _ :: rest | .broken :: rest => elements rest

/-- The text inside of an element: what stands there first must be a text, unless nothing does. -/
def data? : List Node → Option String
  | [] => some ""
  | .text s :: _ => unescape? s
  | .element .. :: _ | .broken :: _ => none

end BucketDriver.Xml
