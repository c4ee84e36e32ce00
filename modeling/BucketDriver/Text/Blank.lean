/-!
# Blank text

Blank characters are the characters with the Unicode property White_Space, twenty-five in all, and
`trim` removes them from both ends of a text. Both are the only notion of blankness in this library:
provider codes, parameters, names in requests and options are all judged by it.
-/

namespace BucketDriver.Text

/-- The characters with the property White_Space. Zero-width spaces, the byte order mark and the
information separators are not among them. -/
def isBlankChar (c : Char) : Bool :=
  let n := c.toNat
  (0x09 ≤ n && n ≤ 0x0D) || n == 0x20 || n == 0x85 || n == 0xA0 || n == 0x1680 ||
    (0x2000 ≤ n && n ≤ 0x200A) || n == 0x2028 || n == 0x2029 || n == 0x202F || n == 0x205F ||
    n == 0x3000

/-- The characters of a text without the blank ones at either end. -/
def trimChars (cs : List Char) : List Char :=
  ((cs.dropWhile isBlankChar).reverse.dropWhile isBlankChar).reverse

/-- A text without the blank characters at either end. -/
def trim (s : String) : String :=
  String.ofList (trimChars s.toList)

/-- Whether a text holds nothing but blank characters; the empty text is blank. -/
def isBlank (s : String) : Bool :=
  s.toList.all isBlankChar

/-- The trimmed text, if anything is left of it. -/
def trimmed? (s : String) : Option String :=
  if isBlank s then none else some (trim s)

end BucketDriver.Text
