import BucketDriver.Text.Digit

/-!
# Numeric addresses

When the host of a URL is a number. A name whose last label is a number is an IPv4 address, of one
to four numbers in decimal, octal or hexadecimal notation, the last of which fills the bytes that
are left. A host in brackets is an IPv6 address: eight groups of up to four hexadecimal digits, one
run of which may be left out, and the last two of which may be written as four decimal bytes.
-/

namespace BucketDriver.Url

/-- The number that a part of an IPv4 address stands for: hexadecimal behind `0x`, octal behind
another leading zero, else decimal. Nothing behind the sign of the notation stands for zero. -/
def addressNumber? : List Char → Option Nat
  | [] => none
  | '0' :: 'x' :: cs => Text.numberOnto? 16 0 cs
  | '0' :: 'X' :: cs => Text.numberOnto? 16 0 cs
  | '0' :: c :: cs => Text.number? 8 (c :: cs)
  | cs => Text.number? 10 cs

/-- The labels of a name without the empty one that a dot at the end makes. -/
def withoutRoot (labels : List (List Char)) : List (List Char) :=
  if labels.getLast? = some [] then labels.dropLast else labels

/-- Whether the last label of a name is a number, so that the name must be an address. -/
def endsInNumber (labels : List (List Char)) : Bool :=
  match (withoutRoot labels).getLast? with
  | none => false
  | some [] => false
  | some label => label.all Char.isDigit || (addressNumber? label).isSome

/-- Whether numbers fill an IPv4 address: each but the last fits into a byte, and the last into the
bytes that are left. -/
def fillsAddress (numbers : List Nat) : Bool :=
  match numbers.reverse with
  | [] => false
  | last :: front => front.length ≤ 3 && last < Nat.pow 256 (4 - front.length) && front.all (· < 256)

/-- Whether the labels of a name make an IPv4 address. -/
def isIpv4 (labels : List (List Char)) : Bool :=
  match (withoutRoot labels).mapM addressNumber? with
  | some numbers => fillsAddress numbers
  | none => false

/-- Whether characters are a decimal byte without leading zeros. -/
def isDecimalByte (cs : List Char) : Bool :=
  cs ≠ [] && cs.all Char.isDigit && (cs.length = 1 || cs.head? ≠ some '0') &&
    (cs.length ≤ 3 && (Text.number? 10 cs).any (· < 256))

/-- Whether characters are four decimal bytes with a dot between any two. -/
def isDottedQuad (cs : List Char) : Bool :=
  let parts := cs.splitOn '.'
  parts.length = 4 && parts.all isDecimalByte

/-- Whether characters continue an IPv6 address of which some groups have been read, one run of
groups having been left out or not. The first argument bounds the number of groups. -/
def continuesIpv6 : Nat → Nat → Bool → List Char → Bool
  | _, groups, shortened, [] => shortened || groups = 8
  | 0, _, _, _ => false
  | bound + 1, groups, shortened, c :: cs =>
    if groups = 8 then false
    else if c = ':' then !shortened && continuesIpv6 bound (groups + 1) true cs
    else
      let digits := ((c :: cs).take 4).takeWhile fun d => (Text.digitValue? d.toNat).isSome
      match (c :: cs).drop digits.length with
      | [] => continuesIpv6 bound (groups + 1) shortened []
      | d :: rest =>
        if d = '.' then
          digits ≠ [] && groups ≤ 6 && isDottedQuad (c :: cs) && (shortened || groups = 6)
        else if d = ':' then rest ≠ [] && continuesIpv6 bound (groups + 1) shortened rest
        else false

/-- Whether characters are an IPv6 address. -/
def isIpv6 : List Char → Bool
  | [] => false
  | [_] => false
  | ':' :: ':' :: cs => continuesIpv6 (cs.length + 1) 1 true cs
  | ':' :: _ => false
  | cs => continuesIpv6 (cs.length + 1) 0 false cs

end BucketDriver.Url
