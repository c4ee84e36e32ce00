import BucketDriver.Text.Percent
import BucketDriver.Url.Address
import BucketDriver.Url.Domain
import BucketDriver.Url.Error

/-!
# Hosts

What may stand as the host of a URL. Schemes of the web know hosts as names and addresses; other
schemes take any characters as a host but a few.
-/

namespace BucketDriver.Url

/-- Whether a host is given at all. -/
inductive Host where
  | absent
  | present
  deriving DecidableEq, Repr

/-- The inside of brackets around a host. -/
def bracketed? : List Char → Option (Except Error (List Char))
  | '[' :: cs => some (if cs.getLast? = some ']' then .ok cs.dropLast else .error .invalidIpv6)
  | _ => none

/-- Judges a host in brackets. -/
def checkBracketed (inside : Except Error (List Char)) : Except Error Host := do
  if isIpv6 (← inside) then return .present else throw .invalidIpv6

/-- Judges the host of a scheme of the web. -/
def checkHost (cs : List Char) : Except Error Host :=
  match bracketed? cs with
  | some inside => checkBracketed inside
  | none =>
    match Text.Utf8.decode? (Text.Percent.decode (Text.Utf8.encodeChars cs)) with
    | none => .error .invalidInternationalDomain
    | some name =>
      match domainLabels? name.toList with
      | none => .error .invalidInternationalDomain
      | some [[]] => .error .emptyHost
      | some labels =>
        -- A name that ends in a number can be nothing but an address.
        if endsInNumber labels && !isIpv4 labels then .error .invalidIpv4 else .ok .present

/-- Whether a character may not stand in the host of any other scheme. -/
def isForbidden (c : Char) : Bool :=
  "\x00\t\n\r #/:<>?@[\\]^|".toList.contains c

/-- Judges the host of any other scheme. -/
def checkOpaqueHost (cs : List Char) : Except Error Host :=
  match bracketed? cs with
  | some inside => checkBracketed inside
  | none =>
    if cs.any isForbidden then .error .invalidDomainCharacter
    else .ok (if cs = [] then .absent else .present)

end BucketDriver.Url
