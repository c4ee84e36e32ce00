/-!
# Punycode

How a label of ASCII letters spells one with other characters: the ASCII characters stand in front
of the last hyphen, and the letters and digits behind it say which other characters go where. Each
of them is a difference from the one before, in a notation of variable length whose digits adapt to
the size of the differences.
-/

namespace BucketDriver.Url.Punycode

/-- The value of a digit: the letters come first. -/
def digit? (c : Char) : Option Nat :=
  if 'a' ≤ c ∧ c ≤ 'z' then some (c.toNat - 0x61)
  else if 'A' ≤ c ∧ c ≤ 'Z' then some (c.toNat - 0x41)
  else if '0' ≤ c ∧ c ≤ '9' then some (c.toNat - 0x30 + 26)
  else none

/-- The threshold of the digit at a place. -/
def threshold (place bias : Nat) : Nat :=
  if place ≤ bias then 1 else if bias + 26 ≤ place then 26 else place - bias

/-- Divides a difference until it is small, counting the divisions. -/
def settleBias (delta place : Nat) : Nat :=
  if h : 455 < delta then settleBias (delta / 35) (place + 36)
  else place + 36 * delta / (delta + 38)
termination_by delta
decreasing_by exact Nat.div_lt_self (by omega) (by decide)

/-- The bias after a difference, the first of a label weighing less. -/
def adapt (delta points : Nat) (first : Bool) : Nat :=
  let d := if first then delta / 700 else delta / 2
  settleBias (d + d / points) 0

/-- The place of a half-read difference. -/
structure Cursor where
  /-- The code point of the last character put in. -/
  point : Nat
  /-- Where the last character went, plus one. -/
  index : Nat
  /-- The index when the difference began. -/
  start : Nat
  /-- The bias of the thresholds. -/
  bias : Nat
  /-- The weight of the next digit. -/
  weight : Nat
  /-- The place of the next digit. -/
  place : Nat

/-- Whether no difference is half read. -/
def Cursor.atRest (c : Cursor) : Bool :=
  c.place = 36

/-- Reads the differences, putting characters into a label. -/
def insertAll (label : List Char) (c : Cursor) : List Char → Option (List Char)
  | [] => if c.atRest then some label else none
  | d :: ds => do
    let v ← digit? d
    let index := c.index + v * c.weight
    let t := threshold c.place c.bias
    -- Differences are words of thirty-two bits.
    if 0xFFFFFFFF < index then none
    else if v < t then
      let size := label.length + 1
      let point := c.point + index / size
      let spot := index % size
      if h : point.isValidChar then
        let bias := adapt (index - c.start) size (c.start = 0)
        let next := spot + 1
        insertAll (label.insertIdx spot (Char.ofNatAux point h)) ⟨point, next, next, bias, 1, 36⟩ ds
      else none
    else insertAll label { c with index, weight := c.weight * (36 - t), place := c.place + 36 } ds

/-- The label that some letters spell. They must spell at least one character that is not ASCII. -/
def decode? (cs : List Char) : Option (List Char) :=
  let tail := (cs.reverse.takeWhile (· ≠ '-')).reverse
  let ascii := cs.take (cs.length - tail.length - 1)
  if tail = [] ∨ !ascii.all (·.toNat < 0x80) then none
  else insertAll ascii ⟨0x80, 0, 0, 72, 1, 36⟩ tail

end BucketDriver.Url.Punycode
