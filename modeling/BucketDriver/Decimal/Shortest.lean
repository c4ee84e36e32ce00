import BucketDriver.Decimal.Binary

/-!
# Shortest decimals

The decimal text of a double has the fewest digits that read back as the same double. `shortest`
finds them: for one digit, two digits and so on it takes the two neighbours of the value on the
decimal grid with that many digits, and stops at the first grid with a neighbour inside the interval
of reals that round to the double; of two such neighbours it takes the nearer. The ends of the
interval belong to it when the significand is even.

`layout` writes the digits: with a point for values from `1e-5` up to below `1e16`, and with an
exponent otherwise.
-/

namespace BucketDriver.Decimal

/-- Numeral digits with a power of ten: the value `digits * 10 ^ exponent`. -/
structure Numeral where
  /-- The digits, read as a natural. -/
  digits : Nat
  /-- The weight of the last digit, as a power of ten. -/
  exponent : Int
  deriving DecidableEq, Repr

/-- `a * 10 ^ k` and `b * 2 ^ q`, brought to a common denominator. -/
def commonNumerators (a : Nat) (k : Int) (b : Nat) (q : Int) : Nat × Nat :=
  (a * Nat.pow 10 k.toNat * Nat.pow 2 (-q).toNat, b * Nat.pow 2 q.toNat * Nat.pow 10 (-k).toNat)

/-- Whether a decimal lies in the interval of reals that round to a double. -/
def readsBack (d : Double) (x : Numeral) : Bool :=
  -- Below a power of two the doubles lie twice as close, so the interval is shorter on that side.
  let below := if d.significand = Nat.pow 2 52 ∧ -1074 < d.exponent then 1 else 2
  let (x₁, low) := commonNumerators x.digits x.exponent (4 * d.significand - below) (d.exponent - 2)
  let (x₂, high) := commonNumerators x.digits x.exponent (4 * d.significand + 2) (d.exponent - 2)
  if d.significand % 2 = 0 then low ≤ x₁ && x₂ ≤ high else low < x₁ && x₂ < high

/-- The distance of a decimal from a double, over a denominator that depends on the exponents only.
-/
def distance (d : Double) (x : Numeral) : Nat :=
  let (a, b) := commonNumerators x.digits x.exponent d.significand d.exponent
  if a < b then b - a else a - b

/-- The exponent of the leading decimal digit of a positive double. -/
def leadingExponent (d : Double) : Int :=
  ((Nat.toDigits 10 (d.numerator * Nat.pow 10 400 / d.denominator)).length : Int) - 401

/-- The best decimal for a double on the grid with weight `10 ^ k`, if one reads back. -/
def onGrid? (d : Double) (k : Int) : Option Numeral :=
  let floor := d.numerator * Nat.pow 10 (-k).toNat / (d.denominator * Nat.pow 10 k.toNat)
  let low : Numeral := ⟨floor, k⟩
  let high : Numeral := ⟨floor + 1, k⟩
  match readsBack d low, readsBack d high with
  | true, true =>
    some (if distance d low < distance d high then low
      else if distance d high < distance d low then high
      else if floor % 2 = 0 then low else high)
  | true, false => some low
  | false, true => some high
  | false, false => none

/-- The shortest decimal that reads back as a positive double. -/
def shortest (d : Double) : Numeral :=
  let top := leadingExponent d
  match (List.range 17).findSome? fun (n : Nat) => onGrid? d (top - n) with
  | some x => x
  | none =>
    ⟨d.numerator * Nat.pow 10 (16 - top).toNat / (d.denominator * Nat.pow 10 (top - 16).toNat),
      top - 16⟩

/-- The digits of a natural in decimal notation. -/
def natText (n : Nat) : String :=
  String.ofList (Nat.toDigits 10 n)

/-- The digits of an integer in decimal notation, with a sign when it is negative. -/
def intText (z : Int) : String :=
  if z < 0 then "-" ++ natText z.natAbs else natText z.natAbs

/-- A number of zeros. -/
def zeros (n : Nat) : List Char :=
  List.replicate n '0'

/-- The text of a decimal whose last digit is not zero: with a point from `1e-5` up to below `1e16`,
with an exponent and its sign otherwise. -/
def layout (x : Numeral) : String :=
  let ds := Nat.toDigits 10 x.digits
  let lead : Int := x.exponent + (ds.length : Int) - 1
  if lead < -5 ∨ 16 ≤ lead then
    let mantissa := match ds with
      | d :: e :: rest => d :: '.' :: e :: rest
      | _ => ds
    String.ofList mantissa ++ "e" ++ (if lead < 0 then "" else "+") ++ intText lead
  else if lead < 0 then String.ofList ('0' :: '.' :: zeros (-lead - 1).toNat ++ ds)
  else if 0 ≤ x.exponent then String.ofList (ds ++ zeros x.exponent.toNat ++ ['.', '0'])
  else
    let (whole, part) := ds.splitAt (lead.toNat + 1)
    String.ofList (whole ++ '.' :: part)

/-- A decimal without zeros at its end. -/
def stripZeros : Nat → Numeral → Numeral
  | 0, x => x
  | fuel + 1, x =>
    if x.digits ≠ 0 ∧ x.digits % 10 = 0 then stripZeros fuel ⟨x.digits / 10, x.exponent + 1⟩ else x

/-- The text of a double. -/
def Double.text (d : Double) : String :=
  if d.significand = 0 then "0.0" else layout (stripZeros 17 (shortest d))

end BucketDriver.Decimal
