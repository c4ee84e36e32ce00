/-!
# Doubles

Non-negative binary floating-point numbers of fifty-three digits, as integers `m` and `q` with the
value `m * 2 ^ q`. `ofRatio` rounds a quotient of naturals to the nearest of them, a tie going to
the even significand; the product and the quotient of two doubles are rounded in the same way.
-/

namespace BucketDriver.Decimal

/-- A finite non-negative double: `significand * 2 ^ exponent`. -/
structure Double where
  /-- The binary digits, at most fifty-three. -/
  significand : Nat
  /-- The weight of the last digit, as a power of two; at least `-1074`. -/
  exponent : Int
  deriving DecidableEq, Repr

namespace Double

/-- The number zero. -/
def zero : Double := ⟨0, -1074⟩

/-- The quotient `num / (den * 2 ^ q)`, rounded to the nearest natural, a tie to the even one. -/
def roundAt (num den : Nat) (q : Int) : Nat :=
  let n := num * Nat.pow 2 (-q).toNat
  let d := den * Nat.pow 2 q.toNat
  let t := n / d
  let r := n % d
  if 2 * r < d then t else if d < 2 * r then t + 1 else t + t % 2

/-- The weight of the last binary digit that a quotient of positive naturals keeps. -/
def weight (num den : Nat) : Int :=
  -- The quotient of two numbers with so many binary digits has one digit more or less.
  let guess := max ((num.log2 : Int) - den.log2 - 53) (-1074)
  let t := num * Nat.pow 2 (-guess).toNat / (den * Nat.pow 2 guess.toNat)
  if t < Nat.pow 2 53 then guess else guess + 1

/-- The double nearest to `num / den`, unless that is beyond the greatest one. -/
def ofRatio (num den : Nat) : Option Double :=
  if num = 0 ∨ den = 0 then some zero
  else
    let q := weight num den
    let m := roundAt num den q
    -- Rounding up may have made a digit too many.
    let d : Double := if m = Nat.pow 2 53 then ⟨Nat.pow 2 52, q + 1⟩ else ⟨m, q⟩
    if d.exponent ≤ 971 then some d else none

/-- The numerator of a double's value. -/
def numerator (d : Double) : Nat :=
  d.significand * Nat.pow 2 d.exponent.toNat

/-- The denominator of a double's value. -/
def denominator (d : Double) : Nat :=
  Nat.pow 2 (-d.exponent).toNat

/-- The rounded product. -/
def mul (x y : Double) : Option Double :=
  ofRatio (x.numerator * y.numerator) (x.denominator * y.denominator)

/-- The rounded quotient. -/
def div (x y : Double) : Option Double :=
  ofRatio (x.numerator * y.denominator) (x.denominator * y.numerator)

/-- The double nearest to a natural. -/
def ofNat (n : Nat) : Option Double :=
  ofRatio n 1

/-- The greatest power of ten that is a double is the 308th. -/
def greatestTen : Nat := 308

/-- A double times a power of ten, in one rounded multiplication. -/
def timesTen (x : Double) (n : Nat) : Option Double :=
  if n ≤ greatestTen then (ofNat (Nat.pow 10 n)).bind x.mul
  else if x.significand = 0 then some x else none

/-- A double divided by a power of ten, in as many rounded divisions as its size asks for. -/
def overTen (x : Double) (n : Nat) : Option Double :=
  if n ≤ greatestTen then (ofNat (Nat.pow 10 n)).bind x.div
  else if x.significand = 0 then some x
  else do
    let ten ← ofNat (Nat.pow 10 greatestTen)
    let y ← x.div ten
    overTen y (n - greatestTen)
termination_by n
decreasing_by
  have : 0 < greatestTen := by decide
  omega

/-- The double that some digits and a power of ten stand for. -/
def ofDigits (digits : Nat) (exponent : Int) : Option Double :=
  (ofNat digits).bind fun x =>
    if 0 ≤ exponent then x.timesTen exponent.toNat else x.overTen (-exponent).toNat

end Double

end BucketDriver.Decimal
