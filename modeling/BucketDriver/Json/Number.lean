import BucketDriver.Decimal.Shortest

/-!
# Numbers in JSON

A number without fraction and exponent stays an integer while it fits into sixty-four bits, unsigned
or signed; every other number, negative zero included, is a double. Digits beyond those that fit
into an unsigned word count as zeros.
-/

namespace BucketDriver.Json

open Decimal (Double)

/-- A number as a reader keeps it. -/
inductive Number where
  /-- A natural below `2 ^ 64`. -/
  | natural (n : Nat)
  /-- The negative of a positive number up to `2 ^ 63`. -/
  | negated (n : Nat)
  /-- A double with a sign. -/
  | floating (negative : Bool) (magnitude : Double)
  deriving DecidableEq, Repr

/-- The text of a number. -/
def Number.text : Number → String
  | natural n => Decimal.natText n
  | negated n => "-" ++ Decimal.natText n
  | floating negative d => (if negative then "-" else "") ++ d.text

/-- Whether a number is kept as an integer. -/
def Number.isInteger : Number → Bool
  | floating .. => false
  | _ => true

end BucketDriver.Json
