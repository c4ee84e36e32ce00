/-!
# Timestamps

The form of the timestamps in replies: a date and a time with a capital or a small `T` between them,
an optional fraction of a second, and `Z` or an offset. Only the form and the ranges matter here.
-/

namespace BucketDriver.Aws

/-- The number in a fixed count of digits at the front, and the rest. -/
def digits? : Nat → Nat → List Char → Option (Nat × List Char)
  | 0, n, s => some (n, s)
  | _ + 1, _, [] => none
  | count + 1, n, c :: s =>
    if c.isDigit then digits? count (n * 10 + (c.toNat - 0x30)) s else none

/-- The rest behind a character that must stand at the front. -/
def after? (c : Char) : List Char → Option (List Char)
  | [] => none
  | d :: s => if d = c then some s else none

/-- Whether a year has a twenty-ninth of February. -/
def isLeapYear (year : Nat) : Bool :=
  year % 4 = 0 && (year % 100 ≠ 0 || year % 400 = 0)

/-- The number of days of a month. -/
def daysIn (year month : Nat) : Nat :=
  match month with
  | 2 => if isLeapYear year then 29 else 28
  | 4 | 6 | 9 | 11 => 30
  | _ => 31

/-- Passes over a date. -/
def skipDate? (s : List Char) : Option (List Char) := do
  let (year, s) ← digits? 4 0 s
  let (month, s) ← digits? 2 0 (← after? '-' s)
  let (day, s) ← digits? 2 0 (← after? '-' s)
  if 1 ≤ month ∧ month ≤ 12 ∧ 1 ≤ day ∧ day ≤ daysIn year month then return s else none

/-- Passes over a fraction of a second, if there is one. -/
def skipFraction? (s : List Char) : Option (List Char) :=
  match s with
  | '.' :: c :: r => if c.isDigit then some (r.dropWhile Char.isDigit) else none
  | '.' :: [] => none
  | _ => some s

/-- Passes over a time of day. -/
def skipTime? (s : List Char) : Option (List Char) := do
  let (hour, s) ← digits? 2 0 s
  let (minute, s) ← digits? 2 0 (← after? ':' s)
  let (second, s) ← digits? 2 0 (← after? ':' s)
  if hour < 24 ∧ minute < 60 ∧ second < 60 then skipFraction? s else none

/-- Whether a text is an offset from universal time. -/
def isOffset (s : List Char) : Bool :=
  match s with
  | ['Z'] | ['z'] => true
  | sign :: r =>
    (sign = '+' || sign = '-') &&
      match do
        let (hour, r) ← digits? 2 0 r
        let (minute, r) ← digits? 2 0 (← after? ':' r)
        return (hour, minute, r) with
      | some (hour, minute, r) => hour < 24 && minute < 60 && r.isEmpty
      | none => false
  | [] => false

/-- Whether a text is a timestamp. -/
def isTimestamp (s : String) : Bool :=
  match skipDate? s.toList with
  | some (t :: r) => (t = 'T' || t = 't') && ((skipTime? r).map isOffset).getD false
  | _ => false

end BucketDriver.Aws
