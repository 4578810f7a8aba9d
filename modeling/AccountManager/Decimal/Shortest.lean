import AccountManager.Decimal.Binary64

/-!
# The shortest decimal that reads back

A binary number is written with the fewest decimal digits that still round to it, the nearest such
digits to its value, and a tie to the even digit. Numbers from `1e-5` up to `1e16` are written
positionally, the others with an exponent of at least two digits and a sign.
-/

namespace AccountManager.Decimal

/-- The number `digits * 10 ^ power`. -/
structure Scientific where
  digits : Nat
  power : Int
  deriving Repr, DecidableEq

def Scientific.fraction (decimal : Scientific) : Nat × Nat :=
  if 0 ≤ decimal.power then (decimal.digits * Nat.pow 10 decimal.power.toNat, 1)
  else (decimal.digits, Nat.pow 10 (-decimal.power).toNat)

namespace Binary64

/-- The reals that round to a positive number, as a fraction of the unit `2 ^ (exponent - 2)`: both
ends, and whether they count. -/
structure Neighbourhood where
  low : Nat
  high : Nat
  exponent : Int
  closed : Bool

def neighbourhood (value : Binary64) : Neighbourhood :=
  let below := if value.significand = leastNormal ∧ leastExponent < value.exponent then 1 else 2
  ⟨4 * value.significand - below, 4 * value.significand + 2, value.exponent - 2,
    value.significand % 2 = 0⟩

/-- Compares `left * 2 ^ exponent` with a decimal. -/
def compareScaled (left : Nat) (exponent : Int) (decimal : Scientific) : Ordering :=
  let (top, bottom) := decimal.fraction
  if 0 ≤ exponent then compare (left * Nat.pow 2 exponent.toNat * bottom) top
  else compare (left * bottom) (top * Nat.pow 2 (-exponent).toNat)

def Neighbourhood.contains (hood : Neighbourhood) (decimal : Scientific) : Bool :=
  let afterLow := compareScaled hood.low hood.exponent decimal
  let beforeHigh := compareScaled hood.high hood.exponent decimal
  (afterLow = .lt || (hood.closed && afterLow = .eq)) &&
    (beforeHigh = .gt || (hood.closed && beforeHigh = .eq))

/-- The power of ten of the first digit: the greatest `k` with `10 ^ k` at most the fraction. -/
def leadingPower (numerator denominator : Nat) : Int :=
  if denominator ≤ numerator then ((Nat.toDigits 10 (numerator / denominator)).length : Int) - 1
  else
    let power := (Nat.toDigits 10 (denominator / numerator)).length
    if numerator * Nat.pow 10 (power - 1) = denominator then 1 - (power : Int) else -(power : Int)

/-- The grid point at or below a fraction, on the grid of `10 ^ power`, and the rest over the grid
as a fraction. -/
def gridBelow (numerator denominator : Nat) (power : Int) : Nat × Nat × Nat :=
  let (top, bottom) :=
    if 0 ≤ power then (numerator, denominator * Nat.pow 10 power.toNat)
    else (numerator * Nat.pow 10 (-power).toNat, denominator)
  (top / bottom, top % bottom, bottom)

/-- Tries grids of ever more digits, at most `tries` of them. -/
def shortestFrom (value : Binary64) (leading : Int) : Nat → Nat → Scientific
  | 0, count =>
    let (top, bottom) := value.fraction
    ⟨(gridBelow top bottom (leading - count + 1)).1, leading - count + 1⟩
  | tries + 1, count =>
    let power := leading - count + 1
    let (top, bottom) := value.fraction
    let (floor, rest, grid) := gridBelow top bottom power
    let hood := value.neighbourhood
    let lower : Scientific := ⟨floor, power⟩
    let upper : Scientific := ⟨floor + 1, power⟩
    match decide (0 < floor) && hood.contains lower, hood.contains upper with
    | true, false => lower
    | false, true => upper
    | true, true =>
      if 2 * rest < grid then lower
      else if grid < 2 * rest then upper
      else if floor % 2 = 0 then lower
      else upper
    | false, false => shortestFrom value leading tries (count + 1)

def shortest (value : Binary64) : Scientific :=
  let (top, bottom) := value.fraction
  shortestFrom value (leadingPower top bottom) 17 1

def dropZeros : Nat → Scientific → Scientific
  | 0, decimal => decimal
  | fuel + 1, decimal =>
    if decimal.digits ≠ 0 ∧ decimal.digits % 10 = 0 then
      dropZeros fuel ⟨decimal.digits / 10, decimal.power + 1⟩
    else decimal

/-- The exponent of the scientific form, with its sign and at least two digits. -/
def exponentText (exponent : Int) : String :=
  let size := exponent.natAbs
  (if exponent < 0 then "-" else "+") ++ (if size < 10 then "0" else "") ++ toString size

/-- A decimal whose first digit stands for `10 ^ leading`. -/
def layOut (digits : List Char) (leading : Int) : String :=
  if -5 ≤ leading ∧ leading ≤ 15 then
    if leading < 0 then
      "0." ++ String.ofList (List.replicate ((-leading).toNat - 1) '0' ++ digits)
    else
      let whole := leading.toNat + 1
      if digits.length ≤ whole then
        String.ofList (digits ++ List.replicate (whole - digits.length) '0') ++ ".0"
      else String.ofList (digits.take whole ++ '.' :: digits.drop whole)
  else
    match digits with
    | [] => "0.0"
    | [digit] => String.ofList [digit, 'e'] ++ exponentText leading
    | digit :: rest => String.ofList (digit :: '.' :: rest) ++ "e" ++ exponentText leading

def text (value : Binary64) : String :=
  let sign := if value.negative then "-" else ""
  if value.significand = 0 then sign ++ "0.0"
  else
    let decimal := dropZeros 20 value.shortest
    let digits := Nat.toDigits 10 decimal.digits
    sign ++ layOut digits (decimal.power + digits.length - 1)

end Binary64

end AccountManager.Decimal
