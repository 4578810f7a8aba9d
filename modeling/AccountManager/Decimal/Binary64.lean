/-!
# Binary floating point numbers

Finite numbers with 53 significant bits, as an integer times a power of two, and the one rounding
rule behind every operation: to the nearest, a tie to the even significand.
-/

namespace AccountManager.Decimal

/-- The finite number `±significand * 2 ^ exponent`. -/
structure Binary64 where
  negative : Bool
  significand : Nat
  exponent : Int
  deriving Repr, DecidableEq

namespace Binary64

def leastExponent : Int := -1074

/-- The greatest exponent of a number whose significand has 53 bits. -/
def greatestExponent : Int := 971

def leastNormal : Nat := 4503599627370496

/-- A quotient to the nearest integer, a tie to the even one. -/
def divideToEven (numerator denominator : Nat) : Nat :=
  let quotient := numerator / denominator
  let remainder := numerator % denominator
  if 2 * remainder < denominator then quotient
  else if denominator < 2 * remainder then quotient + 1
  else quotient + quotient % 2

/-- `numerator / denominator / 2 ^ exponent` as a fraction of naturals. -/
def scaled (numerator denominator : Nat) (exponent : Int) : Nat × Nat :=
  if 0 ≤ exponent then (numerator, denominator * Nat.pow 2 exponent.toNat)
  else (numerator * Nat.pow 2 (-exponent).toNat, denominator)

/-- The exponent at which a positive fraction has a significand of 53 bits, or the least one. -/
def exponentOf (numerator denominator : Nat) : Int :=
  let estimate : Int := (Nat.log2 numerator : Int) - Nat.log2 denominator - 53
  let (top, bottom) := scaled numerator denominator (estimate + 1)
  let exponent := if top < bottom * leastNormal then estimate else estimate + 1
  max exponent leastExponent

/-- The number nearest to a fraction, or nothing where it is too large. -/
def ofFraction? (negative : Bool) (numerator denominator : Nat) : Option Binary64 :=
  if numerator = 0 then some ⟨negative, 0, leastExponent⟩
  else
    let exponent := exponentOf numerator denominator
    let (top, bottom) := scaled numerator denominator exponent
    let rounded := divideToEven top bottom
    let (significand, exponent) :=
      if rounded = 2 * leastNormal then (leastNormal, exponent + 1) else (rounded, exponent)
    if greatestExponent < exponent then none else some ⟨negative, significand, exponent⟩

def fraction (value : Binary64) : Nat × Nat :=
  if 0 ≤ value.exponent then (value.significand * Nat.pow 2 value.exponent.toNat, 1)
  else (value.significand, Nat.pow 2 (-value.exponent).toNat)

def ofNat? (value : Nat) : Option Binary64 := ofFraction? false value 1

def multiply? (left right : Binary64) : Option Binary64 :=
  let (leftTop, leftBottom) := left.fraction
  let (rightTop, rightBottom) := right.fraction
  ofFraction? (left.negative != right.negative) (leftTop * rightTop) (leftBottom * rightBottom)

def divide? (left right : Binary64) : Option Binary64 :=
  let (leftTop, leftBottom) := left.fraction
  let (rightTop, rightBottom) := right.fraction
  ofFraction? (left.negative != right.negative) (leftTop * rightBottom) (leftBottom * rightTop)

def withSign (value : Binary64) (negative : Bool) : Binary64 := { value with negative }

end Binary64

end AccountManager.Decimal
