import AccountManager.Json.Text

/-!
# Numbers in a document

A number without fraction and exponent that fits 64 bits stays an integer; every other one becomes a
binary floating point number. Its first digits, as many as fit 64 bits, are taken as an integer and
scaled by a power of ten in one rounded step.
-/

namespace AccountManager.Json

open Decimal

/-- A number as it is spelled: digits before the point, after it, and of the exponent. -/
structure Numeral where
  negative : Bool
  whole : List Nat
  fraction : List Nat
  exponent : Option (Bool × List Nat)
  deriving Repr, DecidableEq

inductive Number
  | unsigned (value : UInt64)
  | negative (value : Int64)
  | float (value : Binary64)
  deriving Repr, DecidableEq

def Number.found : Number → Found
  | .unsigned value => .integer value.toNat
  | .negative value => .integer value.toInt
  | .float value => .float value

/-- The first bound that 64 bits do not hold. -/
def wordBound : Nat := 18446744073709551616

/-- Takes in digits while the value fits 64 bits: the value, and the digits left over. -/
def takeWord (value : Nat) : List Nat → Nat × List Nat
  | [] => (value, [])
  | digit :: rest =>
    if value * 10 + digit < wordBound then takeWord (value * 10 + digit) rest
    else (value, digit :: rest)

def exponentBound : Nat := 2147483648

/-- The exponent, or how many of its digits were not looked at when it grew too large. -/
def exponentValue (value : Nat) : List Nat → Except Nat Nat
  | [] => .ok value
  | digit :: rest =>
    if value * 10 + digit < exponentBound then exponentValue (value * 10 + digit) rest
    else .error rest.length

/-- The number `10 ^ power`, for a power up to 308. -/
def powerOfTen? (power : Nat) : Option Binary64 :=
  if power ≤ 308 then Binary64.ofNat? (Nat.pow 10 power) else none

/-- Scales a number by a power of ten; nothing if the result is too large. Far below one it is
scaled down by `10 ^ 308` first. -/
def scale? : Nat → Binary64 → Int → Option Binary64
  | 0, value, _ => some value
  | fuel + 1, value, exponent =>
    match powerOfTen? exponent.natAbs with
    | some power => if 0 ≤ exponent then value.multiply? power else value.divide? power
    | none =>
      if value.significand = 0 then some value
      else if 0 ≤ exponent then none
      else
        match powerOfTen? 308 with
        | some power =>
          match value.divide? power with
          | some smaller => scale? fuel smaller (exponent + 308)
          | none => none
        | none => none

/-- A float from its digits and exponent; `none` where it is too large. -/
def floatOf? (negative : Bool) (significand : Nat) (exponent : Int) : Option Binary64 := do
  let value ← Binary64.ofNat? significand
  let scaled ← scale? 16 value exponent
  some (scaled.withSign negative)

namespace Numeral

/-- The digits that count and the exponent that the others leave. -/
def parts (numeral : Numeral) : Nat × Int :=
  let (whole, dropped) := takeWord 0 numeral.whole
  let (significand, unused) := takeWord whole numeral.fraction
  (significand, (dropped.length : Int) - (numeral.fraction.length - unused.length))

def isInteger (numeral : Numeral) : Bool :=
  numeral.fraction.isEmpty && numeral.exponent.isNone

/-- The number, if it is in range; else how many of its last bytes had not been looked at. -/
def value (numeral : Numeral) : Except Nat Number :=
  let (whole, dropped) := takeWord 0 numeral.whole
  if numeral.isInteger && dropped.isEmpty then
    if !numeral.negative then .ok (.unsigned (UInt64.ofNat whole))
    else if 0 < whole ∧ 2 * whole ≤ wordBound then .ok (.negative (Int64.ofInt (-(whole : Int))))
    else
      match floatOf? true whole 0 with
      | some float => .ok (.float float)
      | none => .error 0
  else
    let (significand, shift) := numeral.parts
    match numeral.exponent with
    | none => finished (floatOf? numeral.negative significand shift)
    | some (down, digits) =>
      match exponentValue 0 digits with
      | .ok exponent =>
        let signed : Int := if down then -(exponent : Int) else exponent
        finished (floatOf? numeral.negative significand (shift + signed))
      | .error left =>
        if significand ≠ 0 ∧ !down then .error left
        else .ok (.float ⟨numeral.negative, 0, Binary64.leastExponent⟩)
where
  finished : Option Binary64 → Except Nat Number
    | some float => .ok (.float float)
    | none => .error 0

end Numeral

end AccountManager.Json
