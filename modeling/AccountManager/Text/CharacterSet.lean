/-!
# Sets of characters

A set of code points as a sorted run of ranges, and the short text such a set is written as: ranges
in hexadecimal, ends included, separated by blanks.
-/

namespace AccountManager.Text

/-- Code points `low` to `high`, both included. -/
structure CodeRange where
  low : Nat
  high : Nat
  deriving Repr, DecidableEq

structure CharacterSet where
  ranges : Array CodeRange

namespace CharacterSet

def hexDigit? (digit : Char) : Option Nat :=
  let code := digit.toNat
  if '0'.toNat ≤ code ∧ code ≤ '9'.toNat then some (code - '0'.toNat)
  else if 'a'.toNat ≤ code ∧ code ≤ 'f'.toNat then some (code - 'a'.toNat + 10)
  else if 'A'.toNat ≤ code ∧ code ≤ 'F'.toNat then some (code - 'A'.toNat + 10)
  else none

/-- What the reader of ranges has seen since the last blank. -/
private structure Reading where
  done : Array CodeRange
  low : Option Nat
  current : Nat

private def Reading.finish (reading : Reading) : Array CodeRange :=
  reading.done.push ⟨reading.low.getD reading.current, reading.current⟩

private def Reading.step (reading : Reading) (character : Char) : Reading :=
  if character = ' ' then ⟨reading.finish, none, 0⟩
  else if character = '-' then { reading with low := some reading.current, current := 0 }
  else { reading with current := reading.current * 16 + (hexDigit? character).getD 0 }

def rangesOfLine (line : String) : Array CodeRange :=
  (line.foldl Reading.step ⟨#[], none, 0⟩).finish

def ofLines (lines : List String) : CharacterSet :=
  ⟨lines.foldl (fun ranges line => ranges ++ rangesOfLine line) #[]⟩

/-- Halves the part `from`, `size` of the ranges until one range is left. -/
private def searchFrom (ranges : Array CodeRange) (code : Nat) : Nat → Nat → Nat → Bool
  | 0, _, _ => false
  | fuel + 1, first, size =>
    if size = 0 then false
    else
      let middle := first + size / 2
      match ranges[middle]? with
      | none => false
      | some range =>
        if code < range.low then searchFrom ranges code fuel first (size / 2)
        else if range.high < code then
          searchFrom ranges code fuel (middle + 1) (size - size / 2 - 1)
        else true

/-- Whether a character is in the set; the ranges have to be in ascending order. -/
def contains (set : CharacterSet) (character : Char) : Bool :=
  searchFrom set.ranges character.toNat (set.ranges.size + 1) 0 set.ranges.size

end CharacterSet

end AccountManager.Text
