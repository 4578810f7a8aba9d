import AccountManager.Text.CharacterSet

/-!
# Tables from code points to code points

A table as a sorted run of entries, and the short text such a table is written as. `a=b+c` stands
for one code point, `a-b=c` for a range whose codes move along with it, `a:b=c` for every second
code point of a range, and `a~b=c` for a range with one value; all numbers are hexadecimal.
-/

namespace AccountManager.Text

/-- How the value changes from one code point of an entry to the next. -/
inductive Pace
  | still
  | along
  | everySecond
  deriving Repr, DecidableEq

structure CodeEntry where
  low : Nat
  high : Nat
  pace : Pace
  value : List Nat
  deriving Repr, DecidableEq

structure CodeMap where
  entries : Array CodeEntry

namespace CodeMap

structure Reading where
  done : Array CodeEntry := #[]
  low : Option Nat := none
  high : Option Nat := none
  pace : Pace := .still
  value : List Nat := []
  current : Nat := 0

namespace Reading

def finish (reading : Reading) : Reading :=
  let low := reading.low.getD 0
  { done := reading.done.push
      ⟨low, reading.high.getD low, reading.pace, reading.value ++ [reading.current]⟩ }

/-- The end of the lower bound of a range. -/
def endLow (reading : Reading) (pace : Pace) : Reading :=
  { reading with low := some reading.current, pace, current := 0 }

/-- The end of the code points of an entry. -/
def endCodes (reading : Reading) : Reading :=
  match reading.low with
  | none => { reading with low := some reading.current, current := 0 }
  | some _ => { reading with high := some reading.current, current := 0 }

def step (reading : Reading) (character : Char) : Reading :=
  if character = ' ' then reading.finish
  else if character = '-' then reading.endLow .along
  else if character = ':' then reading.endLow .everySecond
  else if character = '~' then reading.endLow .still
  else if character = '=' then reading.endCodes
  else if character = '+' then
    { reading with value := reading.value ++ [reading.current], current := 0 }
  else
    { reading with current := reading.current * 16 + (CharacterSet.hexDigit? character).getD 0 }

end Reading

def entriesOfLine (line : String) : Array CodeEntry := (line.foldl Reading.step {}).finish.done

def ofLines (lines : List String) : CodeMap :=
  ⟨lines.foldl (fun entries line => entries ++ entriesOfLine line) #[]⟩

/-- Halves the run of `size` entries from `first` on until the one that holds the code is found. -/
def searchFrom (entries : Array CodeEntry) (code : Nat) : Nat → Nat → Nat → Option CodeEntry
  | 0, _, _ => none
  | fuel + 1, first, size =>
    if size = 0 then none
    else
      let middle := first + size / 2
      match entries[middle]? with
      | none => none
      | some entry =>
        if code < entry.low then searchFrom entries code fuel first (size / 2)
        else if entry.high < code then
          searchFrom entries code fuel (middle + 1) (size - size / 2 - 1)
        else some entry

end CodeMap

/-- The value of an entry at a code point of its range, where it has one. -/
def CodeEntry.at? (entry : CodeEntry) (code : Nat) : Option (List Nat) :=
  let distance := code - entry.low
  match entry.pace with
  | .still => some entry.value
  | .along => some (entry.value.map (· + distance))
  | .everySecond =>
    if distance % 2 = 0 then some (entry.value.map (· + distance)) else none

/-- The value of a character; the entries have to be in ascending order. -/
def CodeMap.find? (map : CodeMap) (character : Char) : Option (List Nat) :=
  let code := character.toNat
  (searchFrom map.entries code (map.entries.size + 1) 0 map.entries.size).bind (·.at? code)

end AccountManager.Text
