import AccountManager.Text.Split

/-!
# Labels in ASCII letters

A label with characters outside ASCII is coded as its ASCII characters, a hyphen, and the other
characters in ascending order as distances, in digits of base 36 whose weights adapt to the
distances seen before.
-/

namespace AccountManager.Url.Punycode

def digit (value : Nat) : Char :=
  if value < 26 then Char.ofNat (97 + value) else Char.ofNat (22 + value)

def value? (character : Char) : Option Nat :=
  let code := character.toNat
  if 97 ≤ code ∧ code ≤ 122 then some (code - 97)
  else if 65 ≤ code ∧ code ≤ 90 then some (code - 65)
  else if 48 ≤ code ∧ code ≤ 57 then some (code - 22)
  else none

/-- The smallest value with which a digit is not the last: 1 to 26, growing with its place. -/
def threshold (bias place : Nat) : Nat :=
  if place ≤ bias then 1 else if bias + 26 ≤ place then 26 else place - bias

theorem threshold_pos (bias place : Nat) : 0 < threshold bias place := by
  unfold threshold
  split
  · omega
  · split <;> omega

/-- Divides by 35 until the value is small, counting the places. -/
def shrink (value places : Nat) : Nat × Nat :=
  if 455 < value then shrink (value / 35) (places + 36) else (value, places)
termination_by value
decreasing_by omega

/-- The bias after a distance: `count` characters have been placed, this one included. -/
def adapt (distance count : Nat) (isFirst : Bool) : Nat :=
  let halved := if isFirst then distance / 700 else distance / 2
  let (value, places) := shrink (halved + halved / count) 0
  places + 36 * value / (value + 38)

/-! ### Coding -/

/-- The digits of a distance, from some place on. -/
def distanceDigits (bias place value : Nat) : List Char :=
  let least := threshold bias place
  if value < least then [digit value]
  else
    let above := value - least
    digit (least + above % (36 - least)) :: distanceDigits bias (place + 36) (above / (36 - least))
termination_by value
decreasing_by
  have hpos := threshold_pos bias place
  exact Nat.lt_of_le_of_lt (Nat.div_le_self _ _) (by omega)

/-- What has been coded: its digits, the distance since, the bias, how many characters are placed,
and whether any digits were written. -/
structure Coding where
  digits : List Char := []
  distance : Nat := 0
  bias : Nat := 72
  placed : Nat
  isFirst : Bool := true

/-- Passes one character of the label while those with the code `code` are placed. -/
def Coding.pass (code : Nat) (coding : Coding) (character : Char) : Coding :=
  if character.toNat < code then { coding with distance := coding.distance + 1 }
  else if character.toNat = code then
    { digits := coding.digits ++ distanceDigits coding.bias 36 coding.distance
      distance := 0
      bias := adapt coding.distance (coding.placed + 1) coding.isFirst
      placed := coding.placed + 1
      isFirst := false }
  else coding

/-- Places the characters with the given codes, in their order; the codes below `next` are
placed. -/
def codeFrom (label : List Char) (next : Nat) (coding : Coding) : List Nat → Coding
  | [] => coding
  | code :: codes =>
    let moved := { coding with distance := coding.distance + (code - next) * (coding.placed + 1) }
    let passed := label.foldl (Coding.pass code) moved
    codeFrom label (code + 1) { passed with distance := passed.distance + 1 } codes

def codesOf (label : List Char) : List Nat :=
  ((label.map Char.toNat).filter (0x80 ≤ ·)).mergeSort.eraseReps

def encode (label : List Char) : List Char :=
  let basic := label.filter (·.toNat < 0x80)
  let coding := codeFrom label 0x80 { placed := basic.length } (codesOf label)
  (if basic.isEmpty then [] else basic ++ ['-']) ++ coding.digits

/-! ### Reading -/

/-- Reads the digits of one distance: their value, and what follows them. -/
def readDistance (bias place weight sum : Nat) : List Char → Option (Nat × List Char)
  | [] => none
  | character :: rest =>
    match value? character with
    | none => none
    | some value =>
      let total := sum + value * weight
      let least := threshold bias place
      if value < least then some (total, rest)
      else readDistance bias (place + 36) (weight * (36 - least)) total rest

theorem length_of_readDistance {bias place weight sum total : Nat} {text rest : List Char}
    (hread : readDistance bias place weight sum text = some (total, rest)) :
    rest.length < text.length := by
  induction text generalizing place weight sum with
  | nil => simp [readDistance] at hread
  | cons character tail ih =>
    unfold readDistance at hread
    split at hread
    · cases hread
    · simp only at hread
      split at hread
      · simp only [Option.some.injEq, Prod.mk.injEq] at hread
        simp [hread.2]
      · have := ih hread
        simp only [List.length_cons]
        omega

/-- Puts the characters that some digits stand for into a label; `position` is where the last one
went, and `code` its code. -/
def placeFrom (bias code position : Nat) (isFirst : Bool) (label text : List Char) :
    Option (List Char) :=
  match text with
  | [] => some label
  | first :: tail =>
    match hread : readDistance bias 36 1 position (first :: tail) with
    | none => none
    | some (total, rest) =>
      let size := label.length + 1
      let next := code + total / size
      if next.isValidChar then
        let place := total % size
        placeFrom (adapt (total - position) size isFirst) next (place + 1) false
          (label.insertIdx place (Char.ofNat next)) rest
      else none
termination_by text.length
decreasing_by
  have := length_of_readDistance hread
  simpa using this

/-- The ASCII characters of a coded label and its digits, on either side of its last hyphen. -/
def splitBasic (text : List Char) : List Char × List Char :=
  match Text.splitLast? '-' text with
  | some (first :: rest, digits) => (first :: rest, digits)
  | _ => ([], text)

/-- The label that a text in ASCII stands for. -/
def decode? (text : List Char) : Option (List Char) :=
  let (basic, digits) := splitBasic text
  if text.all (·.toNat < 0x80) then placeFrom 72 0x80 0 true basic digits else none

end AccountManager.Url.Punycode
