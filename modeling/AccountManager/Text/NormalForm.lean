import AccountManager.Text.CombiningClass
import AccountManager.Text.Composition

/-!
# Composed normal form

Texts that look alike have one composed form: every character is taken apart, the marks after a
letter are put in the order of their classes, and what has a composed character is put together
again. Syllables of Hangul are composed by arithmetic, everything else by the table.
-/

namespace AccountManager.Text.NormalForm

/-- The class of a mark, and zero for a character that starts something new. -/
def classOf (character : Char) : Nat :=
  ((combiningClasses.find? character).bind List.head?).getD 0

/-! ### Hangul -/

/-- The first code points of syllables, leading consonants, vowels and trailing consonants. -/
def firstSyllable : Nat := 0xAC00
def firstLead : Nat := 0x1100
def firstVowel : Nat := 0x1161
def noTrail : Nat := 0x11A7

/-- How many leading consonants, vowels and trailing consonants there are; the trailing one may be
missing. -/
def leads : Nat := 19
def vowels : Nat := 21
def trails : Nat := 28

def syllableParts? (character : Char) : Option (List Char) :=
  let code := character.toNat
  if firstSyllable ≤ code ∧ code < firstSyllable + leads * vowels * trails then
    let index := code - firstSyllable
    let lead := Char.ofNat (firstLead + index / (vowels * trails))
    let vowel := Char.ofNat (firstVowel + index % (vowels * trails) / trails)
    if index % trails = 0 then some [lead, vowel]
    else some [lead, vowel, Char.ofNat (noTrail + index % trails)]
  else none

/-- The syllable of a consonant and a vowel, or of a syllable and a trailing consonant. -/
def syllable? (first second : Char) : Option Char :=
  let one := first.toNat
  let two := second.toNat
  if firstLead ≤ one ∧ one < firstLead + leads ∧ firstVowel ≤ two ∧ two < firstVowel + vowels then
    some (Char.ofNat
      (firstSyllable + ((one - firstLead) * vowels + (two - firstVowel)) * trails))
  else if firstSyllable ≤ one ∧ one < firstSyllable + leads * vowels * trails ∧
      (one - firstSyllable) % trails = 0 ∧ noTrail < two ∧ two < noTrail + trails then
    some (Char.ofNat (one + (two - noTrail)))
  else none

/-! ### Taking apart -/

/-- Takes the first part of a character apart again, up to `depth` times. -/
def partsFrom : Nat → Char → List Char
  | 0, character => [character]
  | depth + 1, character =>
    match compositions.find? character with
    | some [first, second] => partsFrom depth (Char.ofNat first) ++ [Char.ofNat second]
    | _ => [character]

/-- The parts of a character; no character has more than four. -/
def parts (character : Char) : List Char :=
  (syllableParts? character).getD (partsFrom 3 character)

/-! ### Order of marks -/

/-- Puts a character before others, after the marks of lower classes. -/
def insert (character : Char) : List Char → List Char
  | [] => [character]
  | next :: rest =>
    if 0 < classOf next ∧ classOf next < classOf character then next :: insert character rest
    else character :: next :: rest

def ordered (text : List Char) : List Char := text.foldr insert []

/-! ### Putting together -/

def composed? (first second : Char) : Option Char :=
  match syllable? first second with
  | some syllable => some syllable
  | none =>
    let wanted := [first.toNat, second.toNat]
    (compositions.entries.find? (·.value == wanted)).map fun entry => Char.ofNat entry.low

/-- The text so far: what is finished, the last character that others may be joined to, and the
marks after it. -/
structure Composing where
  done : List Char := []
  base : Option Char := none
  marks : List Char := []

namespace Composing

def all (composing : Composing) : List Char :=
  composing.done ++ composing.base.toList ++ composing.marks

def restart (composing : Composing) (character : Char) : Composing :=
  { done := composing.all, base := some character }

/-- A mark of at least the same class stands between a character and the base. -/
def isBlocked (composing : Composing) (character : Char) : Bool :=
  match composing.marks.getLast? with
  | none => false
  | some mark => classOf character ≤ classOf mark

def step (composing : Composing) (character : Char) : Composing :=
  match composing.base with
  | none =>
    if classOf character = 0 then composing.restart character
    else { composing with done := composing.done ++ [character] }
  | some base =>
    match if composing.isBlocked character then none else composed? base character with
    | some joined => { composing with base := some joined }
    | none =>
      if classOf character = 0 then composing.restart character
      else { composing with marks := composing.marks ++ [character] }

end Composing

def ofText (text : List Char) : List Char :=
  ((ordered (text.flatMap parts)).foldl Composing.step {}).all

end AccountManager.Text.NormalForm
