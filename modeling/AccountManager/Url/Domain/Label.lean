import AccountManager.Text.NormalForm
import AccountManager.Url.Domain.Direction
import AccountManager.Url.Domain.Joining
import AccountManager.Url.Domain.Kept

/-!
# What a label may be

A label does not begin with a mark, holds characters that stay as they are, joins or parts letters
only where that shows, and, in a domain that runs from right to left, keeps to one direction.
-/

namespace AccountManager.Url.Domain

abbrev Label := List Char

/-! ### Joiners -/

def nonJoiner : Char := '\u200C'
def joiner : Char := '\u200D'

/-- A mark that drops the vowel of a letter; a joiner after it chooses the form of the next
letter. -/
def isVirama (character : Char) : Bool := Text.NormalForm.classOf character = 9

/-- The first character that joining looks at satisfies a condition. -/
def seesFirst (holds : Char → Bool) (text : List Char) : Bool :=
  ((text.dropWhile joinedAcross.contains).head?.map holds).getD false

/-- Whether every joiner has a reason; `before` is reversed. -/
def joinersFit (before : List Char) : List Char → Bool
  | [] => true
  | character :: rest =>
    let afterVirama := (before.head?.map isVirama).getD false
    let fits :=
      if character = joiner then afterVirama
      else if character = nonJoiner then
        afterVirama ||
          (seesFirst joinsNext.contains before && seesFirst joinsPrevious.contains rest)
      else true
    fits && joinersFit (character :: before) rest

/-- Whether a label outside ASCII is written in characters that a domain may hold. -/
def isSound (label : Label) : Bool :=
  label.all kept.contains && !(label.head?.map marks.contains).getD false && joinersFit [] label

/-! ### Direction -/

inductive Direction
  | left
  | right
  | arabicNumber
  | europeanNumber
  | neutral
  | mark
  deriving Repr, DecidableEq

def Direction.of (character : Char) : Direction :=
  if rightToLeft.contains character then .right
  else if arabicNumbers.contains character then .arabicNumber
  else if europeanNumbers.contains character then .europeanNumber
  else if Domain.neutral.contains character then .neutral
  else if directionless.contains character then .mark
  else .left

/-- Whether a label makes its domain run from right to left. -/
def isRightToLeft (label : Label) : Bool :=
  let directions := label.map Direction.of
  directions.contains .right || directions.contains .arabicNumber

/-- Whether directions that begin as they do keep to one. -/
def keepsDirection (directions : List Direction) : Bool :=
  let last := (directions.reverse.dropWhile (· = .mark)).head?
  match directions with
  | [] => true
  | .right :: _ =>
    !directions.contains .left &&
      (last = some .right || last = some .europeanNumber || last = some .arabicNumber) &&
      !(directions.contains .europeanNumber && directions.contains .arabicNumber)
  | .left :: _ =>
    !directions.contains .right && !directions.contains .arabicNumber &&
      (last = some .left || last = some .europeanNumber)
  | _ => false

end AccountManager.Url.Domain
