import AccountManager.Text.Split
import AccountManager.Url.Basic

/-!
# Paths

A path is read segment by segment. A segment of one dot stands for nothing, a segment of two dots
takes back the segment before it, and either of them at the end leaves an empty segment there.
-/

namespace AccountManager.Url

/-- Whether a segment is one dot, which may be an escape. -/
def isSingleDot (segment : Segment) : Bool :=
  [".".toList, "%2e".toList].contains (Domain.lower segment)

/-- Whether a segment is two dots, which may be escapes. -/
def isDoubleDot (segment : Segment) : Bool :=
  ["..".toList, ".%2e".toList, "%2e.".toList, "%2e%2e".toList].contains (Domain.lower segment)

def isSeparator (kind : Kind) (character : Char) : Bool :=
  character = '/' || (kind ≠ .plain && character = '\\')

/-- The segments of a text, as they stand there. -/
def splitSegments (kind : Kind) (text : List Char) : List Segment :=
  Text.split '/' (text.map fun character => if isSeparator kind character then '/' else character)

/-- Adds segments to those before them. -/
def addSegments (before : List Segment) : List Segment → List Segment
  | [] => before
  | [last] =>
    if isDoubleDot last then before.dropLast ++ [[]]
    else if isSingleDot last then before ++ [[]]
    else before ++ [escape inPath last]
  | segment :: rest =>
    if isDoubleDot segment then addSegments before.dropLast rest
    else if isSingleDot segment then addSegments before rest
    else addSegments (before ++ [escape inPath segment]) rest

def dropSeparator (kind : Kind) : List Char → List Char
  | [] => []
  | first :: rest => if isSeparator kind first then rest else first :: rest

/-- The path that a text gives: only in a plain address it may be empty, and in a `file` address it
begins with no empty segment. -/
def readPath (kind : Kind) (text : List Char) : Path :=
  let segments := addSegments [] (splitSegments kind (dropSeparator kind text))
  match kind with
  | .special => .segments segments
  | .plain => .segments (if text = [] then [] else segments)
  | .file => .segments (segments.dropLast.dropWhile (· = []) ++ segments.getLast?.toList)

end AccountManager.Url
