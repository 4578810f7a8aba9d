import AccountManager.Text.Utf8
import AccountManager.Url.Domain.Label
import AccountManager.Url.Domain.Replaced
import AccountManager.Url.Punycode

/-!
# Domain names

A domain is brought into ASCII: characters are replaced or left out, the text is put in composed
form, and labels that are still outside ASCII are coded. A domain that is in ASCII from the start
and has no coded label is only put in lower case.
-/

namespace AccountManager.Url.Domain

def lower (text : List Char) : List Char := text.map Char.toLower

def isAscii (text : List Char) : Bool := text.all (·.toNat < 0x80)

def codedMark : List Char := "xn--".toList

def isCoded (label : Label) : Bool := codedMark.isPrefixOf (lower label)

/-- The characters that would end a domain or make it unclear. -/
def isForbidden (character : Char) : Bool :=
  character.toNat ≤ 0x20 || character.toNat = 0x7F || "%#/:<>?@[\\]^|".toList.contains character

/-- What a character is replaced by, if it may stand in a domain. -/
def replacement? (character : Char) : Option (List Char) :=
  if dropped.contains character then some []
  else if kept.contains character then some [character]
  else (replaced.find? character).map (·.map Char.ofNat)

/-- The labels of a domain, in their own script. -/
def labels? (domain : List Char) : Option (List Label) := do
  let mapped ← domain.mapM replacement?
  some (Text.split '.' (Text.NormalForm.ofText mapped.flatten))

/-- A label without its coding, if it has one. -/
def uncoded? (label : Label) : Option Label :=
  if isCoded label then do
    let text ← Punycode.decode? (label.drop codedMark.length)
    if isAscii text || isCoded text || Text.NormalForm.ofText text ≠ text then none else some text
  else some label

def coded (label : Label) : Label :=
  if isAscii label then label else codedMark ++ Punycode.encode label

/-- The ASCII form of a domain that is not in ASCII, or has a coded label. -/
def codedDomain? (domain : List Char) : Option (List Char) := do
  let labels ← (← labels? domain).mapM uncoded?
  let isOriented := labels.any isRightToLeft
  let fits (label : Label) : Bool :=
    !label.any isForbidden && (isAscii label || isSound label) &&
      (!isOriented || keepsDirection (label.map Direction.of))
  if labels.all fits then some (['.'].intercalate (labels.map coded)) else none

def toAscii? (domain : List Char) : Option (List Char) :=
  if isAscii domain && !(Text.split '.' domain).any isCoded then
    if domain.any isForbidden then none else some (lower domain)
  else codedDomain? domain

end AccountManager.Url.Domain
