import AccountManager.Text.Hex

/-!
# Escapes in addresses

A character that cannot stand in some part of an address is written as its bytes, each a percent
sign and two hexadecimal digits. Every part has its own set of such characters; an escape that is
already there stays as it is.
-/

namespace AccountManager.Url

/-- The digit for a value below sixteen, as escapes write it. -/
def capitalDigit (value : Nat) : Char :=
  if value < 10 then Char.ofNat (48 + value) else Char.ofNat (55 + value)

def escapeByte (byte : UInt8) : List Char :=
  ['%', capitalDigit (byte.toNat / 16), capitalDigit (byte.toNat % 16)]

def escape (isEscaped : Char → Bool) (text : List Char) : List Char :=
  text.flatMap fun character =>
    if isEscaped character then (Utf8.encode character.toString).flatMap escapeByte else [character]

/-- The bytes that a text with escapes stands for; a percent sign without two digits is itself. -/
def unescape : Bytes → Bytes
  | first :: high :: low :: rest =>
    if first = 37 then
      match Hex.value? high, Hex.value? low with
      | some one, some two => UInt8.ofNat (one * 16 + two) :: unescape rest
      | _, _ => first :: unescape (high :: low :: rest)
    else first :: unescape (high :: low :: rest)
  | bytes => bytes

/-! ### What each part escapes -/

def isControl (character : Char) : Bool := character.toNat < 0x20 || 0x7F ≤ character.toNat

def inFragment (character : Char) : Bool :=
  isControl character || [' ', '"', '<', '>', '`'].contains character

def inPath (character : Char) : Bool :=
  inFragment character || ['#', '?', '\x7b', '\x7d'].contains character

def inUserInfo (character : Char) : Bool :=
  inPath character || ['/', ':', ';', '=', '@', '[', '\\', ']', '^', '|'].contains character

def inQuery (character : Char) : Bool :=
  isControl character || [' ', '"', '#', '<', '>'].contains character

/-- In addresses of the usual schemes a query also escapes the single quote. -/
def inSpecialQuery (character : Char) : Bool := inQuery character || character = '\''

end AccountManager.Url
