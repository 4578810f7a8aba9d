import AccountManager.Text.Combining
import AccountManager.Text.Invisible

/-!
# Text shown in quotes

How a text or a single character appears in a description meant for people: between quotes, with a
backslash before the quote and the backslash itself, short escapes for the usual controls and a code
point escape for everything that would not show.
-/

namespace AccountManager.Text

/-- The hexadecimal digits of a number, lower case, at least one. -/
def hexadecimal (value : Nat) : String := String.ofList (Nat.toDigits 16 value)

def codePointEscape (character : Char) : String :=
  "\\u\x7b" ++ hexadecimal character.toNat ++ "\x7d"

def isShown (character : Char) : Bool :=
  if character.toNat < 0x7F then 0x20 ≤ character.toNat
  else !combining.contains character && !invisible.contains character

/-- A character inside quotes that are themselves `quote`. -/
def escaped (quote : Char) (character : Char) : String :=
  if character = '\x00' then "\\0"
  else if character = '\t' then "\\t"
  else if character = '\r' then "\\r"
  else if character = '\n' then "\\n"
  else if character = '\\' ∨ character = quote then "\\" ++ character.toString
  else if isShown character then character.toString
  else codePointEscape character

def quoted (text : String) : String :=
  "\"" ++ String.join (text.toList.map (escaped '"')) ++ "\""

def quotedCharacter (character : Char) : String :=
  "'" ++ escaped '\'' character ++ "'"

end AccountManager.Text
