import AccountManager.Text.Quoted
import AccountManager.Text.Utf8

/-!
# Hexadecimal bytes

Bytes are written as two lower-case digits each. Reading takes either case, wants an even number of
digits and names the first byte that is no digit.
-/

namespace AccountManager.Hex

inductive DecodeError
  | oddLength
  | invalidDigit (byte : UInt8) (position : Nat)
  deriving Repr, DecidableEq

/-- A byte that is no digit is shown as the character with that code point. -/
def DecodeError.message : DecodeError → String
  | .oddLength => "Odd number of digits"
  | .invalidDigit byte position =>
    "Invalid character " ++ Text.quotedCharacter (Char.ofNat byte.toNat) ++ " at position " ++
      toString position

def digit (value : Nat) : Char :=
  if value < 10 then Char.ofNat (48 + value) else Char.ofNat (87 + value)

def encodeList : Bytes → List Char
  | [] => []
  | byte :: rest => digit (byte.toNat / 16) :: digit (byte.toNat % 16) :: encodeList rest

def encode (bytes : Bytes) : String := String.ofList (encodeList bytes)

def value? (byte : UInt8) : Option Nat :=
  let code := byte.toNat
  if 48 ≤ code ∧ code ≤ 57 then some (code - 48)
  else if 97 ≤ code ∧ code ≤ 102 then some (code - 87)
  else if 65 ≤ code ∧ code ≤ 70 then some (code - 55)
  else none

def decodePairs (position : Nat) : Bytes → Except DecodeError Bytes
  | [] => .ok []
  | [_] => .error .oddLength
  | high :: low :: rest =>
    match value? high, value? low with
    | none, _ => .error (.invalidDigit high position)
    | some _, none => .error (.invalidDigit low (position + 1))
    | some first, some second => do
      let bytes ← decodePairs (position + 2) rest
      .ok (UInt8.ofNat (first * 16 + second) :: bytes)

def decodeBytes (digits : Bytes) : Except DecodeError Bytes :=
  if digits.length % 2 = 0 then decodePairs 0 digits else .error .oddLength

/-- The bytes that a text of digits stands for. -/
def decode (text : String) : Except DecodeError Bytes := decodeBytes (Utf8.encode text)

end AccountManager.Hex
