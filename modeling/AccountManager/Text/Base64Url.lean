import AccountManager.Text.Utf8

/-!
# Base64 with the URL alphabet, unpadded

Three bytes are written as four symbols, two as three, one as two. Every byte string has exactly one
written form: padding, a lone last symbol and bits that belong to no byte are refused.
-/

namespace AccountManager.Base64Url

inductive DecodeError
  | invalidSymbol (byte : UInt8) (offset : Nat)
  | invalidLastSymbol (byte : UInt8) (offset : Nat)
  | invalidLength (length : Nat)
  | invalidPadding
  deriving Repr, DecidableEq

def DecodeError.message : DecodeError → String
  | .invalidSymbol byte offset =>
    "Invalid symbol " ++ toString byte.toNat ++ ", offset " ++ toString offset ++ "."
  | .invalidLastSymbol byte offset =>
    "Invalid last symbol " ++ toString byte.toNat ++ ", offset " ++ toString offset ++ "."
  | .invalidLength length => "Invalid input length: " ++ toString length
  | .invalidPadding => "Invalid padding"

def symbol (value : Nat) : Char :=
  if value < 26 then Char.ofNat (65 + value)
  else if value < 52 then Char.ofNat (71 + value)
  else if value < 62 then Char.ofNat (value - 4)
  else if value = 62 then '-'
  else '_'

def value? (byte : UInt8) : Option Nat :=
  let code := byte.toNat
  if 65 ≤ code ∧ code ≤ 90 then some (code - 65)
  else if 97 ≤ code ∧ code ≤ 122 then some (code - 71)
  else if 48 ≤ code ∧ code ≤ 57 then some (code + 4)
  else if code = 45 then some 62
  else if code = 95 then some 63
  else none

/-- The padding symbol, which this form does without. -/
def padding : UInt8 := 61

/-! ### Writing -/

def encodeList : Bytes → List Char
  | [] => []
  | [a] => [symbol (a.toNat / 4), symbol (a.toNat % 4 * 16)]
  | [a, b] =>
    [symbol (a.toNat / 4), symbol (a.toNat % 4 * 16 + b.toNat / 16), symbol (b.toNat % 16 * 4)]
  | a :: b :: c :: rest =>
    symbol (a.toNat / 4) :: symbol (a.toNat % 4 * 16 + b.toNat / 16) ::
      symbol (b.toNat % 16 * 4 + c.toNat / 64) :: symbol (c.toNat % 64) :: encodeList rest

def encode (bytes : Bytes) : String := String.ofList (encodeList bytes)

/-! ### Reading -/

def valueAt (offset : Nat) (byte : UInt8) : Except DecodeError Nat :=
  match value? byte with
  | some value => .ok value
  | none => .error (.invalidSymbol byte offset)

def joined (a b c d : Nat) : Bytes :=
  [UInt8.ofNat (a * 4 + b / 16), UInt8.ofNat (b % 16 * 16 + c / 4), UInt8.ofNat (c % 4 * 64 + d)]

/-- The values of the last group of symbols, which is where padding would stand: how many padding
symbols follow the values, and at which place the first of them is. -/
structure Tail where
  values : List Nat
  last : UInt8
  paddings : Nat
  firstPadding : Nat

def readTail (offset : Nat) (index : Nat) (tail : Tail) :
    Bytes → Except DecodeError Tail
  | [] => .ok tail
  | byte :: rest =>
    if byte = padding then
      if index < 2 then .error (.invalidSymbol byte (offset + index))
      else
        let first := if tail.paddings = 0 then index else tail.firstPadding
        readTail offset (index + 1)
          { tail with paddings := tail.paddings + 1, firstPadding := first } rest
    else if 0 < tail.paddings then .error (.invalidSymbol padding (offset + tail.firstPadding))
    else do
      let value ← valueAt (offset + index) byte
      readTail offset (index + 1) { tail with values := tail.values ++ [value], last := byte } rest

/-- Reads the last group, at most four symbols that begin at `offset`. -/
def decodeTail (offset : Nat) (symbols : Bytes) : Except DecodeError Bytes := do
  let tail ← readTail offset 0 ⟨[], 0, 0, 0⟩ symbols
  match tail.values with
  | [] => if symbols.isEmpty then .ok [] else .error (.invalidLength offset)
  | [_] => .error (.invalidLength (offset + 1))
  | [a, b] =>
    if 0 < tail.paddings then .error .invalidPadding
    else if b % 16 = 0 then .ok [UInt8.ofNat (a * 4 + b / 16)]
    else .error (.invalidLastSymbol tail.last (offset + 1))
  | [a, b, c] =>
    if 0 < tail.paddings then .error .invalidPadding
    else if c % 4 = 0 then
      .ok [UInt8.ofNat (a * 4 + b / 16), UInt8.ofNat (b % 16 * 16 + c / 4)]
    else .error (.invalidLastSymbol tail.last (offset + 2))
  | a :: b :: c :: d :: _ => .ok (joined a b c d)

def decodeFrom (offset : Nat) : Bytes → Except DecodeError Bytes
  | a :: b :: c :: d :: e :: rest => do
    let first ← valueAt offset a
    let second ← valueAt (offset + 1) b
    let third ← valueAt (offset + 2) c
    let fourth ← valueAt (offset + 3) d
    let bytes ← decodeFrom (offset + 4) (e :: rest)
    .ok (joined first second third fourth ++ bytes)
  | symbols => decodeTail offset symbols

/-- A last symbol that stands alone and is none of the alphabet is objected to before anything
else. -/
def strayLast (symbols : Bytes) : Option DecodeError :=
  match symbols.length % 4, symbols.getLast? with
  | 1, some byte =>
    if byte ≠ padding ∧ value? byte = none then
      some (.invalidSymbol byte (symbols.length - 1))
    else none
  | _, _ => none

def decodeBytes (symbols : Bytes) : Except DecodeError Bytes :=
  match strayLast symbols with
  | some error => .error error
  | none => decodeFrom 0 symbols

/-- The bytes that a text of symbols stands for. -/
def decode (text : String) : Except DecodeError Bytes := decodeBytes (Utf8.encode text)

end AccountManager.Base64Url
