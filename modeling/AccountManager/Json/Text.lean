import AccountManager.Json.Error

/-!
# Texts in a document

The inside of a text, from behind its opening quote. A text is read when its characters are wanted
and passed over when they are not; passing over checks the form of the escapes but not what they
stand for.
-/

namespace AccountManager.Json

/-- A place in a document together with the bytes that follow it. -/
structure Cursor where
  offset : Nat
  rest : Bytes
  deriving Repr, DecidableEq

def byte (character : Char) : UInt8 := UInt8.ofNat character.toNat

def hexUnit? (a b c d : UInt8) : Option Nat := do
  let first ← hexValue? a
  let second ← hexValue? b
  let third ← hexValue? c
  let fourth ← hexValue? d
  some (((first * 16 + second) * 16 + third) * 16 + fourth)
where
  hexValue? (digit : UInt8) : Option Nat := Text.CharacterSet.hexDigit? (Char.ofNat digit.toNat)

def escapedByte? (letter : UInt8) : Option UInt8 :=
  if letter = byte '"' then some 34
  else if letter = byte '\\' then some 92
  else if letter = byte '/' then some 47
  else if letter = byte 'b' then some 8
  else if letter = byte 'f' then some 12
  else if letter = byte 'n' then some 10
  else if letter = byte 'r' then some 13
  else if letter = byte 't' then some 9
  else none

def isHighSurrogate (unit : Nat) : Bool := 0xD800 ≤ unit && unit ≤ 0xDBFF

def isLowSurrogate (unit : Nat) : Bool := 0xDC00 ≤ unit && unit ≤ 0xDFFF

/-- The bytes of the character that a unit or a pair of units stands for. -/
def codePointBytes (code : Nat) : Bytes := String.utf8EncodeChar (Char.ofNat code)

/-- The bytes of a text up to its closing quote, and the place behind that. -/
def readBytes (offset : Nat) : Bytes → Except Fault (Bytes × Cursor)
  | [] => .error ⟨.endInText, offset⟩
  | first :: rest =>
    if first = byte '"' then .ok ([], ⟨offset + 1, rest⟩)
    else if first = byte '\\' then
      match rest with
      | [] => .error ⟨.endInText, offset + 1⟩
      | letter :: rest =>
        if letter = byte 'u' then
          match rest with
          | a :: b :: c :: d :: rest =>
            match hexUnit? a b c d with
            | none => .error ⟨.invalidEscape, offset + 6⟩
            | some unit =>
              if isLowSurrogate unit then .error ⟨.loneSurrogate, offset + 6⟩
              else if isHighSurrogate unit then
                match rest with
                | [] => .error ⟨.endInText, offset + 6⟩
                | mark :: rest =>
                  if mark ≠ byte '\\' then .error ⟨.halfSurrogate, offset + 7⟩
                  else
                    match rest with
                    | [] => .error ⟨.endInText, offset + 7⟩
                    | letter :: rest =>
                      if letter ≠ byte 'u' then .error ⟨.halfSurrogate, offset + 8⟩
                      else
                        match rest with
                        | a :: b :: c :: d :: rest =>
                          match hexUnit? a b c d with
                          | none => .error ⟨.invalidEscape, offset + 12⟩
                          | some low =>
                            if isLowSurrogate low then do
                              let code := (unit - 0xD800) * 0x400 + (low - 0xDC00) + 0x10000
                              let (bytes, after) ← readBytes (offset + 12) rest
                              .ok (codePointBytes code ++ bytes, after)
                            else .error ⟨.loneSurrogate, offset + 12⟩
                        | rest => .error ⟨.endInText, offset + 8 + rest.length⟩
              else do
                let (bytes, after) ← readBytes (offset + 6) rest
                .ok (codePointBytes unit ++ bytes, after)
          | rest => .error ⟨.endInText, offset + 2 + rest.length⟩
        else
          match escapedByte? letter with
          | none => .error ⟨.invalidEscape, offset + 2⟩
          | some escaped => do
            let (bytes, after) ← readBytes (offset + 2) rest
            .ok (escaped :: bytes, after)
    else if first < 0x20 then .error ⟨.controlCharacter, offset + 1⟩
    else do
      let (bytes, after) ← readBytes (offset + 1) rest
      .ok (first :: bytes, after)

/-- The text that begins behind an opening quote. Bytes that are no text are reported at the first
of them. -/
def readText (start : Cursor) : Except Fault (String × Cursor) := do
  let (bytes, after) ← readBytes start.offset start.rest
  match Utf8.decode? bytes with
  | some text => .ok (text, after)
  | none => .error ⟨.invalidCodePoint, start.offset + Utf8.soundLength start.rest + 1⟩

/-- The place behind the closing quote of a text whose characters are not wanted. -/
def passBytes (offset : Nat) : Bytes → Except Fault Cursor
  | [] => .error ⟨.endInText, offset⟩
  | first :: rest =>
    if first = byte '"' then .ok ⟨offset + 1, rest⟩
    else if first = byte '\\' then
      match rest with
      | [] => .error ⟨.endInText, offset + 1⟩
      | letter :: rest =>
        if letter = byte 'u' then
          match rest with
          | a :: b :: c :: d :: rest =>
            match hexUnit? a b c d with
            | none => .error ⟨.invalidEscape, offset + 6⟩
            | some _ => passBytes (offset + 6) rest
          | rest => .error ⟨.endInText, offset + 2 + rest.length⟩
        else
          match escapedByte? letter with
          | none => .error ⟨.invalidEscape, offset + 2⟩
          | some _ => passBytes (offset + 2) rest
    else if first < 0x20 then .error ⟨.controlCharacter, offset⟩
    else passBytes (offset + 1) rest

def passText (start : Cursor) : Except Fault Cursor := passBytes start.offset start.rest

/-! ### Writing -/

def writtenCharacter (character : Char) : List Char :=
  if character = '"' then ['\\', '"']
  else if character = '\\' then ['\\', '\\']
  else if character = '\x08' then ['\\', 'b']
  else if character = '\x0C' then ['\\', 'f']
  else if character = '\n' then ['\\', 'n']
  else if character = '\r' then ['\\', 'r']
  else if character = '\t' then ['\\', 't']
  else if character.toNat < 0x20 then
    let code := character.toNat
    ['\\', 'u', '0', '0', Nat.digitChar (code / 16), Nat.digitChar (code % 16)]
  else [character]

def writtenText (text : String) : List Char :=
  '"' :: text.toList.flatMap writtenCharacter ++ ['"']

end AccountManager.Json
