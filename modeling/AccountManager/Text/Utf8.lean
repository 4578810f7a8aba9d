/-!
# Text as bytes

Strict reading accepts exactly the bytes of a text. Forgiving reading never fails: it puts U+FFFD in
place of every longest stretch that begins a character and does not finish it.
-/

namespace AccountManager

abbrev Bytes := List UInt8

namespace Utf8

def encode (text : String) : Bytes := text.toUTF8.data.toList

/-- The text with these bytes, if there is one. -/
def decode? (bytes : Bytes) : Option String := String.fromUTF8? ⟨bytes.toArray⟩

theorem decode?_encode (text : String) : decode? (encode text) = some text := by
  simp only [decode?, encode, String.fromUTF8?, String.toUTF8_eq_toByteArray, Array.toArray_toList,
    dif_pos text.isValidUTF8]
  rfl

/-! ### Forgiving reading -/

/-- What is put in place of bytes that are no character. -/
def replacement : Char := '\uFFFD'

/-- A character of which some bytes were read: its bits so far, how many bytes it still needs, and
the range of the next one. -/
structure Unfinished where
  bits : Nat
  needed : Nat
  low : UInt8
  high : UInt8

/-- The first byte of a character: finished at once, unfinished, or no first byte at all. -/
def start (byte : UInt8) : List Char × Option Unfinished :=
  let bits := byte.toNat
  if byte < 0x80 then ([Char.ofNat bits], none)
  else if byte < 0xC2 then ([replacement], none)
  else if byte < 0xE0 then ([], some ⟨bits - 0xC0, 1, 0x80, 0xBF⟩)
  else if byte = 0xE0 then ([], some ⟨0, 2, 0xA0, 0xBF⟩)
  else if byte = 0xED then ([], some ⟨0xD, 2, 0x80, 0x9F⟩)
  else if byte < 0xF0 then ([], some ⟨bits - 0xE0, 2, 0x80, 0xBF⟩)
  else if byte = 0xF0 then ([], some ⟨0, 3, 0x90, 0xBF⟩)
  else if byte < 0xF4 then ([], some ⟨bits - 0xF0, 3, 0x80, 0xBF⟩)
  else if byte = 0xF4 then ([], some ⟨4, 3, 0x80, 0x8F⟩)
  else ([replacement], none)

/-- One more byte, after what was left unfinished. -/
def feed (unfinished : Option Unfinished) (byte : UInt8) : List Char × Option Unfinished :=
  match unfinished with
  | none => start byte
  | some part =>
    if part.low ≤ byte ∧ byte ≤ part.high then
      let bits := part.bits * 64 + (byte.toNat - 0x80)
      if part.needed ≤ 1 then ([Char.ofNat bits], none)
      else ([], some ⟨bits, part.needed - 1, 0x80, 0xBF⟩)
    else
      let (characters, next) := start byte
      (replacement :: characters, next)

def forgivingFrom (unfinished : Option Unfinished) : Bytes → List Char
  | [] => if unfinished.isSome then [replacement] else []
  | byte :: rest =>
    let (characters, next) := feed unfinished byte
    characters ++ forgivingFrom next rest

def decodeForgiving (bytes : Bytes) : String := String.ofList (forgivingFrom none bytes)

/-- How many bytes lie before the first one that begins no finished character; `finished` and `read`
count the bytes of finished characters and all bytes so far. -/
def soundFrom (unfinished : Option Unfinished) (finished read : Nat) : Bytes → Nat
  | [] => finished
  | byte :: rest =>
    match feed unfinished byte with
    | ([], next) => soundFrom next finished (read + 1) rest
    | ([character], none) =>
      if character = replacement ∧ unfinished.isNone then finished
      else soundFrom none (read + 1) (read + 1) rest
    | _ => finished

/-- How many bytes at the beginning are those of a text. -/
def soundLength (bytes : Bytes) : Nat := soundFrom none 0 0 bytes

end Utf8

end AccountManager
