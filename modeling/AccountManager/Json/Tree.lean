import AccountManager.Json.Number

/-!
# The shape of a document

A document is scanned once into a tree that knows where its parts lie. Scanning decides nothing
about the data: texts stay unread, numbers stay spelled, and a document that breaks off or goes
wrong becomes a tree that ends there. What a decoder objects to, and at which place, it finds by
walking the tree in the order of the document.
-/

namespace AccountManager.Json

/-- Why the form of a document goes no further. A few of them are called differently where the data
was not wanted. -/
inductive Flaw
  | plain (cause : Cause)
  | numberCut
  | commaBeforeBracket
  | commaBeforeBrace
  | commaBeforeEnd
  deriving Repr, DecidableEq

/-- The cause to report where the data is wanted. -/
def Flaw.wanted : Flaw → Cause
  | .plain cause => cause
  | .numberCut => .endInValue
  | .commaBeforeBracket => .trailingComma
  | .commaBeforeBrace => .trailingComma
  | .commaBeforeEnd => .endInValue

/-- The cause to report where the data is passed over. -/
def Flaw.passed : Flaw → Cause
  | .plain cause => cause
  | .numberCut => .invalidNumber
  | .commaBeforeBracket => .expectedValue
  | .commaBeforeBrace => .nameNotText
  | .commaBeforeEnd => .endInObject

structure Break where
  flaw : Flaw
  offset : Nat
  deriving Repr, DecidableEq

def Break.wanted (gap : Break) : Fault := ⟨gap.flaw.wanted, gap.offset⟩

def Break.passed (gap : Break) : Fault := ⟨gap.flaw.passed, gap.offset⟩

mutual

/-- One value. Scalars know where they stop, texts and containers where they start. -/
inductive Node
  | null (stop : Nat)
  | bool (value : Bool) (stop : Nat)
  | number (numeral : Numeral) (stop : Nat)
  | text (inside : Cursor)
  | array (start : Nat) (items : Items)
  | object (start : Nat) (members : Members)
  | broken (gap : Break)

/-- The items of an array that are left: each with the place it starts at. -/
inductive Items
  | close (stop : Nat)
  | broken (gap : Break)
  | cons (start : Nat) (item : Node) (rest : Items)

/-- The members of an object that are left: each with the inside of its name, and the place at which
a refusal of the name is reported. -/
inductive Members
  | close (stop : Nat)
  | broken (gap : Break)
  | cons (name : Cursor) (refusal : Nat) (value : Node) (rest : Members)

end

/-- A scanned part, and the place behind it if its form is sound. -/
abbrev Scanned (α : Type) := α × Except Break Cursor

/-! ### Blanks, words and numbers -/

def isBlank (byte : UInt8) : Bool := byte = 32 || byte = 10 || byte = 9 || byte = 13

def skipBlanksFrom (offset : Nat) : Bytes → Cursor
  | [] => ⟨offset, []⟩
  | first :: rest =>
    if isBlank first then skipBlanksFrom (offset + 1) rest else ⟨offset, first :: rest⟩

def Cursor.skipBlanks (cursor : Cursor) : Cursor := skipBlanksFrom cursor.offset cursor.rest

/-- A flaw reported at the next byte, or at the end if there is none. -/
def Cursor.breakAhead (cursor : Cursor) (flaw : Flaw) : Break :=
  ⟨flaw, if cursor.rest.isEmpty then cursor.offset else cursor.offset + 1⟩

def scanWord (offset : Nat) : List UInt8 → Bytes → Except Break Cursor
  | [], rest => .ok ⟨offset, rest⟩
  | _ :: _, [] => .error ⟨.plain .endInValue, offset⟩
  | wanted :: word, first :: rest =>
    if first = wanted then scanWord (offset + 1) word rest
    else .error ⟨.plain .expectedIdentifier, offset + 1⟩

def digit? (byte : UInt8) : Option Nat :=
  if 48 ≤ byte ∧ byte ≤ 57 then some (byte.toNat - 48) else none

def scanDigits (offset : Nat) : Bytes → List Nat × Cursor
  | [] => ([], ⟨offset, []⟩)
  | first :: rest =>
    match digit? first with
    | none => ([], ⟨offset, first :: rest⟩)
    | some digit =>
      let (digits, after) := scanDigits (offset + 1) rest
      (digit :: digits, after)

def opensExponent : Bytes → Bool
  | [] => false
  | first :: _ => first = byte 'e' || first = byte 'E'

/-- The exponent, from behind its letter. -/
def scanExponent (cursor : Cursor) : Except Break ((Bool × List Nat) × Cursor) :=
  let (down, cursor) : Bool × Cursor :=
    match cursor.rest with
    | [] => (false, cursor)
    | first :: rest =>
      if first = byte '+' then (false, ⟨cursor.offset + 1, rest⟩)
      else if first = byte '-' then (true, ⟨cursor.offset + 1, rest⟩)
      else (false, cursor)
  match scanDigits cursor.offset cursor.rest with
  | ([], after) =>
    if after.rest.isEmpty then .error ⟨.numberCut, after.offset⟩
    else .error ⟨.plain .invalidNumber, after.offset + 1⟩
  | (digits, after) => .ok ((down, digits), after)

/-- The fraction, from behind its point; it may not be empty. -/
def scanFraction (cursor : Cursor) : Except Break (List Nat × Cursor) :=
  match scanDigits cursor.offset cursor.rest with
  | ([], after) =>
    if after.rest.isEmpty then .error ⟨.numberCut, after.offset⟩
    else .error ⟨.plain .invalidNumber, after.offset + 1⟩
  | (digits, after) => .ok (digits, after)

/-- The digits before the point: a first zero stands alone. -/
def scanWhole (cursor : Cursor) : Except Break (List Nat × Cursor) :=
  match scanDigits cursor.offset cursor.rest with
  | ([], after) =>
    if after.rest.isEmpty then .error ⟨.numberCut, after.offset⟩
    else .error ⟨.plain .invalidNumber, after.offset + 1⟩
  | (0 :: _ :: _, _) => .error ⟨.plain .invalidNumber, cursor.offset + 2⟩
  | (digits, after) => .ok (digits, after)

def scanNumeral (negative : Bool) (cursor : Cursor) : Except Break (Numeral × Cursor) := do
  let (whole, after) ← scanWhole cursor
  let (fraction, after) ←
    match after.rest with
    | 46 :: rest => scanFraction ⟨after.offset + 1, rest⟩
    | _ => .ok ([], after)
  if opensExponent after.rest then
    let (exponent, after) ← scanExponent ⟨after.offset + 1, after.rest.drop 1⟩
    .ok (⟨negative, whole, fraction, some exponent⟩, after)
  else .ok (⟨negative, whole, fraction, none⟩, after)

/-! ### Values -/

/-- A scalar whose form was checked by `scan`. -/
def scanScalar {α : Type} (scan : Except Break (α × Cursor)) (node : α → Nat → Node) :
    Scanned Node :=
  match scan with
  | .ok (found, after) => (node found after.offset, .ok after)
  | .error gap => (.broken gap, .error gap)

def scanLiteral (cursor : Cursor) (word : String) (node : Nat → Node) : Scanned Node :=
  scanScalar ((scanWord cursor.offset (word.toList.map byte) cursor.rest).map ((), ·))
    fun _ => node

/-- A text whose inside begins at `inside`. -/
def scanText (inside : Cursor) : Except Break Cursor :=
  match passText inside with
  | .ok after => .ok after
  | .error fault => .error ⟨.plain fault.cause, fault.offset⟩

mutual

def scanValue : Nat → Cursor → Scanned Node
  | 0, cursor =>
    let gap := cursor.breakAhead (.plain .endInValue)
    (.broken gap, .error gap)
  | fuel + 1, cursor =>
    let cursor := cursor.skipBlanks
    match cursor.rest with
    | [] =>
      let gap := cursor.breakAhead (.plain .endInValue)
      (.broken gap, .error gap)
    | first :: rest =>
      let inside : Cursor := ⟨cursor.offset + 1, rest⟩
      if first = byte 'n' then scanLiteral inside "ull" .null
      else if first = byte 't' then scanLiteral inside "rue" (.bool true)
      else if first = byte 'f' then scanLiteral inside "alse" (.bool false)
      else if first = byte '-' then scanScalar (scanNumeral true inside) .number
      else if (digit? first).isSome then scanScalar (scanNumeral false cursor) .number
      else if first = byte '"' then (.text inside, scanText inside)
      else if first = byte '[' then
        let (items, after) := scanItems fuel true inside
        (.array cursor.offset items, after)
      else if first = byte '{' then
        let (members, after) := scanMembers fuel true inside
        (.object cursor.offset members, after)
      else
        let gap := cursor.breakAhead (.plain .expectedValue)
        (.broken gap, .error gap)

/-- The items ahead, up to the closing bracket; unless it is the `first`, an item follows a
comma. -/
def scanItems : Nat → Bool → Cursor → Scanned Items
  | 0, _, cursor =>
    let gap := cursor.breakAhead (.plain .endInArray)
    (.broken gap, .error gap)
  | fuel + 1, first, cursor =>
    let cursor := cursor.skipBlanks
    match cursor.rest with
    | [] =>
      let gap := cursor.breakAhead (.plain .endInArray)
      (.broken gap, .error gap)
    | next :: rest =>
      if next = byte ']' then (.close (cursor.offset + 1), .ok ⟨cursor.offset + 1, rest⟩)
      else
        let start : Except Break Cursor :=
          if first then .ok cursor
          else if next = byte ',' then
            let ahead := Cursor.skipBlanks ⟨cursor.offset + 1, rest⟩
            match ahead.rest with
            | [] => .error (ahead.breakAhead (.plain .endInValue))
            | after :: _ =>
              if after = byte ']' then .error (ahead.breakAhead .commaBeforeBracket)
              else .ok ahead
          else .error (cursor.breakAhead (.plain .expectedCommaOrBracket))
        match start with
        | .error gap => (.broken gap, .error gap)
        | .ok start =>
          match scanValue fuel start with
          | (item, .error gap) => (.cons start.offset item (.broken gap), .error gap)
          | (item, .ok after) =>
            let (items, after) := scanItems fuel false after
            (.cons start.offset item items, after)

/-- The members ahead, up to the closing brace; unless it is the `first`, a member follows a
comma. -/
def scanMembers : Nat → Bool → Cursor → Scanned Members
  | 0, _, cursor =>
    let gap := cursor.breakAhead (.plain .endInObject)
    (.broken gap, .error gap)
  | fuel + 1, first, cursor =>
    let cursor := cursor.skipBlanks
    match cursor.rest with
    | [] =>
      let gap := cursor.breakAhead (.plain .endInObject)
      (.broken gap, .error gap)
    | next :: rest =>
      if next = byte '}' then (.close (cursor.offset + 1), .ok ⟨cursor.offset + 1, rest⟩)
      else
        let start : Except Break Cursor :=
          if first then
            if next = byte '"' then .ok ⟨cursor.offset + 1, rest⟩
            else .error (cursor.breakAhead (.plain .nameNotText))
          else if next = byte ',' then
            let ahead := Cursor.skipBlanks ⟨cursor.offset + 1, rest⟩
            match ahead.rest with
            | [] => .error (ahead.breakAhead .commaBeforeEnd)
            | after :: inside =>
              if after = byte '"' then .ok ⟨ahead.offset + 1, inside⟩
              else if after = byte '}' then .error (ahead.breakAhead .commaBeforeBrace)
              else .error (ahead.breakAhead (.plain .nameNotText))
          else .error (cursor.breakAhead (.plain .expectedCommaOrBrace))
        match start with
        | .error gap => (.broken gap, .error gap)
        | .ok name =>
          match scanText name with
          | .error gap => (.cons name gap.offset (.broken gap) (.broken gap), .error gap)
          | .ok behind =>
            let behind := behind.skipBlanks
            match behind.rest with
            | [] =>
              let gap := behind.breakAhead (.plain .endInObject)
              (.cons name behind.offset (.broken gap) (.broken gap), .error gap)
            | mark :: rest =>
              if mark = byte ':' then
                match scanValue fuel ⟨behind.offset + 1, rest⟩ with
                | (value, .error gap) =>
                  (.cons name behind.offset value (.broken gap), .error gap)
                | (value, .ok after) =>
                  let (members, after) := scanMembers fuel false after
                  (.cons name behind.offset value members, after)
              else
                let gap := behind.breakAhead (.plain .expectedColon)
                let refusal := if mark = byte '}' then behind.offset + 1 else behind.offset
                (.cons name refusal (.broken gap) (.broken gap), .error gap)

end

/-- A whole document: its value, and the complaint about what follows it, if anything does. -/
structure Document where
  root : Node
  trailing : Option Fault

def Document.scan (bytes : Bytes) : Document :=
  let (root, after) := scanValue (2 * bytes.length + 2) ⟨0, bytes⟩
  match after with
  | .error _ => ⟨root, none⟩
  | .ok after =>
    let after := after.skipBlanks
    if after.rest.isEmpty then ⟨root, none⟩
    else ⟨root, some ⟨.trailingCharacters, after.offset + 1⟩⟩

/-! ### Passing over -/

mutual

/-- Checks the form of a value whose data is not wanted. -/
def Node.pass : Node → Except Fault Unit
  | .null _ => .ok ()
  | .bool _ _ => .ok ()
  | .number _ _ => .ok ()
  | .text inside => (passText inside).map fun _ => ()
  | .array _ items => items.pass
  | .object _ members => members.pass
  | .broken gap => .error gap.passed

def Items.pass : Items → Except Fault Unit
  | .close _ => .ok ()
  | .broken gap => .error gap.passed
  | .cons _ item rest => do
    item.pass
    rest.pass

def Members.pass : Members → Except Fault Unit
  | .close _ => .ok ()
  | .broken gap => .error gap.passed
  | .cons name _ value rest => do
    let _ ← passText name
    value.pass
    rest.pass

end

end AccountManager.Json
