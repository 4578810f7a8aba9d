import AccountManager.Decimal.Shortest
import AccountManager.Text.Quoted
import AccountManager.Text.Utf8

/-!
# What can be wrong with a document

A document is refused for its form or for the data it holds. Where it was read from bytes the
refusal names a line and a column, both counted in bytes; where it was decoded from a value there is
no place to name.
-/

namespace AccountManager.Json

/-- A piece of data, as it is named when something else was wanted. -/
inductive Found
  | null
  | bool (value : Bool)
  | integer (value : Int)
  | float (value : Decimal.Binary64)
  | text (value : String)
  | sequence
  | map
  deriving Repr, DecidableEq

def Found.description : Found → String
  | .null => "null"
  | .bool value => "boolean `" ++ toString value ++ "`"
  | .integer value => "integer `" ++ toString value ++ "`"
  | .float value => "floating point `" ++ value.text ++ "`"
  | .text value => "string " ++ Text.quoted value
  | .sequence => "sequence"
  | .map => "map"

inductive Cause
  | endInArray
  | endInObject
  | endInText
  | endInValue
  | expectedColon
  | expectedCommaOrBracket
  | expectedCommaOrBrace
  | expectedIdentifier
  | expectedValue
  | invalidEscape
  | invalidNumber
  | numberOutOfRange
  | invalidCodePoint
  | controlCharacter
  | nameNotText
  | loneSurrogate
  | trailingComma
  | trailingCharacters
  | halfSurrogate
  | tooDeep
  | invalidType (found : Found) (expected : String)
  | invalidValue (found : Found) (expected : String)
  | invalidLength (length : Nat) (expected : String)
  | missingField (name : String)
  | duplicateField (name : String)
  deriving Repr, DecidableEq

def Cause.message : Cause → String
  | .endInArray => "EOF while parsing a list"
  | .endInObject => "EOF while parsing an object"
  | .endInText => "EOF while parsing a string"
  | .endInValue => "EOF while parsing a value"
  | .expectedColon => "expected `:`"
  | .expectedCommaOrBracket => "expected `,` or `]`"
  | .expectedCommaOrBrace => "expected `,` or `\x7d`"
  | .expectedIdentifier => "expected ident"
  | .expectedValue => "expected value"
  | .invalidEscape => "invalid escape"
  | .invalidNumber => "invalid number"
  | .numberOutOfRange => "number out of range"
  | .invalidCodePoint => "invalid unicode code point"
  | .controlCharacter => "control character (\\u0000-\\u001F) found while parsing a string"
  | .nameNotText => "key must be a string"
  | .loneSurrogate => "lone leading surrogate in hex escape"
  | .trailingComma => "trailing comma"
  | .trailingCharacters => "trailing characters"
  | .halfSurrogate => "unexpected end of hex escape"
  | .tooDeep => "recursion limit exceeded"
  | .invalidType found expected =>
    "invalid type: " ++ found.description ++ ", expected " ++ expected
  | .invalidValue found expected =>
    "invalid value: " ++ found.description ++ ", expected " ++ expected
  | .invalidLength length expected =>
    "invalid length " ++ toString length ++ ", expected " ++ expected
  | .missingField name => "missing field `" ++ name ++ "`"
  | .duplicateField name => "duplicate field `" ++ name ++ "`"

/-- A cause, and how many bytes of the document lie before the place it is reported at. -/
structure Fault where
  cause : Cause
  offset : Nat
  deriving Repr, DecidableEq

/-- A line, counted from one, and how many bytes of it lie before. -/
structure Place where
  line : Nat
  column : Nat
  deriving Repr, DecidableEq

def newline : UInt8 := 10

/-- The place after the first `offset` bytes of a document. -/
def Place.of (document : Bytes) (offset : Nat) : Place :=
  let before := document.take offset
  ⟨before.count newline + 1, (before.reverse.takeWhile (· ≠ newline)).length⟩

/-- A refusal; what was not read from bytes has no place. -/
structure Error where
  cause : Cause
  place : Option Place
  deriving Repr, DecidableEq

def Error.message (error : Error) : String :=
  match error.place with
  | none => error.cause.message
  | some place =>
    error.cause.message ++ " at line " ++ toString place.line ++ " column " ++
      toString place.column

def Fault.toError (document : Bytes) (fault : Fault) : Error :=
  ⟨fault.cause, some (.of document fault.offset)⟩

end AccountManager.Json
