import AccountManager.Json.Value

/-!
# Records in a document

A record is described by its fields: a name, the kind of data it takes, and whether it may be
missing. It is written as an object; read, it is an object with the fields in any order and other
members between them, or an array of the fields in their order. Fields that may be missing keep what
the blank record holds.
-/

namespace AccountManager.Json

inductive Kind
  | text
  | optionalText
  | flag
  | word (description : String)
  deriving Repr, DecidableEq

abbrev Kind.Data : Kind → Type
  | .text => String
  | .optionalText => Option String
  | .flag => Bool
  | .word _ => UInt64

structure Field (α : Type) where
  name : String
  kind : Kind
  required : Bool
  store : kind.Data → α → α

structure Shape (α : Type) where
  name : String
  fields : List (Field α)
  blank : α

/-! ### One field -/

namespace Kind

/-- What a field of this kind is said to expect. -/
def expected : Kind → String
  | .text => "a string"
  | .optionalText => "a string"
  | .flag => "a boolean"
  | .word description => description

def wordOf (description : String) : Number → Except Cause UInt64
  | .unsigned value => .ok value
  | .negative value => .error (.invalidValue (.integer value.toInt) description)
  | .float value => .error (.invalidType (.float value) description)

/-- The data that a value holds for a field. -/
def ofValue : (kind : Kind) → Value → Except Cause kind.Data
  | .text, .text value => .ok value
  | .optionalText, .null => .ok none
  | .optionalText, .text value => .ok (some value)
  | .flag, .bool value => .ok value
  | .word description, .number value => wordOf description value
  | kind, value => .error (.invalidType value.found kind.expected)

end Kind

/-- The complaint about a value of the wrong kind: where it stops if it is a scalar, where it starts
otherwise. -/
def Node.mismatch (node : Node) (expected : String) : Fault :=
  match node with
  | .null stop => ⟨.invalidType .null expected, stop⟩
  | .bool value stop => ⟨.invalidType (.bool value) expected, stop⟩
  | .number numeral stop =>
    match numberAt numeral stop with
    | .ok value => ⟨.invalidType value.found expected, stop⟩
    | .error fault => fault
  | .text inside =>
    match readText inside with
    | .ok (content, after) => ⟨.invalidType (.text content) expected, after.offset⟩
    | .error fault => fault
  | .array start _ => ⟨.invalidType .sequence expected, start⟩
  | .object start _ => ⟨.invalidType .map expected, start⟩
  | .broken gap => gap.wanted

/-- The data that part of a document holds for a field. -/
def Kind.ofNode : (kind : Kind) → Node → Except Fault kind.Data
  | .text, .text inside => (readText inside).map Prod.fst
  | .optionalText, .null _ => .ok none
  | .optionalText, .text inside => (readText inside).map fun (content, _) => some content
  | .flag, .bool value _ => .ok value
  | .word description, .number numeral stop =>
    match numberAt numeral stop with
    | .error fault => .error fault
    | .ok value => (wordOf description value).mapError fun cause => ⟨cause, stop⟩
  | kind, node => .error (node.mismatch kind.expected)

/-! ### Whole records -/

namespace Shape

variable {α : Type}

def field? (shape : Shape α) (name : String) : Option (Field α) :=
  shape.fields.find? fun field => field.name = name

/-- The first field that has to be there and was not seen. -/
def missing? (shape : Shape α) (seen : List String) : Option String :=
  (shape.fields.find? fun field => field.required && !seen.contains field.name).map Field.name

/-- What a record of this shape is said to be. -/
def expected (shape : Shape α) : String := "struct " ++ shape.name

/-- What an array of its fields is said to be. -/
def expectedArray (shape : Shape α) : String :=
  let count := shape.fields.length
  shape.expected ++ " with " ++ toString count ++ (if count = 1 then " element" else " elements")

/-- Reads the members of an object into `record`; `seen` names the fields read so far. -/
def ofMembers (shape : Shape α) (record : α) (seen : List String) :
    Members → Except Fault α
  | .close stop =>
    match shape.missing? seen with
    | some name => .error ⟨.missingField name, stop⟩
    | none => .ok record
  | .broken gap => .error gap.wanted
  | .cons name refusal value rest => do
    let (name, _) ← readText name
    match shape.field? name with
    | none =>
      value.pass
      shape.ofMembers record seen rest
    | some field =>
      if seen.contains name then .error ⟨.duplicateField name, refusal⟩
      else do
        let data ← field.kind.ofNode value
        shape.ofMembers (field.store data record) (name :: seen) rest

/-- What follows the last field of a record that is an array has to be the closing bracket. -/
def endOfItems : Items → Except Fault Unit
  | .close _ => .ok ()
  | .broken ⟨.commaBeforeBracket, offset⟩ => .error ⟨.trailingComma, offset⟩
  | .broken ⟨.plain .endInArray, offset⟩ => .error ⟨.endInArray, offset⟩
  | .broken gap => .error ⟨.trailingCharacters, gap.offset⟩
  | .cons start _ _ => .error ⟨.trailingCharacters, start + 1⟩

/-- Reads the items of an array into the fields that are left, the first of which is number
`position`. -/
def ofItems (shape : Shape α) (record : α) (position : Nat) :
    List (Field α) → Items → Except Fault α
  | [], items => do
    endOfItems items
    .ok record
  | field :: fields, items =>
    match items with
    | .close stop =>
      if field.required then .error ⟨.invalidLength position shape.expectedArray, stop⟩
      else shape.ofItems record (position + 1) fields (.close stop)
    | .broken gap => .error gap.wanted
    | .cons _ item rest => do
      let data ← field.kind.ofNode item
      shape.ofItems (field.store data record) (position + 1) fields rest

def ofDocument (shape : Shape α) (document : Document) : Except Fault α := do
  let record ←
    match document.root with
    | .object _ members => shape.ofMembers shape.blank [] members
    | .array _ items => shape.ofItems shape.blank 0 shape.fields items
    | node => .error (node.mismatch shape.expected)
  match document.trailing with
  | some fault => .error fault
  | none => .ok record

/-- Reads a record from the bytes of a document. -/
def read (shape : Shape α) (bytes : Bytes) : Except Error α :=
  match shape.ofDocument (Document.scan bytes) with
  | .ok record => .ok record
  | .error fault => .error (fault.toError bytes)

/-- Reads a record from the text of a document. -/
def readText (shape : Shape α) (text : String) : Except Error α := shape.read (Utf8.encode text)

def ofMemberValues (shape : Shape α) (record : α) (seen : List String) :
    List (String × Value) → Except Cause α
  | [] =>
    match shape.missing? seen with
    | some name => .error (.missingField name)
    | none => .ok record
  | (name, value) :: rest =>
    match shape.field? name with
    | none => shape.ofMemberValues record seen rest
    | some field =>
      if seen.contains name then .error (.duplicateField name)
      else do
        let data ← field.kind.ofValue value
        shape.ofMemberValues (field.store data record) (name :: seen) rest

/-- Takes the items of an array value that has `size` items in all. -/
def ofItemValues (shape : Shape α) (size : Nat) (record : α) (position : Nat) :
    List (Field α) → List Value → Except Cause α
  | [], [] => .ok record
  | [], _ :: _ => .error (.invalidLength size "fewer elements in array")
  | field :: fields, [] =>
    if field.required then .error (.invalidLength position shape.expectedArray)
    else shape.ofItemValues size record (position + 1) fields []
  | field :: fields, item :: rest => do
    let data ← field.kind.ofValue item
    shape.ofItemValues size (field.store data record) (position + 1) fields rest

def ofValue (shape : Shape α) : Value → Except Cause α
  | .object members => shape.ofMemberValues shape.blank [] members
  | .array items => shape.ofItemValues items.length shape.blank 0 shape.fields items
  | value => .error (.invalidType value.found shape.expected)

end Shape

/-! ### Writing -/

/-- An object with these members in this order, its values already written. -/
def writtenObject (members : List (String × List Char)) : List Char :=
  let written := members.map fun (name, value) => writtenText name ++ ':' :: value
  '{' :: (written.intersperse [',']).flatten ++ ['}']

def writtenWord (value : UInt64) : List Char := (toString value.toNat).toList

def writtenFlag (value : Bool) : List Char := (toString value).toList

end AccountManager.Json
