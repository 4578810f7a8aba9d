import AccountManager.Json.Tree

/-!
# Values

A document as data. An object keeps one value for each name, the last one given, in the order of the
names. Arrays and objects nest less than 128 deep.
-/

namespace AccountManager.Json

inductive Value
  | null
  | bool (value : Bool)
  | number (value : Number)
  | text (value : String)
  | array (items : List Value)
  | object (members : List (String × Value))
  deriving Repr

namespace Value

/-- What the value is called when something else was wanted. -/
def found : Value → Found
  | .null => .null
  | .bool value => .bool value
  | .number value => value.found
  | .text value => .text value
  | .array _ => .sequence
  | .object _ => .map

/-- Sets the value of a name, in the order of the names. -/
def insert (name : String) (value : Value) : List (String × Value) → List (String × Value)
  | [] => [(name, value)]
  | (other, held) :: rest =>
    if name < other then (name, value) :: (other, held) :: rest
    else if name = other then (name, value) :: rest
    else (other, held) :: insert name value rest

/-- The value that a name has in an object. -/
def member? (name : String) : Value → Option Value
  | .object members => (members.find? fun member => member.1 = name).map Prod.snd
  | _ => none

/-- The number, if it is an integer that is not negative. -/
def unsigned? : Value → Option UInt64
  | .number (.unsigned value) => some value
  | _ => none

end Value

/-! ### Reading -/

/-- How deep arrays and objects nest at most, counting the first that is refused. -/
def depthLimit : Nat := 128

/-- The number that is spelled at `stop`. -/
def numberAt (numeral : Numeral) (stop : Nat) : Except Fault Number :=
  match numeral.value with
  | .ok number => .ok number
  | .error left => .error ⟨.numberOutOfRange, stop - left⟩

mutual

/-- The data of a value that lies inside `depthLimit - depth` others. -/
def Node.toValue (depth : Nat) : Node → Except Fault Value
  | .null _ => .ok .null
  | .bool value _ => .ok (.bool value)
  | .number numeral stop => (numberAt numeral stop).map .number
  | .text inside => (readText inside).map fun (content, _) => .text content
  | .array start items =>
    match depth with
    | 0 => .error ⟨.tooDeep, start + 1⟩
    | depth + 1 => (items.toValues depth).map .array
  | .object start members =>
    match depth with
    | 0 => .error ⟨.tooDeep, start + 1⟩
    | depth + 1 => (members.toMembers depth []).map .object
  | .broken gap => .error gap.wanted

def Items.toValues (depth : Nat) : Items → Except Fault (List Value)
  | .close _ => .ok []
  | .broken gap => .error gap.wanted
  | .cons _ item rest => do
    let value ← item.toValue depth
    let values ← rest.toValues depth
    .ok (value :: values)

def Members.toMembers (depth : Nat) (seen : List (String × Value)) :
    Members → Except Fault (List (String × Value))
  | .close _ => .ok seen
  | .broken gap => .error gap.wanted
  | .cons name _ member rest => do
    let (name, _) ← readText name
    let value ← member.toValue depth
    rest.toMembers depth (Value.insert name value seen)

end

def Document.toValue (document : Document) : Except Fault Value := do
  let value ← document.root.toValue (depthLimit - 1)
  match document.trailing with
  | some fault => .error fault
  | none => .ok value

def Value.read (bytes : Bytes) : Except Error Value :=
  match (Document.scan bytes).toValue with
  | .ok value => .ok value
  | .error fault => .error (fault.toError bytes)

/-! ### Writing -/

def Number.written : Number → List Char
  | .unsigned value => (toString value.toNat).toList
  | .negative value => (toString value.toInt).toList
  | .float value => value.text.toList

mutual

def Value.written : Value → List Char
  | .null => "null".toList
  | .bool value => (toString value).toList
  | .number value => value.written
  | .text value => writtenText value
  | .array items => '[' :: writtenItems items ++ [']']
  | .object members => '{' :: writtenMembers members ++ ['}']

def writtenItems : List Value → List Char
  | [] => []
  | [item] => item.written
  | item :: rest => item.written ++ ',' :: writtenItems rest

def writtenMembers : List (String × Value) → List Char
  | [] => []
  | [(name, value)] => writtenText name ++ ':' :: value.written
  | (name, value) :: rest => writtenText name ++ ':' :: value.written ++ ',' :: writtenMembers rest

end

def Value.write (value : Value) : String := String.ofList value.written

end AccountManager.Json
