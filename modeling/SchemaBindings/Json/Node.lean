import SchemaBindings.Json.Number
import SchemaBindings.Text

namespace SchemaBindings.Json

-- What is wrong, to a reader that wants the value there and to one that only passes over it.
structure Fault where
  reading : Error
  passing : Error
  deriving DecidableEq, Repr

def Fault.same (problem : Problem) (spot : Spot) : Fault := ⟨⟨problem, spot⟩, ⟨problem, spot⟩⟩

-- A number or a string may be well formed and still have no value that can be read.
inductive Scalar where
  | null
  | bool (b : Bool)
  | number (n : Except Error Number)
  | string (s : Except Error String)

inductive Part where
  | value
  | items
  | members

-- Values, the items of a list and the members of an object form one family, so that one recursion
-- goes over all three. Where the text breaks off the tree ends in the fault, and a reader meets it
-- only when it comes to that place.
inductive Node : Part → Type where
  | scalar (start stop : Spot) (content : Scalar) : Node .value
  | list (start : Spot) (items : Node .items) : Node .value
  | object (start : Spot) (members : Node .members) : Node .value
  -- No value stands here, but the character `here` does, unless the text ends.
  | broken (start : Spot) (here : Option Char) (fault : Fault) : Node .value
  | itemsEnd (stop : Spot) : Node .items
  | item (value : Node .value) (rest : Node .items) : Node .items
  -- Neither a comma nor the end follows an item.
  | noItem (fault : Fault) : Node .items
  | membersEnd (stop : Spot) : Node .members
  -- `settled` lies behind the key, the blanks after it, and a closing brace that stands there;
  -- `next` lies behind the value and the blanks after it.
  | member (key : Except Error String) (settled : Spot) (value : Node .value) (next : Spot)
      (rest : Node .members) : Node .members
  -- A key without a colon.
  | unpaired (key : Except Error String) (settled : Spot) (fault : Fault) : Node .members
  -- No key where one was due, with the value that stands there instead.
  | noMember (found : Node .value) (fault : Fault) : Node .members

namespace Node

-- The first fault for a reader that passes over this part without looking at what it says.
def passingFault : {p : Part} → Node p → Option Error
  | _, .scalar _ _ _ => none
  | _, .list _ items => items.passingFault
  | _, .object _ members => members.passingFault
  | _, .broken _ _ fault => some fault.passing
  | _, .itemsEnd _ => none
  | _, .item value rest => value.passingFault.or rest.passingFault
  | _, .noItem fault => some fault.passing
  | _, .membersEnd _ => none
  | _, .member _ _ value _ rest => value.passingFault.or rest.passingFault
  | _, .unpaired _ _ fault => some fault.passing
  | _, .noMember _ fault => some fault.passing

-- Points at the first byte of a value.
def peek : Node .value → Spot
  | .scalar start _ _ => start.along 1
  | .list start _ => start.along 1
  | .object start _ => start.along 1
  | .broken start here _ => start.peek here.toList

end Node

-- A whole text: its value, and where something else follows it.
structure Document where
  root : Node .value
  trailing : Option Spot

-- The number is how many brackets may still be opened.
abbrev Reader (α : Type) := Nat → Node .value → Except Error α

def wrongType (wanted : String) : Node .value → Error
  | .scalar _ stop content =>
    match content with
    | .null => ⟨.invalidType .null wanted, stop⟩
    | .bool b => ⟨.invalidType (.bool b) wanted, stop⟩
    | .number (.ok n) => ⟨.invalidType n.found wanted, stop⟩
    | .number (.error error) => error
    | .string (.ok s) => ⟨.invalidType (.string (Text.Quoted.encode s)) wanted, stop⟩
    | .string (.error error) => error
  | .list start _ => ⟨.invalidType .sequence wanted, start⟩
  | .object start _ => ⟨.invalidType .map wanted, start⟩
  | .broken _ _ fault => fault.reading

def readText : Reader String
  | _, .scalar _ _ (.string content) => content
  | _, node => .error (wrongType "a string" node)

def readBool : Reader Bool
  | _, .scalar _ _ (.bool b) => .ok b
  | _, node => .error (wrongType "a boolean" node)

def readUnit : Reader Unit
  | _, .scalar _ _ .null => .ok ()
  | _, node => .error (wrongType "unit" node)

def orNull (reader : Reader α) : Reader (Option α)
  | _, .scalar _ _ .null => .ok none
  | depth, node => (reader depth node).map some

-- Opens a bracket and reads on with what is left of the depth.
def entering (depth : Nat) (start : Spot) (inside : Nat → Except Error α) : Except Error α :=
  match depth with
  | left + 2 => inside (left + 1)
  | _ => .error ⟨.tooDeep, start.along 1⟩

def readItems (reader : Node .value → Except Error α) : Node .items → Except Error (List α)
  | .itemsEnd _ => .ok []
  | .item value rest => do
    let first ← reader value
    let others ← readItems reader rest
    return first :: others
  | .noItem fault => .error fault.reading

def readList (reader : Reader α) : Reader (List α)
  | depth, .list start items => entering depth start fun left => readItems (reader left) items
  | _, node => .error (wrongType "a sequence" node)

-- A record that is being read: its name, its fields in order, and those of them that the end of a
-- list may leave out.
structure Shape where
  name : String
  fields : List String
  omissible : List String := []

def Shape.wanted (shape : Shape) : String := "struct " ++ shape.name

def Shape.wantedLength (shape : Shape) : String :=
  let count := shape.fields.length
  shape.wanted ++ " with " ++ toString count ++ if count = 1 then " element" else " elements"

-- What follows the last field of a record in list form, other than the end of the list.
def surplus : Node .items → Error
  | .item (.broken start here fault) _ =>
    if fault.reading.problem = .trailingComma then fault.reading
    else ⟨.trailingText, start.peek here.toList⟩
  | .item value _ => ⟨.trailingText, value.peek⟩
  | .noItem fault =>
    if fault.reading.problem = .endInList then fault.reading
    else ⟨.trailingText, fault.reading.spot⟩
  | .itemsEnd stop => ⟨.trailingText, stop⟩

-- A draft collects the fields that have been read; `put` reads one of them by its name.
abbrev Put (σ : Type) := String → Node .value → σ → Except Error σ

def readListed (shape : Shape) (put : Put σ) (index : Nat) (draft : σ) :
    List String → Node .items → Except Error (σ × Spot)
  | [], .itemsEnd stop => .ok (draft, stop)
  | [], items => .error (surplus items)
  | field :: fields, .item value rest => do
    let next ← put field value draft
    readListed shape put (index + 1) next fields rest
  | field :: fields, .itemsEnd stop =>
    if shape.omissible.contains field then
      readListed shape put (index + 1) draft fields (.itemsEnd stop)
    else .error ⟨.invalidLength index shape.wantedLength, stop⟩
  | _ :: _, .noItem fault => .error fault.reading

def readNamed (shape : Shape) (put : Put σ) (seen : List String) (draft : σ) :
    Node .members → Except Error (σ × Spot)
  | .membersEnd stop => .ok (draft, stop)
  | .member key settled value _ rest => do
    let name ← key
    if shape.fields.contains name then
      if seen.contains name then throw ⟨.duplicateField name, settled⟩
      let next ← put name value draft
      readNamed shape put (name :: seen) next rest
    else match value.passingFault with
      | some error => throw error
      | none => readNamed shape put seen draft rest
  | .unpaired key settled fault => do
    let name ← key
    if shape.fields.contains name && seen.contains name then
      throw ⟨.duplicateField name, settled⟩
    throw fault.reading
  | .noMember _ fault => .error fault.reading

-- The draft of a record and where the record ends.
def readDraft (shape : Shape) (put : Nat → Put σ) (blank : σ) (depth : Nat) :
    Node .value → Except Error (σ × Spot)
  | .list start items => entering depth start fun left =>
      readListed shape (put left) 0 blank shape.fields items
  | .object start members => entering depth start fun left =>
      readNamed shape (put left) [] blank members
  | node => .error (wrongType shape.wanted node)

def need (field : String) (stop : Spot) : Option α → Except Error α
  | some value => .ok value
  | none => .error ⟨.missingField field, stop⟩

def Document.read (document : Document) (reader : Reader α) (depth : Nat) : Except Error α := do
  let value ← reader depth document.root
  match document.trailing with
  | some spot => throw ⟨.trailingText, spot⟩
  | none => return value

inductive Value where
  | null
  | bool (b : Bool)
  | integer (n : Int)
  | string (s : String)
  | list (items : List Value)
  | object (members : List (String × Value))

def fourHexDigits (n : Nat) : List Char :=
  [n / 0x1000, n / 0x100, n / 0x10, n].map fun digit => Text.hexDigit (digit % 0x10)

-- Quotes, backslashes and control characters are all that is escaped.
def escape (c : Char) : List Char :=
  if c == '"' then ['\\', '"']
  else if c == '\\' then ['\\', '\\']
  else if c == '\x08' then ['\\', 'b']
  else if c == '\x0c' then ['\\', 'f']
  else if c == '\n' then ['\\', 'n']
  else if c == '\r' then ['\\', 'r']
  else if c == '\t' then ['\\', 't']
  else if c.toNat < 0x20 then '\\' :: 'u' :: fourHexDigits c.toNat
  else [c]

def quote (s : String) : String := String.ofList ('"' :: s.toList.flatMap escape ++ ['"'])

namespace Value

mutual
def text : Value → String
  | .null => "null"
  | .bool b => if b then "true" else "false"
  | .integer n => toString n
  | .string s => quote s
  | .list items => "[" ++ ",".intercalate (itemTexts items) ++ "]"
  | .object members => "\x7b" ++ ",".intercalate (memberTexts members) ++ "\x7d"

def itemTexts : List Value → List String
  | [] => []
  | item :: rest => item.text :: itemTexts rest

def memberTexts : List (String × Value) → List String
  | [] => []
  | (name, value) :: rest => (quote name ++ ":" ++ value.text) :: memberTexts rest
end

end Value
end SchemaBindings.Json
