import Std.Data.HashMap
import SchemaBindings.Event

namespace SchemaBindings

inductive Kind where
  | scalar
  | object
  | interface
  | union
  | enumeration
  | inputObject
  | list
  | nonNull
  | unknown
  deriving DecidableEq, Repr

namespace Kind

def wireName : Kind → String
  | .scalar => "SCALAR"
  | .object => "OBJECT"
  | .interface => "INTERFACE"
  | .union => "UNION"
  | .enumeration => "ENUM"
  | .inputObject => "INPUT_OBJECT"
  | .list => "LIST"
  | .nonNull => "NON_NULL"
  | .unknown => "UNKNOWN"

-- Any other name is a kind nobody has told us about.
def ofWireName (name : String) : Kind :=
  if name == "SCALAR" then .scalar
  else if name == "OBJECT" then .object
  else if name == "INTERFACE" then .interface
  else if name == "UNION" then .union
  else if name == "ENUM" then .enumeration
  else if name == "INPUT_OBJECT" then .inputObject
  else if name == "LIST" then .list
  else if name == "NON_NULL" then .nonNull
  else .unknown

theorem ofWireName_wireName (kind : Kind) : ofWireName kind.wireName = kind := by
  cases kind <;> rfl

def isWrapper : Kind → Bool
  | .list => true
  | .nonNull => true
  | _ => false

-- Kinds that may stand at the leaf of an input field.
def isInput : Kind → Bool
  | .scalar => true
  | .enumeration => true
  | .inputObject => true
  | _ => false

end Kind

inductive TypeRef where
  | list (inner : TypeRef)
  | nonNull (inner : TypeRef)
  | named (kind : Kind) (name : String)
  deriving DecidableEq, Repr

namespace TypeRef

def isNonNull : TypeRef → Bool
  | .nonNull _ => true
  | _ => false

def leaf : TypeRef → Kind × String
  | .list inner => inner.leaf
  | .nonNull inner => inner.leaf
  | .named kind name => (kind, name)

def depth : TypeRef → Nat
  | .list inner => inner.depth + 1
  | .nonNull inner => inner.depth + 1
  | .named _ _ => 0

-- The notation of schema documents: brackets around a list, an exclamation mark behind what is
-- never null.
def sdl : TypeRef → String
  | .list inner => "[" ++ inner.sdl ++ "]"
  | .nonNull inner => inner.sdl ++ "!"
  | .named _ name => name

end TypeRef

structure Field where
  name : String
  description : Option String
  type : TypeRef
  deriving DecidableEq, Repr

structure EnumValue where
  name : String
  description : Option String
  isDeprecated : Bool
  deriving DecidableEq, Repr

structure TypeDescriptor where
  kind : Kind
  name : String
  description : Option String
  fields : List Field
  inputFields : List Field
  enumValues : List EnumValue
  deriving DecidableEq, Repr

structure Schema where
  queryType : Option String := none
  mutationType : Option String := none
  subscriptionType : Option String := none
  types : Array TypeDescriptor := #[]
  index : Std.HashMap String Nat := {}

namespace Schema

def empty : Schema := {}

def add (schema : Schema) (type : TypeDescriptor) : Schema :=
  { schema with
    types := schema.types.push type
    index := schema.index.insert type.name schema.types.size }

def get? (schema : Schema) (name : String) : Option TypeDescriptor :=
  schema.index[name]?.bind fun position => schema.types[position]?

def has (schema : Schema) (name : String) : Bool := schema.index.contains name

def size (schema : Schema) : Nat := schema.types.size

def isEmpty (schema : Schema) : Bool := schema.types.isEmpty

def ofTypes (types : List TypeDescriptor) : Schema := types.foldl add empty

theorem types_add (schema : Schema) (type : TypeDescriptor) :
    (schema.add type).types = schema.types.push type := rfl

theorem has_add (schema : Schema) (type : TypeDescriptor) (name : String) :
    (schema.add type).has name = (type.name == name || schema.has name) := by
  simp [has, add]

end Schema

structure EnumDecl where
  name : String
  description : Option String
  values : List EnumValue
  deriving DecidableEq, Repr

-- Required fields are those whose type is never null; each group keeps the order of the schema.
structure InputDecl where
  name : String
  description : Option String
  required : List Field
  optional : List Field
  deriving DecidableEq, Repr

structure ScalarDecl where
  name : String
  description : Option String
  deriving DecidableEq, Repr

structure Declarations where
  enums : List EnumDecl := []
  inputs : List InputDecl := []
  scalars : List ScalarDecl := []
  deriving DecidableEq, Repr

namespace InputDecl

def fields (decl : InputDecl) : List Field := decl.required ++ decl.optional

def allOptional (decl : InputDecl) : Bool := decl.required.isEmpty

end InputDecl

namespace Declarations

def inputNames (decls : Declarations) : List String := decls.inputs.map (·.name)

-- Scalars alone are nothing to emit.
def isEmpty (decls : Declarations) : Bool := decls.enums.isEmpty && decls.inputs.isEmpty

end Declarations

-- Names with two underscores in front belong to the description of the type system.
def isInternal (name : String) : Bool := ['_', '_'].isPrefixOf name.toList

namespace TypeDescriptor

def toEnum? (type : TypeDescriptor) : Option EnumDecl :=
  if type.kind = .enumeration then
    some { name := type.name, description := type.description, values := type.enumValues }
  else none

def toInput? (type : TypeDescriptor) : Option InputDecl :=
  if type.kind = .inputObject then
    some { name := type.name
           description := type.description
           required := type.inputFields.filter (·.type.isNonNull)
           optional := type.inputFields.filter (!·.type.isNonNull) }
  else none

def toScalar? (type : TypeDescriptor) : Option ScalarDecl :=
  if type.kind = .scalar then some { name := type.name, description := type.description }
  else none

end TypeDescriptor

-- Equal names keep the order in which they came.
def sortByName (name : α → String) (decls : List α) : List α :=
  decls.mergeSort fun a b => decide (name a ≤ name b)

namespace Schema

def ownTypes (schema : Schema) : List TypeDescriptor :=
  schema.types.toList.filter fun type => !isInternal type.name

def collect (schema : Schema) : Declarations where
  enums := sortByName (·.name) (schema.ownTypes.filterMap (·.toEnum?))
  inputs := sortByName (·.name) (schema.ownTypes.filterMap (·.toInput?))
  scalars := sortByName (·.name) (schema.ownTypes.filterMap (·.toScalar?))

end Schema

-- What `collect` reports.
def Declarations.collected (decls : Declarations) : Event where
  level := .debug
  source := "gqlbind_schema::ir"
  message := "collected " ++ toString decls.enums.length ++ " enums, " ++
    toString decls.inputs.length ++ " input records and " ++
    toString decls.scalars.length ++ " scalars"

end SchemaBindings
