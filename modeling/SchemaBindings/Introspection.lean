import SchemaBindings.Json.Scan
import SchemaBindings.Schema

namespace SchemaBindings.Introspection

inductive Error where
  | json (error : Json.Error)
  | missingSchema
  | server (messages : List String)
  | malformedReference (type field reason : String)
  | duplicateType (name : String)
  deriving DecidableEq, Repr

namespace Error

def message : Error → String
  | .json error => "JSON decoding error: " ++ error.message
  | .missingSchema => "introspection document has no __schema object"
  | .server messages => "introspection query returned errors: " ++ "; ".intercalate messages
  | .malformedReference type field reason =>
    "malformed type reference in field '" ++ field ++ "' of type '" ++ type ++ "': " ++ reason
  | .duplicateType name => "duplicate type definition: '" ++ name ++ "'"

-- What the message goes back to, nearest first.
def causes : Error → List String
  | .json error => [error.message]
  | _ => []

end Error

namespace Wire

open Json (Reader Node Spot Shape Put)

-- A reference is one node, or a node over the reference that it wraps. Here and below a member that
-- may be null or absent is read as nothing, and a list that may be missing as the empty list.
inductive Reference where
  | bare (kind : Kind) (name : Option String)
  | over (kind : Kind) (name : Option String) (inner : Reference)
  deriving DecidableEq, Repr

structure Field where
  name : String
  description : Option String
  type : Reference
  deriving DecidableEq, Repr

structure TypeEntry where
  kind : Kind
  name : String
  description : Option String
  fields : List Field
  inputFields : List Field
  enumValues : List EnumValue
  deriving DecidableEq, Repr

structure Schema where
  queryType : Option String
  mutationType : Option String
  subscriptionType : Option String
  types : List TypeEntry
  deriving DecidableEq, Repr

-- The schema may lie under `data` or beside it.
structure Document where
  underData : Option Schema
  errors : List String
  beside : Option Schema
  deriving DecidableEq, Repr

-- A kind is its name, or an object whose only member has that name and no value.
def readKind : Reader Kind
  | _, .scalar _ _ (.string content) => content.map Kind.ofWireName
  | _, .scalar start _ _ => .error ⟨.expectedValue, start.along 1⟩
  | _, .list start _ => .error ⟨.expectedValue, start.along 1⟩
  | depth, .object start members => Json.entering depth start fun left =>
    match members with
    | .membersEnd stop => .error ⟨.expectedValue, stop⟩
    | .noMember found _ => .error (Json.wrongType "variant identifier" found)
    | .unpaired key _ fault => key.bind fun _ => .error fault.reading
    | .member key _ value next rest => do
      let name ← key
      Json.readUnit left value
      match rest with
      | .membersEnd _ => return Kind.ofWireName name
      | .noMember _ fault =>
        if fault.reading.problem = .endInObject then throw fault.reading
        else throw ⟨.expectedValue, next⟩
      | _ => throw ⟨.expectedValue, next⟩
  | _, .broken start here fault =>
    if here.all (· == '"') then .error fault.reading
    else .error ⟨.expectedValue, start.peek here.toList⟩

structure ReferenceDraft where
  kind : Option Kind := none
  name : Option String := none
  inner : Option Reference := none

def referenceShape : Shape := { name := "RawTypeRef", fields := ["kind", "name", "ofType"] }

-- The depth that is left bounds how far a reference can be followed.
def readReference : Reader Reference
  | 0, node => .error (Json.wrongType referenceShape.wanted node)
  | depth + 1, node => do
    let put : Nat → Put ReferenceDraft := fun left field node draft =>
      if field == "kind" then do return { draft with kind := some (← readKind left node) }
      else if field == "name" then do
        return { draft with name := ← Json.orNull Json.readText left node }
      else do
        return { draft with
          inner := ← Json.orNull (fun _ inner => readReference depth inner) left node }
    let (draft, stop) ← Json.readDraft referenceShape put {} (depth + 1) node
    let kind ← Json.need "kind" stop draft.kind
    match draft.inner with
    | some inner => return .over kind draft.name inner
    | none => return .bare kind draft.name

structure FieldDraft where
  name : Option String := none
  description : Option String := none
  type : Option Reference := none

def fieldShape : Shape := { name := "RawField", fields := ["name", "description", "type"] }

def readField : Reader Field := fun depth node => do
  let put : Nat → Put FieldDraft := fun left field node draft =>
    if field == "name" then do return { draft with name := some (← Json.readText left node) }
    else if field == "description" then do
      return { draft with description := ← Json.orNull Json.readText left node }
    else do return { draft with type := some (← readReference left node) }
  let (draft, stop) ← Json.readDraft fieldShape put {} depth node
  let name ← Json.need "name" stop draft.name
  let type ← Json.need "type" stop draft.type
  return { name, description := draft.description, type }

structure ValueDraft where
  name : Option String := none
  description : Option String := none
  isDeprecated : Bool := false

def valueShape : Shape :=
  { name := "RawEnumValue"
    fields := ["name", "description", "isDeprecated"]
    omissible := ["isDeprecated"] }

def readValue : Reader EnumValue := fun depth node => do
  let put : Nat → Put ValueDraft := fun left field node draft =>
    if field == "name" then do return { draft with name := some (← Json.readText left node) }
    else if field == "description" then do
      return { draft with description := ← Json.orNull Json.readText left node }
    else do return { draft with isDeprecated := ← Json.readBool left node }
  let (draft, stop) ← Json.readDraft valueShape put {} depth node
  let name ← Json.need "name" stop draft.name
  return { name, description := draft.description, isDeprecated := draft.isDeprecated }

structure TypeDraft where
  kind : Option Kind := none
  name : Option String := none
  description : Option String := none
  fields : List Field := []
  inputFields : List Field := []
  enumValues : List EnumValue := []

def typeShape : Shape :=
  { name := "RawType"
    fields := ["kind", "name", "description", "fields", "inputFields", "enumValues"] }

def orEmpty (reader : Reader α) : Reader (List α) := fun depth node => do
  return (← Json.orNull (Json.readList reader) depth node).getD []

def readType : Reader TypeEntry := fun depth node => do
  let put : Nat → Put TypeDraft := fun left field node draft =>
    if field == "kind" then do return { draft with kind := some (← readKind left node) }
    else if field == "name" then do return { draft with name := some (← Json.readText left node) }
    else if field == "description" then do
      return { draft with description := ← Json.orNull Json.readText left node }
    else if field == "fields" then do
      return { draft with fields := ← orEmpty readField left node }
    else if field == "inputFields" then do
      return { draft with inputFields := ← orEmpty readField left node }
    else do return { draft with enumValues := ← orEmpty readValue left node }
  let (draft, stop) ← Json.readDraft typeShape put {} depth node
  let kind ← Json.need "kind" stop draft.kind
  let name ← Json.need "name" stop draft.name
  return { kind, name, description := draft.description, fields := draft.fields,
           inputFields := draft.inputFields, enumValues := draft.enumValues }

def rootShape : Shape := { name := "RawNamedRef", fields := ["name"] }

-- A root type is an object with the type's name, which may be missing.
def readRoot : Reader (Option String) := fun depth node => do
  let put : Nat → Put (Option String) := fun left _ node _ => Json.orNull Json.readText left node
  let (name, _) ← Json.readDraft rootShape put none depth node
  return name

def readRootOrNull : Reader (Option String) := fun depth node => do
  return (← Json.orNull readRoot depth node).join

structure SchemaDraft where
  queryType : Option String := none
  mutationType : Option String := none
  subscriptionType : Option String := none
  types : Option (List TypeEntry) := none

def schemaShape : Shape :=
  { name := "RawSchema"
    fields := ["queryType", "mutationType", "subscriptionType", "types"] }

def readSchema : Reader Schema := fun depth node => do
  let put : Nat → Put SchemaDraft := fun left field node draft =>
    if field == "queryType" then do return { draft with queryType := ← readRootOrNull left node }
    else if field == "mutationType" then do
      return { draft with mutationType := ← readRootOrNull left node }
    else if field == "subscriptionType" then do
      return { draft with subscriptionType := ← readRootOrNull left node }
    else do return { draft with types := some (← Json.readList readType left node) }
  let (draft, stop) ← Json.readDraft schemaShape put {} depth node
  let types ← Json.need "types" stop draft.types
  return { queryType := draft.queryType, mutationType := draft.mutationType,
           subscriptionType := draft.subscriptionType, types }

def dataShape : Shape := { name := "DataRoot", fields := ["__schema"] }

def readData : Reader (Option Schema) := fun depth node => do
  let put : Nat → Put (Option Schema) := fun left _ node _ => Json.orNull readSchema left node
  let (schema, _) ← Json.readDraft dataShape put none depth node
  return schema

def errorShape : Shape := { name := "RawError", fields := ["message"] }

def readError : Reader String := fun depth node => do
  let put : Nat → Put (Option String) := fun left _ node _ => do
    return some (← Json.readText left node)
  let (message, stop) ← Json.readDraft errorShape put none depth node
  Json.need "message" stop message

structure DocumentDraft where
  underData : Option Schema := none
  errors : List String := []
  beside : Option Schema := none

def documentShape : Shape :=
  { name := "Envelope", fields := ["data", "errors", "__schema"], omissible := ["errors"] }

def readDocument : Reader Document := fun depth node => do
  let put : Nat → Put DocumentDraft := fun left field node draft =>
    if field == "data" then do
      return { draft with underData := (← Json.orNull readData left node).join }
    else if field == "errors" then do
      return { draft with errors := ← Json.readList readError left node }
    else do return { draft with beside := ← Json.orNull readSchema left node }
  let (draft, _) ← Json.readDraft documentShape put {} depth node
  return { underData := draft.underData, errors := draft.errors, beside := draft.beside }

-- So many brackets, one inside the other, are not opened any more.
def depthLimit : Nat := 128

def Document.ofText (text : String) : Except Json.Error Document :=
  (Json.scan text).read readDocument depthLimit

def kindOfText (text : String) : Except Json.Error Kind :=
  (Json.scan text).read readKind depthLimit

-- A node with nothing under it has to be a name. `type` and `field` say where the reference stands.
def leaf (type field : String) (kind : Kind) (name : Option String) : Except Error TypeRef :=
  if kind.isWrapper then
    .error (.malformedReference type field (kind.wireName ++ " without ofType"))
  else if kind = .unknown then
    .error (.malformedReference type field "unrecognized type kind")
  else match name with
    | some name => .ok (.named kind name)
    | none => .error (.malformedReference type field (kind.wireName ++ " reference without name"))

-- What lies under a node that is no wrapper does not count.
def Reference.resolve (type field : String) : Reference → Except Error TypeRef
  | .bare kind name => leaf type field kind name
  | .over kind name inner =>
    if kind = .list then (inner.resolve type field).map .list
    else if kind = .nonNull then (inner.resolve type field).map .nonNull
    else leaf type field kind name

def Field.resolve (type : String) (field : Field) : Except Error SchemaBindings.Field := do
  let resolved ← field.type.resolve type field.name
  return { name := field.name, description := field.description, type := resolved }

def TypeEntry.resolve (entry : TypeEntry) : Except Error TypeDescriptor := do
  let fields ← entry.fields.mapM (Field.resolve entry.name)
  let inputFields ← entry.inputFields.mapM (Field.resolve entry.name)
  return { kind := entry.kind, name := entry.name, description := entry.description,
           fields, inputFields, enumValues := entry.enumValues }

-- Types are taken in order, and a second type of a name ends the reading.
def addTypes (schema : SchemaBindings.Schema) :
    List TypeEntry → Except Error SchemaBindings.Schema
  | [] => .ok schema
  | entry :: rest => do
    let type ← entry.resolve
    if schema.has type.name then throw (.duplicateType type.name)
    addTypes (schema.add type) rest

def Schema.resolve (schema : Schema) : Except Error SchemaBindings.Schema :=
  addTypes
    { queryType := schema.queryType
      mutationType := schema.mutationType
      subscriptionType := schema.subscriptionType }
    schema.types

-- The schema under `data` goes before the one beside it.
def Document.schema? (document : Document) : Option Schema :=
  document.underData.or document.beside

def Document.resolve (document : Document) : Except Error SchemaBindings.Schema :=
  match document.schema? with
  | some schema => schema.resolve
  | none =>
    if document.errors.isEmpty then .error .missingSchema else .error (.server document.errors)

end Wire

def parse (text : String) : Except Error Schema := do
  let document ← (Wire.Document.ofText text).mapError .json
  document.resolve

def source : String := "gqlbind_schema::parser"

-- A schema that comes with errors is used all the same, and the errors are reported.
def partialErrors (document : Wire.Document) : List Event :=
  if document.schema?.isSome && !document.errors.isEmpty then
    [{ level := .warn, source
       message := "introspection returned partial errors: " ++
         "; ".intercalate document.errors }]
  else []

def completion (result : Except Error Schema) : List Event :=
  match result with
  | .ok schema =>
    [{ level := .debug, source
       message := "parsed introspection schema with " ++ toString schema.size ++ " types" }]
  | .error _ => []

-- What `parse` reports while it works on the text.
def parseEvents (text : String) : List Event :=
  match Wire.Document.ofText text with
  | .ok document => partialErrors document ++ completion document.resolve
  | .error _ => []

end SchemaBindings.Introspection
