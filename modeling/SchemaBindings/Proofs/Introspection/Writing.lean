import SchemaBindings.Introspection
import SchemaBindings.Proofs.Json.Scanning
import SchemaBindings.Proofs.Json.Writing

namespace SchemaBindings

-- The leaf names a type: its kind is no wrapper and one that we know.
def TypeRef.Complete (reference : TypeRef) : Prop :=
  reference.leaf.1.isWrapper = false ∧ reference.leaf.1 ≠ .unknown

def TypeDescriptor.Complete (type : TypeDescriptor) : Prop :=
  ∀ field ∈ type.fields ++ type.inputFields, field.type.Complete

namespace Schema

-- A schema with the given root types to which the types are added one after the other.
def assemble (query mutation subscription : Option String) (types : List TypeDescriptor) : Schema :=
  types.foldl add
    { queryType := query, mutationType := mutation, subscriptionType := subscription }

theorem types_foldl_add (types : List TypeDescriptor) (schema : Schema) :
    (types.foldl add schema).types.toList = schema.types.toList ++ types := by
  induction types generalizing schema with
  | nil => rw [List.foldl_nil, List.append_nil]
  | cons type types ih =>
    rw [List.foldl_cons, ih, types_add, Array.toList_push, List.append_assoc, List.singleton_append]

theorem roots_foldl_add (types : List TypeDescriptor) (schema : Schema) :
    (types.foldl add schema).queryType = schema.queryType ∧
      (types.foldl add schema).mutationType = schema.mutationType ∧
      (types.foldl add schema).subscriptionType = schema.subscriptionType := by
  induction types generalizing schema with
  | nil => exact ⟨rfl, rfl, rfl⟩
  | cons type types ih => exact ih (schema.add type)

theorem has_foldl_add (types : List TypeDescriptor) (schema : Schema) (name : String) :
    (types.foldl add schema).has name = true ↔
      name ∈ types.map (·.name) ∨ schema.has name = true := by
  induction types generalizing schema with
  | nil => simp
  | cons type types ih =>
    rw [List.foldl_cons, ih, has_add, List.map_cons, List.mem_cons, Bool.or_eq_true, beq_iff_eq,
      eq_comm, or_left_comm, or_assoc]

@[simp] theorem types_assemble (query mutation subscription : Option String)
    (types : List TypeDescriptor) :
    (assemble query mutation subscription types).types.toList = types :=
  types_foldl_add types _

end Schema

open Json (Record Tree)
open Introspection

def IsText (s : String) (tree : Tree .value) : Prop := tree = .text s

-- Wrappers form a chain, at whose end there is a name.
inductive TypeRef.WrittenAs : TypeRef → Tree .value → Prop where
  | named (record : Record Wire.referenceShape members)
      (kinded : members.Gives "kind" (IsText kind.wireName))
      (called : members.Gives "name" (IsText name)) (bare : members.Omits "ofType") :
      WrittenAs (.named kind name) (.object members)
  | list {inner : TypeRef} (record : Record Wire.referenceShape members)
      (kinded : members.Gives "kind" (IsText "LIST")) (unnamed : members.Omits "name")
      (below : members.Gives "ofType" (· = tree)) (inside : WrittenAs inner tree) :
      WrittenAs (.list inner) (.object members)
  | nonNull {inner : TypeRef} (record : Record Wire.referenceShape members)
      (kinded : members.Gives "kind" (IsText "NON_NULL")) (unnamed : members.Omits "name")
      (below : members.Gives "ofType" (· = tree)) (inside : WrittenAs inner tree) :
      WrittenAs (.nonNull inner) (.object members)

structure Field.Members (field : Field) (members : Tree .members) : Prop where
  record : Record Wire.fieldShape members
  name : members.Gives "name" (IsText field.name)
  description : members.MayGive "description" IsText field.description
  type : members.Gives "type" field.type.WrittenAs

def Field.WrittenAs (field : Field) (tree : Tree .value) : Prop :=
  ∃ members, tree = .object members ∧ field.Members members

-- A value that is not deprecated need not say so.
structure EnumValue.Members (value : EnumValue) (members : Tree .members) : Prop where
  record : Record Wire.valueShape members
  name : members.Gives "name" (IsText value.name)
  description : members.MayGive "description" IsText value.description
  isDeprecated : members.Gives "isDeprecated" (· = .bool value.isDeprecated) ∨
    value.isDeprecated = false ∧ members.find? "isDeprecated" = none

def EnumValue.WrittenAs (value : EnumValue) (tree : Tree .value) : Prop :=
  ∃ members, tree = .object members ∧ value.Members members

structure TypeDescriptor.Members (type : TypeDescriptor) (members : Tree .members) : Prop where
  record : Record Wire.typeShape members
  kind : members.Gives "kind" (IsText type.kind.wireName)
  name : members.Gives "name" (IsText type.name)
  description : members.MayGive "description" IsText type.description
  fields : members.MayList "fields" Field.WrittenAs type.fields
  inputFields : members.MayList "inputFields" Field.WrittenAs type.inputFields
  enumValues : members.MayList "enumValues" EnumValue.WrittenAs type.enumValues

def TypeDescriptor.WrittenAs (type : TypeDescriptor) (tree : Tree .value) : Prop :=
  ∃ members, tree = .object members ∧ type.Members members

def IsRoot (name : String) (tree : Tree .value) : Prop :=
  ∃ members, tree = .object members ∧ Record Wire.rootShape members ∧
    members.Gives "name" (IsText name)

structure Schema.Members (schema : Schema) (members : Tree .members) : Prop where
  record : Record Wire.schemaShape members
  queryType : members.MayGive "queryType" IsRoot schema.queryType
  mutationType : members.MayGive "mutationType" IsRoot schema.mutationType
  subscriptionType : members.MayGive "subscriptionType" IsRoot schema.subscriptionType
  types : members.Gives "types" (Tree.IsList TypeDescriptor.WrittenAs schema.types.toList)

def Schema.WrittenAs (schema : Schema) (tree : Tree .value) : Prop :=
  ∃ members, tree = .object members ∧ schema.Members members

def IsError (message : String) (tree : Tree .value) : Prop :=
  ∃ members, tree = .object members ∧ Record Wire.errorShape members ∧
    members.Gives "message" (IsText message)

-- What the server reports beside the data is a list of messages, which may be empty or left out.
def ReportsErrors (members : Tree .members) (messages : List String) : Prop :=
  members.Gives "errors" (Tree.IsList IsError messages) ∨
    messages = [] ∧ members.find? "errors" = none

-- The schema stands for itself or under `data`.
inductive Schema.DocumentedAs (schema : Schema) : Tree .value → Prop where
  | bare (record : Record Wire.documentShape members) (errors : ReportsErrors members messages)
      (noData : members.Omits "data") (given : members.Gives "__schema" schema.WrittenAs) :
      DocumentedAs schema (.object members)
  | underData (record : Record Wire.documentShape members) (errors : ReportsErrors members messages)
      (data : members.Gives "data" (· = .object inside)) (inner : Record Wire.dataShape inside)
      (given : inside.Gives "__schema" schema.WrittenAs) (noOther : members.Omits "__schema") :
      DocumentedAs schema (.object members)

open Json (Value)

def nameOrNull : Option String → Value
  | some name => .string name
  | none => .null

def TypeRef.value : TypeRef → Value
  | .list inner => .object [("kind", .string "LIST"), ("name", .null), ("ofType", inner.value)]
  | .nonNull inner =>
    .object [("kind", .string "NON_NULL"), ("name", .null), ("ofType", inner.value)]
  | .named kind name =>
    .object [("kind", .string kind.wireName), ("name", .string name), ("ofType", .null)]

def Field.value (field : Field) : Value :=
  .object [("name", .string field.name), ("description", nameOrNull field.description),
    ("type", field.type.value)]

def EnumValue.value (value : EnumValue) : Value :=
  .object [("name", .string value.name), ("description", nameOrNull value.description),
    ("isDeprecated", .bool value.isDeprecated)]

def TypeDescriptor.value (type : TypeDescriptor) : Value :=
  .object [("kind", .string type.kind.wireName), ("name", .string type.name),
    ("description", nameOrNull type.description),
    ("fields", .list (type.fields.map Field.value)),
    ("inputFields", .list (type.inputFields.map Field.value)),
    ("enumValues", .list (type.enumValues.map EnumValue.value))]

def rootOrNull : Option String → Value
  | some name => .object [("name", .string name)]
  | none => .null

def Schema.value (schema : Schema) : Value :=
  .object [("queryType", rootOrNull schema.queryType),
    ("mutationType", rootOrNull schema.mutationType),
    ("subscriptionType", rootOrNull schema.subscriptionType),
    ("types", .list (schema.types.toList.map TypeDescriptor.value))]

def errorValue (message : String) : Value := .object [("message", .string message)]

-- The schema under `data`, and beside it what went wrong.
def Schema.document (schema : Schema) (messages : List String) : Value :=
  .object [("data", .object [("__schema", schema.value)]),
    ("errors", .list (messages.map errorValue))]

theorem gives_of_lookup {members : List (String × Value)}
    (found : members.lookup key = some value) (written : writes value.tree) :
    (Value.membersTree members).Gives key writes :=
  ⟨value.tree, by rw [Value.find?_membersTree, found]; rfl, written⟩

theorem mayGive_nameOrNull {members : List (String × Value)} (name : Option String)
    (found : members.lookup key = some (nameOrNull name)) :
    (Value.membersTree members).MayGive key IsText name := by
  cases name with
  | none => exact .inr (by rw [Value.find?_membersTree, found]; rfl)
  | some name => exact gives_of_lookup found (by rw [nameOrNull, Value.tree]; rfl)

theorem mayGive_rootOrNull {members : List (String × Value)} (root : Option String)
    (found : members.lookup key = some (rootOrNull root)) :
    (Value.membersTree members).MayGive key IsRoot root := by
  cases root with
  | none => exact .inr (by rw [Value.find?_membersTree, found]; rfl)
  | some name =>
    refine gives_of_lookup found ⟨_, by rw [rootOrNull, Value.tree], ?_, ?_⟩
    · exact Value.record_membersTree _ (by simp)
    · exact gives_of_lookup rfl (by rw [Value.tree]; rfl)

theorem isList_map {write : α → Value} (written : ∀ a ∈ values, writes a (write a).tree) :
    Json.Tree.IsList writes values (Value.list (values.map write)).tree := by
  refine ⟨_, by rw [Value.tree], ?_⟩
  rw [Value.toItems_itemsTree, List.map_map, List.forall₂_map_right_iff, List.forall₂_same]
  exact written

theorem TypeRef.writtenAs_value (type : TypeRef) : type.WrittenAs type.value.tree := by
  induction type with
  | list inner ih =>
    rw [TypeRef.value, Value.tree]
    refine .list (Value.record_membersTree _ (by simp)) ?_ ?_ ?_ ih
    · exact gives_of_lookup rfl (by rw [Value.tree]; rfl)
    · exact .inr (by rw [Value.find?_membersTree]; rfl)
    · exact gives_of_lookup rfl rfl
  | nonNull inner ih =>
    rw [TypeRef.value, Value.tree]
    refine .nonNull (Value.record_membersTree _ (by simp)) ?_ ?_ ?_ ih
    · exact gives_of_lookup rfl (by rw [Value.tree]; rfl)
    · exact .inr (by rw [Value.find?_membersTree]; rfl)
    · exact gives_of_lookup rfl rfl
  | named kind name =>
    rw [TypeRef.value, Value.tree]
    refine .named (Value.record_membersTree _ (by simp)) ?_ ?_ ?_
    · exact gives_of_lookup rfl (by rw [Value.tree]; rfl)
    · exact gives_of_lookup rfl (by rw [Value.tree]; rfl)
    · exact .inr (by rw [Value.find?_membersTree]; rfl)

theorem Field.writtenAs_value (field : Field) : field.WrittenAs field.value.tree := by
  refine ⟨_, by rw [Field.value, Value.tree], Value.record_membersTree _ (by simp), ?_, ?_, ?_⟩
  · exact gives_of_lookup rfl (by rw [Value.tree]; rfl)
  · exact mayGive_nameOrNull _ rfl
  · exact gives_of_lookup rfl field.type.writtenAs_value

theorem EnumValue.writtenAs_value (value : EnumValue) : value.WrittenAs value.value.tree := by
  refine ⟨_, by rw [EnumValue.value, Value.tree], Value.record_membersTree _ (by simp), ?_, ?_, ?_⟩
  · exact gives_of_lookup rfl (by rw [Value.tree]; rfl)
  · exact mayGive_nameOrNull _ rfl
  · exact .inl (gives_of_lookup rfl (by rw [Value.tree]))

theorem TypeDescriptor.writtenAs_value (type : TypeDescriptor) :
    type.WrittenAs type.value.tree := by
  refine ⟨_, by rw [TypeDescriptor.value, Value.tree], Value.record_membersTree _ (by simp),
    ?_, ?_, ?_, ?_, ?_, ?_⟩
  · exact gives_of_lookup rfl (by rw [Value.tree]; rfl)
  · exact gives_of_lookup rfl (by rw [Value.tree]; rfl)
  · exact mayGive_nameOrNull _ rfl
  · exact .inl (gives_of_lookup rfl (isList_map fun field _ => field.writtenAs_value))
  · exact .inl (gives_of_lookup rfl (isList_map fun field _ => field.writtenAs_value))
  · exact .inl (gives_of_lookup rfl (isList_map fun value _ => value.writtenAs_value))

theorem Schema.writtenAs_value (schema : Schema) : schema.WrittenAs schema.value.tree := by
  refine ⟨_, by rw [Schema.value, Value.tree], Value.record_membersTree _ (by simp),
    ?_, ?_, ?_, ?_⟩
  · exact mayGive_rootOrNull _ rfl
  · exact mayGive_rootOrNull _ rfl
  · exact mayGive_rootOrNull _ rfl
  · exact gives_of_lookup rfl (isList_map fun type _ => type.writtenAs_value)

theorem isError_errorValue (message : String) : IsError message (errorValue message).tree := by
  refine ⟨_, by rw [errorValue, Value.tree], Value.record_membersTree _ (by simp), ?_⟩
  exact gives_of_lookup rfl (by rw [Value.tree]; rfl)

theorem Schema.documentedAs_document (schema : Schema) (messages : List String) :
    schema.DocumentedAs (schema.document messages).tree := by
  rw [Schema.document, Value.tree]
  refine .underData (Value.record_membersTree _ (by simp))
    (.inl (gives_of_lookup rfl (isList_map fun message _ => isError_errorValue message)))
    (gives_of_lookup rfl (by rw [Value.tree])) ?_ (gives_of_lookup rfl schema.writtenAs_value) ?_
  · exact Value.record_membersTree _ (by simp)
  · exact .inl (by rw [Value.find?_membersTree]; rfl)

end SchemaBindings
