import Std.Data.HashMap
import SchemaBindings.Naming
import SchemaBindings.Schema
import SchemaBindings.Source.Item

namespace SchemaBindings.Binding

inductive Error where
  | unsupportedField (owner field type : String) (kind : Kind)
  | collision (owner identifier first second : String)
  | invariant (violation : String)
  deriving DecidableEq, Repr

namespace Error

def message : Error → String
  | .unsupportedField owner field type kind =>
    "unsupported " ++ kind.wireName ++ " type '" ++ type ++ "' in input field '" ++ owner ++ "." ++
      field ++ "'"
  | .collision owner identifier first second =>
    "'" ++ first ++ "' and '" ++ second ++ "' in '" ++ owner ++ "' both map to identifier '" ++
      identifier ++ "'"
  | .invariant violation => "internal invariant violated: " ++ violation

-- A defect of the generator, and not of what it was given.
def isInternal : Error → Bool
  | .invariant _ => true
  | _ => false

end Error

-- `seen` gives the name from which each identifier so far was made.
def uniqueFrom (owner : String) (normalize : String → String) (seen : Std.HashMap String String) :
    List String → Except Error (List String)
  | [] => .ok []
  | name :: rest =>
    let identifier := normalize name
    match seen[identifier]? with
    | some first => .error (.collision owner identifier first name)
    | none => do
      let others ← uniqueFrom owner normalize (seen.insert identifier name) rest
      return identifier :: others

def uniqueIdentifiers (owner : String) (names : List String) (normalize : String → String) :
    Except Error (List String) :=
  uniqueFrom owner normalize {} names

inductive TypeExpr where
  | named (name : String)
  | boxed (inner : TypeExpr)
  | list (inner : TypeExpr)
  | optional (inner : TypeExpr)
  deriving DecidableEq, Repr

namespace TypeExpr

def isOptional : TypeExpr → Bool
  | .optional _ => true
  | _ => false

def text : TypeExpr → String
  | .named name => name
  | .boxed inner => "Box<" ++ inner.text ++ ">"
  | .list inner => "Vec<" ++ inner.text ++ ">"
  | .optional inner => "Option<" ++ inner.text ++ ">"

end TypeExpr

structure ResolvedType where
  expr : TypeExpr
  nullable : Bool
  deriving DecidableEq, Repr

structure FieldType where
  expr : TypeExpr
  required : Bool
  deriving DecidableEq, Repr

-- The scalars that every schema has and that need no declaration of their own.
def isBuiltinScalar (name : String) : Bool :=
  name == "String" || name == "Int" || name == "Float" || name == "Boolean"

def boundName (name : String) : String :=
  if name == "Int" then "i32"
  else if name == "Float" then "f64"
  else if name == "Boolean" then "bool"
  else name

def doubleNonNull (expr : TypeExpr) (reference : TypeRef) : Error :=
  .invariant ("non-null wrapper applied to non-nullable type `" ++ expr.text ++ "` (from `" ++
    reference.sdl ++ "`)")

-- A record may hold a record of its own type, so outside a list it goes into a box; a list already
-- keeps its items apart.
def resolveIn (inList : Bool) : TypeRef → Except Error ResolvedType
  | .named kind name =>
    let expr := TypeExpr.named (boundName name)
    let kept := if kind = .inputObject ∧ inList = false then .boxed expr else expr
    .ok { expr := .optional kept, nullable := true }
  | .list inner => do
    let resolved ← resolveIn true inner
    return { expr := .optional (.list resolved.expr), nullable := true }
  | .nonNull inner => do
    let resolved ← resolveIn inList inner
    match resolved.expr with
    | .optional expr => return { expr, nullable := false }
    | other => throw (doubleNonNull other (.nonNull inner))

def resolve (reference : TypeRef) : Except Error ResolvedType := resolveIn false reference

-- The kind of the leaf is looked at before the wrappers.
def fieldType (owner : String) (field : Field) : Except Error FieldType :=
  let (kind, name) := field.type.leaf
  if kind.isInput then do
    let resolved ← resolve field.type
    return { expr := resolved.expr, required := field.type.isNonNull }
  else .error (.unsupportedField owner field.name name kind)

def joinLines (lines : List String) : String := String.join (lines.map (· ++ "\n"))

-- A description line by line, without the blanks at the end of each.
def docLines (indent text : String) : List String :=
  (Text.lines text.toList).map fun line =>
    let kept := Text.trimEnd line
    if kept.isEmpty then indent ++ "///" else indent ++ "/// " ++ String.ofList kept

-- The name of an item, and its description below it.
def headLines (name : String) (description : Option String) : List String :=
  ("/// " ++ name) :: match description with
    | some text => "///" :: docLines "" text
    | none => []

def enumIdentifiers (decl : EnumDecl) : Except Error (List String) :=
  uniqueIdentifiers decl.name (decl.values.map (·.name)) (Naming.enumValueIdentifier decl.name)

def variantLines (value : EnumValue) (variant : String) : List String :=
  (match value.description with
    | some text => docLines "    " text
    | none => []) ++
  (if value.isDeprecated then ["    /// Deprecated."] else []) ++
  ["    #[serde(rename = " ++ Text.Quoted.encode value.name ++ ")]",
   "    " ++ variant ++ ","]

def armLine (value : EnumValue) (variant : String) : String :=
  "            Self::" ++ variant ++ " => " ++ Text.Quoted.encode value.name ++ ","

def enumLines (decl : EnumDecl) (variants : List String) : List String :=
  headLines decl.name decl.description ++
  ["#[derive(Debug, Clone, Copy, PartialEq, Eq, Hash, Serialize, Deserialize)]",
   "pub enum " ++ decl.name ++ " \x7b"] ++
  (List.zipWith variantLines decl.values variants).flatten ++
  ["\x7d",
   "",
   "impl " ++ decl.name ++ " \x7b",
   "    /// Returns the value as sent on the wire.",
   "    #[must_use]",
   "    pub const fn as_str(&self) -> &'static str \x7b",
   "        match *self \x7b"] ++
  List.zipWith armLine decl.values variants ++
  ["        \x7d",
   "    \x7d",
   "\x7d",
   "",
   "impl std::fmt::Display for " ++ decl.name ++ " \x7b",
   "    fn fmt(&self, f: &mut std::fmt::Formatter<'_>) -> std::fmt::Result \x7b",
   "        f.write_str(self.as_str())",
   "    \x7d",
   "\x7d",
   ""]

def enumsText (decls : Declarations) : Except Error String := do
  let blocks ← decls.enums.mapM fun decl => do return enumLines decl (← enumIdentifiers decl)
  return joinLines (
    ["#![allow(clippy::enum_variant_names)]", "",
     "use serde::\x7bDeserialize, Serialize\x7d;", ""] ++ blocks.flatten)

def inputIdentifiers (decl : InputDecl) : Except Error (List String) :=
  uniqueIdentifiers decl.name (decl.fields.map (·.name)) Naming.fieldIdentifier

def deriveLine (decl : InputDecl) : String :=
  if decl.allOptional then
    "#[derive(Debug, Clone, Default, PartialEq, Serialize, Deserialize)]"
  else "#[derive(Debug, Clone, PartialEq, Serialize, Deserialize)]"

def renameLine (name : String) (required : Bool) : String :=
  if required then "    #[serde(rename = " ++ Text.Quoted.encode name ++ ")]"
  else "    #[serde(rename = " ++ Text.Quoted.encode name ++
    ", skip_serializing_if = \"Option::is_none\")]"

def inputFieldLines (field : Field) (identifier : String) (type : FieldType) : List String :=
  [if type.required then "    /// (Required.)" else "    /// (Optional.)"] ++
  (match field.description with
    | some text => "    ///" :: docLines "    " text
    | none => []) ++
  [renameLine field.name type.required,
   "    pub " ++ identifier ++ ": " ++ type.expr.text ++ ","]

-- Names are compared before any type is looked at.
def inputLines (decl : InputDecl) : Except Error (List String) := do
  let identifiers ← inputIdentifiers decl
  let fields ← (decl.fields.zip identifiers).mapM fun (field, identifier) => do
    return inputFieldLines field identifier (← fieldType decl.name field)
  return headLines decl.name decl.description ++
    [deriveLine decl, "pub struct " ++ decl.name ++ " \x7b"] ++
    fields.flatten ++
    ["\x7d",
     "",
     "impl Input for " ++ decl.name ++ " \x7b\x7d",
     ""]

-- The trait that every input record implements, with the list of those records.
def markerLines (decls : Declarations) : List String :=
  ["/// Input represents one of the Input structs:",
   "///",
   "/// " ++ ", ".intercalate decls.inputNames ++ ".",
   "pub trait Input: Serialize \x7b\x7d",
   ""]

def inputsText (decls : Declarations) : Except Error String := do
  let blocks ← decls.inputs.mapM inputLines
  return joinLines (
    ["#![allow(unused_imports)]", "",
     "use serde::\x7bDeserialize, Serialize\x7d;", "",
     "use super::*;", ""] ++ markerLines decls ++ blocks.flatten)

-- A scalar that is no builtin is another name for a type, or wraps its text.
inductive Representation where
  | alias (target : String)
  | wrapped
  deriving DecidableEq, Repr

def representation (name : String) : Representation :=
  if name == "ID" then .alias "String"
  else if name == "Date" || name == "DateTime" then .wrapped
  else if name == "Map" then .alias "std::collections::BTreeMap<String, serde_json::Value>"
  else .alias "serde_json::Value"

def defaultDescription (name : String) : Option String :=
  if name == "ID" then some "A unique identifier, sent as a string."
  else if name == "Date" then some "An ISO-8601 encoded UTC date."
  else if name == "DateTime" then some "An ISO-8601 encoded UTC date and time."
  else if name == "Map" then some "A generic map of string keys to values."
  else none

def wrapperLines (name : String) : List String :=
  ["#[derive(Debug, Clone, Default, PartialEq, Eq, Hash, PartialOrd, Ord, Serialize, Deserialize)]",
   "#[serde(transparent)]",
   "pub struct " ++ name ++ "(pub String);",
   "",
   "impl " ++ name ++ " \x7b",
   "    /// Returns the encoded text.",
   "    #[must_use]",
   "    pub fn as_str(&self) -> &str \x7b",
   "        &self.0",
   "    \x7d",
   "\x7d",
   "",
   "impl From<String> for " ++ name ++ " \x7b",
   "    fn from(value: String) -> Self \x7b",
   "        Self(value)",
   "    \x7d",
   "\x7d",
   ""]

def scalarLines (decl : ScalarDecl) : List String :=
  headLines decl.name (decl.description.or (defaultDescription decl.name)) ++
  match representation decl.name with
  | .alias target => ["pub type " ++ decl.name ++ " = " ++ target ++ ";", ""]
  | .wrapped => wrapperLines decl.name

def scalarsText (decls : Declarations) : String :=
  joinLines (
    ["#![allow(unused_imports)]", "",
     "use serde::\x7bDeserialize, Serialize\x7d;", ""] ++
    (decls.scalars.filter fun decl => !isBuiltinScalar decl.name).flatMap scalarLines)

-- `fault` says why the content is not laid out.
structure GeneratedFile where
  name : String
  content : String
  fault : Option Source.Fault
  deriving DecidableEq, Repr

def GeneratedFile.formatted (file : GeneratedFile) : Bool := file.fault.isNone

def preamble : String := joinLines [
  "// Copyright (c) gqlbind contributors",
  "// SPDX-License-Identifier: MIT",
  "//",
  "// Code generated by gqlbind; DO NOT EDIT."]

def GeneratedFile.render (name body : String) : GeneratedFile :=
  match Source.canonical body with
  | .ok text => { name, content := preamble ++ "\n" ++ text, fault := none }
  | .error fault =>
    { name, content := preamble ++ "\n// format error: " ++ fault.message ++ "\n\n" ++ body,
      fault := some fault }

def GeneratedFile.events (file : GeneratedFile) : List Event :=
  match file.fault with
  | some fault =>
    [⟨.warn, "gqlbind_codegen::generator",
      "format error in " ++ file.name ++ ": " ++ fault.message, []⟩]
  | none => []

def enumsFile : String := "enums.rs"

def inputsFile : String := "inputs.rs"

def scalarsFile : String := "scalars.rs"

-- Enums are looked at before inputs.
def generate (decls : Declarations) : Except Error (List GeneratedFile) := do
  let enums ← enumsText decls
  let inputs ← inputsText decls
  return [.render enumsFile enums, .render inputsFile inputs,
    .render scalarsFile (scalarsText decls)]

end SchemaBindings.Binding
