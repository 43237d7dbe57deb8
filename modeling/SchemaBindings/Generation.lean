import SchemaBindings.Binding
import SchemaBindings.Introspection
import SchemaBindings.Program

namespace SchemaBindings.Generation

inductive Error where
  | document (cause : Introspection.Error)
  | binding (cause : Binding.Error)
  | write (path : String) (cause : Files.Fault)
  | read (cause : Files.Fault)
  deriving DecidableEq, Repr

namespace Error

def message : Error → String
  | .document cause => "introspection parse error: " ++ cause.message
  | .binding cause => cause.message
  | .write path cause => "failed to write '" ++ path ++ "': " ++ cause.message
  | .read cause => "IO error: " ++ cause.message

-- A defect of the generator, and not of what it was given.
def isInternal : Error → Bool
  | .binding cause => cause.isInternal
  | _ => false

-- What the message goes back to, nearest first.
def causes : Error → List String
  | .document cause => cause.message :: cause.causes
  | .binding _ => []
  | .write _ cause => [cause.message]
  | .read cause => [cause.message]

end Error

def ofDeclarations (decls : Declarations) :
    Program (Except Error (List Binding.GeneratedFile)) := do
  match Binding.generate decls with
  | .error cause => return .error (.binding cause)
  | .ok files =>
    Program.logAll (files.flatMap Binding.GeneratedFile.events)
    return .ok files

def ofSchema (schema : Schema) : Program (Except Error (List Binding.GeneratedFile)) := do
  Program.log schema.collect.collected
  ofDeclarations schema.collect

def ofText (text : String) : Program (Except Error (List Binding.GeneratedFile)) := do
  Program.logAll (Introspection.parseEvents text)
  match Introspection.parse text with
  | .error cause => return .error (.document cause)
  | .ok schema => ofSchema schema

def writing (path : String) : Event :=
  ⟨.info, "gqlbind_codegen::generator", "writing " ++ path, []⟩

-- The paths come back in the order of the files.
def writeFiles (directory : String) :
    List Binding.GeneratedFile → Program (Except Error (List String))
  | [] => return .ok []
  | file :: rest => do
    let path := Files.join directory file.name
    Program.log (writing path)
    match ← Program.write path file.content with
    | .error cause => return .error (.write path cause)
    | .ok () => return (← writeFiles directory rest).map (path :: ·)

def writeGenerated (directory : String)
    (generated : Except Error (List Binding.GeneratedFile)) :
    Program (Except Error (List String)) :=
  match generated with
  | .error error => return .error error
  | .ok files => writeFiles directory files

def schemaInto (directory : String) (schema : Schema) : Program (Except Error (List String)) := do
  writeGenerated directory (← ofSchema schema)

def textInto (directory text : String) : Program (Except Error (List String)) := do
  writeGenerated directory (← ofText text)

def savedInto (directory path : String) : Program (Except Error (List String)) := do
  match ← Program.read path with
  | .error cause => return .error (.read cause)
  | .ok text => textInto directory text

end SchemaBindings.Generation
