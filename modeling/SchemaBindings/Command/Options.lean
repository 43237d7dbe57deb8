import SchemaBindings.Loader

namespace SchemaBindings.Command

inductive Flag where
  | token
  | noAuth
  | endpoint
  | region
  | schema
  | out
  | saveSchema
  | verbose
  | help
  | version
  deriving DecidableEq, Repr

namespace Flag

def all : List Flag :=
  [.token, .noAuth, .endpoint, .region, .schema, .out, .saveSchema, .verbose, .help, .version]

def name : Flag → String
  | .token => "token"
  | .noAuth => "no-auth"
  | .endpoint => "endpoint"
  | .region => "region"
  | .schema => "schema"
  | .out => "out"
  | .saveSchema => "save-schema"
  | .verbose => "verbose"
  | .help => "help"
  | .version => "version"

def letter? : Flag → Option Char
  | .verbose => some 'v'
  | .help => some 'h'
  | .version => some 'V'
  | _ => none

-- What a value of the flag is called. Flags without one are only switched on.
def valueName? : Flag → Option String
  | .token => some "TOKEN"
  | .endpoint => some "ENDPOINT"
  | .region => some "REGION"
  | .schema => some "FILE"
  | .out => some "DIR"
  | .saveSchema => some "FILE"
  | _ => none

def takesValue (flag : Flag) : Bool := flag.valueName?.isSome

def isPath : Flag → Bool
  | .schema => true
  | .out => true
  | .saveSchema => true
  | _ => false

def text (flag : Flag) : String :=
  "--" ++ flag.name ++
    match flag.valueName? with
    | some value => " <" ++ value ++ ">"
    | none => if flag == .verbose then "..." else ""

def environmentName? : Flag → Option String
  | .token => some "GQLBIND_API_TOKEN"
  | .endpoint => some "GQLBIND_ENDPOINT"
  | _ => none

def ofName? (name : String) : Option Flag := all.find? (·.name == name)

def ofLetter? (letter : Char) : Option Flag := all.find? (·.letter? == some letter)

def excludes : Flag → Flag → Bool
  | .noAuth, .token => true
  | .schema, .saveSchema => true
  | .schema, .noAuth => true
  | _, _ => false

def conflictsWith (one other : Flag) : Bool := one.excludes other || other.excludes one

end Flag

def programName : String := "gqlbind"

def programVersion : String := "0.1.0"

def description : String := "Generate Rust bindings for GraphQL enums and input objects"

def versionText : String := programName ++ " " ++ programVersion ++ "\n"

def optionLines : List (String × String) := [
  ("      --token <TOKEN>", "API token sent as a bearer credential [env: GQLBIND_API_TOKEN]"),
  ("      --no-auth", "Send the introspection request without credentials"),
  ("      --endpoint <ENDPOINT>",
    "Explicit GraphQL endpoint (overrides --region) [env: GQLBIND_ENDPOINT=]"),
  ("      --region <REGION>", "API region [default: us] [possible values: us, eu]"),
  ("      --schema <FILE>", "Generate from a saved introspection document instead of fetching"),
  ("      --out <DIR>", "Directory receiving enums.rs, inputs.rs and scalars.rs [default: .]"),
  ("      --save-schema <FILE>", "Save the fetched introspection document to this file"),
  ("  -v, --verbose...", "Increase log verbosity (-v, -vv, -vvv)"),
  ("  -h, --help", "Print help"),
  ("  -V, --version", "Print version")]

def padded (width : Nat) (text : String) : String :=
  text ++ String.ofList (List.replicate (width - text.length) ' ')

def helpText : String :=
  description ++ "\n\nUsage: " ++ programName ++ " [OPTIONS]\n\nOptions:\n" ++
    String.join (optionLines.map fun (option, help) => padded 29 option ++ help ++ "\n")

-- Why no run comes about: something is wrong, or only a text was asked for.
inductive Usage where
  | unexpected (argument : String)
  | surplusValue (value : String) (flag : Flag)
  | invalidValue (value : String) (flag : Flag)
  | missingValue (flag : Flag)
  | repeated (flag : Flag)
  | conflict (flag : Flag) (others : List Flag)
  | help
  | version
  deriving DecidableEq, Repr

namespace Usage

def problem : Usage → String
  | .unexpected argument => "unexpected argument '" ++ argument ++ "' found"
  | .surplusValue value flag =>
    "unexpected value '" ++ value ++ "' for '" ++ flag.text ++ "' found; no more were expected"
  | .invalidValue value flag => "invalid value '" ++ value ++ "' for '" ++ flag.text ++ "'"
  | .missingValue flag =>
    "a value is required for '" ++ flag.text ++ "' but none was supplied"
  | .repeated flag => "the argument '" ++ flag.text ++ "' cannot be used multiple times"
  | .conflict flag [other] =>
    "the argument '" ++ flag.text ++ "' cannot be used with '" ++ other.text ++ "'"
  | .conflict flag others =>
    "the argument '" ++ flag.text ++ "' cannot be used with:" ++
      String.join (others.map fun other => "\n  " ++ other.text)
  | .help => description
  | .version => programName ++ " " ++ programVersion

def isRequest : Usage → Bool
  | .help => true
  | .version => true
  | _ => false

def message (usage : Usage) : String :=
  if usage.isRequest then usage.problem else "error: " ++ usage.problem

end Usage

structure Options where
  token : Option String := none
  noAuth : Bool := false
  endpoint : Option String := none
  region : Loader.Region := .us
  schema : Option String := none
  out : String := "."
  saveSchema : Option String := none
  verbosity : Nat := 0
  deriving DecidableEq, Repr

def mostVerbose : Nat := 255

-- `given` holds the flags met so far in their order.
structure Reading where
  given : List Flag := []
  options : Options := {}
  deriving DecidableEq, Repr

def region? (text : String) : Option Loader.Region :=
  [Loader.Region.us, .eu].find? (·.name == text)

def checkValue (flag : Flag) (value : String) : Except Usage Unit :=
  if flag.isPath then
    if value.isEmpty then .error (.missingValue flag) else .ok ()
  else if flag == .region then
    if value.isEmpty then .error (.missingValue flag)
    else if (region? value).isSome then .ok ()
    else .error (.invalidValue value flag)
  else .ok ()

def Options.withValue (options : Options) (value : String) : Flag → Options
  | .token => { options with token := some value }
  | .endpoint => { options with endpoint := some value }
  | .region => { options with region := (region? value).getD .us }
  | .schema => { options with schema := some value }
  | .out => { options with out := value }
  | .saveSchema => { options with saveSchema := some value }
  | _ => options

namespace Reading

def mark (reading : Reading) (flag : Flag) : Reading :=
  { reading with given := reading.given ++ [flag] }

def enter (reading : Reading) (flag : Flag) (value : String) : Except Usage Reading := do
  if reading.given.contains flag then throw (.repeated flag)
  checkValue flag value
  return { reading.mark flag with options := reading.options.withValue value flag }

-- Flags that have no value. Being louder than loud changes nothing.
def switchOn (reading : Reading) : Flag → Except Usage Reading
  | .help => .error .help
  | .version => .error .version
  | .verbose =>
    .ok { reading with
      options := { reading.options with
        verbosity := min mostVerbose (reading.options.verbosity + 1) } }
  | .noAuth =>
    if reading.given.contains .noAuth then .error (.repeated .noAuth)
    else .ok { reading.mark .noAuth with options := { reading.options with noAuth := true } }
  | _ => .ok reading

end Reading

-- A flag that is not settled yet, with its value if that was met. It is settled, and found wrong,
-- when the next one is met or the arguments end; what is not understood is named at once.
abbrev Pending := Option (Flag × Option String)

def settle (reading : Reading) : Pending → Except Usage Reading
  | none => .ok reading
  | some (flag, none) => .error (.missingValue flag)
  | some (flag, some value) => reading.enter flag value

def readLetters (reading : Reading) (pending : Pending) :
    List Char → Except Usage (Reading × Pending)
  | [] => .ok (reading, pending)
  | letter :: rest =>
    match Flag.ofLetter? letter with
    | none => .error (.unexpected ("-" ++ String.singleton letter))
    | some flag => do
      let settled ← settle reading pending
      readLetters (← settled.switchOn flag) none rest

def readLong (reading : Reading) (pending : Pending) (text : List Char) :
    Except Usage (Reading × Pending) :=
  let (name, value) := text.span (· != '=')
  match Flag.ofName? (String.ofList name) with
  | none => .error (.unexpected ("--" ++ String.ofList name))
  | some flag =>
    match flag.takesValue, value with
    | true, [] => do return (← settle reading pending, some (flag, none))
    | true, _ :: value => do
      return (← (← settle reading pending).enter flag (String.ofList value), none)
    | false, [] => do return (← (← settle reading pending).switchOn flag, none)
    | false, _ :: value => .error (.surplusValue (String.ofList value) flag)

def isAwaited : Pending → Option Flag
  | some (flag, none) => some flag
  | _ => none

-- Behind a double hyphen nothing is a flag, and nothing else is understood.
def readArguments (reading : Reading) (pending : Pending) : List String → Except Usage Reading
  | [] => settle reading pending
  | argument :: rest =>
    match argument.toList with
    | ['-', '-'] =>
      match rest with
      | [] => settle reading pending
      | next :: _ => .error (.unexpected next)
    | '-' :: '-' :: text => do
      let (reading, pending) ← readLong reading pending text
      readArguments reading pending rest
    | '-' :: letter :: letters => do
      let (reading, pending) ← readLetters reading pending (letter :: letters)
      readArguments reading pending rest
    | _ =>
      match isAwaited pending with
      | some flag => readArguments reading (some (flag, some argument)) rest
      | none => .error (.unexpected argument)

-- The environment speaks where the arguments are silent.
def readVariable (environment : String → Option String) (reading : Reading) (flag : Flag) :
    Except Usage Reading :=
  if reading.given.contains flag then .ok reading
  else match flag.environmentName?.bind environment with
    | some value => reading.enter flag value
    | none => .ok reading

-- The first flag that cannot stand beside another one is the one that is named.
def conflict? (given : List Flag) : Option Usage :=
  (given.find? fun flag => given.any flag.conflictsWith).map fun flag =>
    .conflict flag (given.filter flag.conflictsWith)

def Options.read (arguments : List String) (environment : String → Option String) :
    Except Usage Options := do
  let reading ← readArguments {} none arguments
  let complete ← Flag.all.foldlM (readVariable environment) reading
  match conflict? complete.given with
  | some usage => throw usage
  | none => return complete.options

end SchemaBindings.Command
