import SchemaBindings.Command.Options
import SchemaBindings.Generation

namespace SchemaBindings.Command

inductive Failure where
  | noCredentials
  | reading (path : String) (cause : Files.Fault)
  | configuration (cause : Loader.Error)
  | fetching (address : String) (cause : Loader.Error)
  | saving (path : String) (cause : Files.Fault)
  | generating (cause : Generation.Error)
  | writing (directory : String) (cause : Generation.Error)
  deriving DecidableEq, Repr

namespace Failure

def message : Failure → String
  | .noCredentials =>
    "no API token given: pass --token, set GQLBIND_API_TOKEN, or use --no-auth"
  | .reading path _ => "failed to read schema file " ++ path
  | .configuration _ => "invalid loader configuration"
  | .fetching address _ => "failed to fetch schema from " ++ address
  | .saving path _ => "failed to save schema to " ++ path
  | .generating _ => "code generation failed"
  | .writing directory _ => "failed to write files to " ++ directory

-- What the message goes back to, nearest first.
def causes : Failure → List String
  | .noCredentials => []
  | .reading _ cause => [cause.message]
  | .configuration cause => cause.message :: cause.causes
  | .fetching _ cause => cause.message :: cause.causes
  | .saving _ cause => [cause.message]
  | .generating cause => cause.message :: cause.causes
  | .writing _ cause => cause.message :: cause.causes

def chain (failure : Failure) : List String := failure.message :: failure.causes

-- Further lines of a cause stand below its first one.
def indented (first others text : String) : String :=
  first ++ ("\n" ++ others).intercalate (text.splitOn "\n")

def numberText (n : Nat) : String :=
  let digits := toString n
  String.ofList (List.replicate (5 - digits.length) ' ') ++ digits ++ ": "

-- A cause that stands alone has no number.
def causesText : List String → String
  | [] => ""
  | [cause] => "\n\nCaused by:\n" ++ indented "    " "    " cause
  | causes => "\n\nCaused by:" ++ String.join (causes.zipIdx.map fun (cause, n) =>
      "\n" ++ indented (numberText n) "       " cause)

def report (failure : Failure) : String :=
  "Error: " ++ failure.message ++ causesText failure.causes

end Failure

-- Events up to `rank` are shown, none of them where it is zero. No start means every source.
structure Directive where
  start : Option String
  rank : Nat
  deriving DecidableEq, Repr

def mostDetailed : Nat := 5

def rankOfNumber? (digits : List Char) : Option Nat :=
  if digits.all Text.isAsciiDigit then
    ((String.ofList digits).toNat?).filter (· ≤ mostDetailed)
  else none

-- A level goes by its name or by its number, which may have a sign in front.
def rank? (text : String) : Option Nat :=
  (match text.toList with
    | '+' :: digits => rankOfNumber? digits
    | digits => rankOfNumber? digits).or
  ([("off", 0), ("error", 1), ("warn", 2), ("info", 3), ("debug", 4), ("trace", 5)].lookup
    text.toLower)

namespace Directive

def specificity (directive : Directive) : Nat :=
  match directive.start with
  | some start => start.utf8ByteSize + 1
  | none => 0

def concerns (directive : Directive) (event : Event) : Bool :=
  match directive.start with
  | some start => event.source.startsWith start
  | none => true

def isSourceStart (c : Char) : Bool :=
  c == '-' || c == ':' || c == '_' || Text.isIdentifierPart c

-- A lone word is a level if it can be one, and a source otherwise. Blanks in front are part of a
-- lone word, and nothing else may follow them.
def ofText? (text : String) : Option Directive :=
  match text.toList.dropWhile Text.isBlank with
  | [] => some ⟨none, mostDetailed⟩
  | c :: _ =>
    if !isSourceStart c then none
    else match text.toList.span (· != '=') with
      | (_, []) => match rank? text with
        | some rank => some ⟨none, rank⟩
        | none => some ⟨some text, mostDetailed⟩
      | (start, _ :: level) =>
        if start.head?.any Text.isBlank then none
        else if level.isEmpty then some ⟨some (String.ofList start), mostDetailed⟩
        else (rank? (String.ofList level)).map fun rank => ⟨some (String.ofList start), rank⟩

end Directive

abbrev LogFilter := List Directive

namespace LogFilter

def verbosityRank (verbosity : Nat) : Nat := min mostDetailed (verbosity + 2)

def levelName (verbosity : Nat) : String :=
  match verbosityRank verbosity with
  | 2 => "warn"
  | 3 => "info"
  | 4 => "debug"
  | _ => "trace"

def ofRank (rank : Nat) : LogFilter := [⟨none, rank⟩]

-- An empty text shows errors only, and one that makes no sense counts as warnings and errors.
def ofText (text : String) : LogFilter :=
  if text.isEmpty then ofRank 1
  else match ((text.toList.splitOn ',').filter (!·.isEmpty)).mapM
      fun directive => Directive.ofText? (String.ofList directive) with
    | some directives => if directives.isEmpty then ofRank 1 else directives
    | none => ofRank 2

def choose (setting : Option String) (verbosity : Nat) : LogFilter :=
  match setting with
  | some text => ofText text
  | none => ofRank (verbosityRank verbosity)

-- The directive with the longest start decides; of two that are as specific the later one counts.
def decisive? (filter : LogFilter) (event : Event) : Option Directive :=
  (filter.filter (·.concerns event)).foldl (fun best directive =>
    match best with
    | some other => if directive.specificity < other.specificity then best else some directive
    | none => some directive) none

def admits (filter : LogFilter) (event : Event) : Bool :=
  match filter.decisive? event with
  | some directive => event.level.rank ≤ directive.rank
  | none => false

end LogFilter

-- A line of the log, without the time. Sources are named from two steps of verbosity on.
def logLine (verbosity : Nat) (event : Event) : String :=
  event.level.name ++ " " ++ (if 2 ≤ verbosity then event.source ++ ": " else "") ++ event.text

def source : String := "gqlbind"

def Options.loaderSettings (options : Options) : Loader.Settings :=
  let settings := Loader.Settings.withRegion {} options.region
  let settings := match options.endpoint with
    | some endpoint => settings.withEndpoint endpoint
    | none => settings
  if options.noAuth then settings.withoutAuthentication
  else match options.token with
    | some token => settings.withToken token
    | none => settings

def readSaved (path : String) : Program (Except Failure String) := do
  Program.log ⟨.info, source, "Reading schema from " ++ path, []⟩
  return (← Program.read path).mapError (.reading path)

def save (path text : String) : Program (Except Failure Unit) := do
  match ← Program.write path text with
  | .error cause => return .error (.saving path cause)
  | .ok () =>
    Program.log ⟨.info, source, "Saved schema to " ++ path, []⟩
    return .ok ()

def fetchDocument (addresses : Endpoint.Reader) (options : Options) :
    Program (Except Failure String) := do
  match ← Loader.configure addresses options.loaderSettings with
  | .error cause => return .error (.configuration cause)
  | .ok loader =>
    match ← loader.fetch with
    | .error cause => return .error (.fetching loader.endpoint.text cause)
    | .ok text =>
      match options.saveSchema with
      | none => return .ok text
      | some path => return (← save path text).map fun () => text

-- The document is read from a file if one is named, and fetched otherwise.
def document (addresses : Endpoint.Reader) (options : Options) :
    Program (Except Failure String) :=
  match options.schema with
  | some path => readSaved path
  | none =>
    if options.token.isNone && !options.noAuth then return .error .noCredentials
    else fetchDocument addresses options

def unformatted (file : Binding.GeneratedFile) : Option Event :=
  if file.formatted then none
  else some ⟨.warn, source, file.name ++ " was written unformatted", []⟩

def generateInto (directory text : String) : Program (Except Failure (List String)) := do
  match ← Generation.ofText text with
  | .error cause => return .error (.generating cause)
  | .ok files =>
    Program.logAll (files.filterMap unformatted)
    return (← Generation.writeFiles directory files).mapError (.writing directory)

-- The paths that were written, in order.
def work (addresses : Endpoint.Reader) (options : Options) :
    Program (Except Failure (List String)) := do
  match ← document addresses options with
  | .error failure => return .error failure
  | .ok text => generateInto options.out text

-- What a run leaves behind besides files and events.
structure Completion where
  exitCode : Nat
  output : String
  report : String
  deriving DecidableEq, Repr

def conclude : Except Failure (List String) → Completion
  | .ok paths => ⟨0, String.join (paths.map (· ++ "\n")), ""⟩
  | .error failure => ⟨1, "", failure.report⟩

def explain : Usage → Completion
  | .help => ⟨0, helpText, ""⟩
  | .version => ⟨0, versionText, ""⟩
  | usage => ⟨2, "", usage.message⟩

def run (addresses : Endpoint.Reader) (arguments : List String)
    (environment : String → Option String) : Program Completion :=
  match Options.read arguments environment with
  | .error usage => return explain usage
  | .ok options => return conclude (← work addresses options)

-- How much of the log is shown and how, from the same arguments.
structure LogView where
  filter : LogFilter
  verbosity : Nat

def LogView.ofArguments (arguments : List String) (environment : String → Option String) :
    LogView :=
  let verbosity := match Options.read arguments environment with
    | .ok options => options.verbosity
    | .error _ => 0
  ⟨LogFilter.choose (environment "RUST_LOG") verbosity, verbosity⟩

def LogView.line? (view : LogView) (event : Event) : Option String :=
  if view.filter.admits event then some (logLine view.verbosity event) else none

end SchemaBindings.Command
