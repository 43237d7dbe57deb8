import SchemaBindings.Command.Run
import SchemaBindings.Endpoint.Parse

namespace SchemaBindings.Command

-- Files are those of the machine. No way to reach an endpoint is built in.

def faultOfCode (code : UInt32) (error : IO.Error) : Files.Fault :=
  if code == 2 then .missing
  else if code == 20 then .notDirectory
  else if code == 21 then .isDirectory
  else if code == 36 then .nameTooLong
  else .refused (toString error)

def fileFault (error : IO.Error) : Files.Fault :=
  match error with
  | .noFileOrDirectory _ _ _ => .missing
  | .inappropriateType _ code _ => faultOfCode code error
  | .invalidArgument _ code _ => faultOfCode code error
  | .resourceExhausted _ code _ => faultOfCode code error
  | .otherError code _ => faultOfCode code error
  | _ => .refused (toString error)

def guarded (path : String) (action : IO α) : IO (Except Files.Fault α) := do
  if path.contains '\x00' then return .error .nulInName
  try return .ok (← action) catch error => return .error (fileFault error)

def readOutside (path : String) : IO (Except Files.Fault String) := do
  match ← guarded path (IO.FS.readBinFile path) with
  | .error fault => return .error fault
  | .ok content =>
    match String.fromUTF8? content with
    | some text => return .ok text
    | none => return .error .notText

def execute (view : LogView) : Program α → IO α
  | .done value => return value
  | .readText path next => do execute view (next (← readOutside path))
  | .writeText path content next => do
    execute view (next (← guarded path (IO.FS.writeFile path content)))
  | .exchange request next =>
    execute view (next ⟨request.endpoint.text, .unreachable (.unsupported "no transport")⟩)
  | .report event next => do
    match view.line? event with
    | some line => IO.eprintln line
    | none => pure ()
    execute view next

def environmentNames : List String := Flag.all.filterMap Flag.environmentName? ++ ["RUST_LOG"]

end SchemaBindings.Command

open SchemaBindings.Command in
def main (arguments : List String) : IO UInt32 := do
  let settings ← environmentNames.mapM fun name => do return (name, ← IO.getEnv name)
  let environment := fun name => (settings.lookup name).join
  let view := LogView.ofArguments arguments environment
  let completion ← execute view (run SchemaBindings.Endpoint.plainReader arguments environment)
  IO.print completion.output
  unless completion.report.isEmpty do IO.eprintln completion.report
  return completion.exitCode.toUInt32
