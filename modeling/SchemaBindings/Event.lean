namespace SchemaBindings

inductive Level where
  | trace
  | debug
  | info
  | warn
  | error
  deriving DecidableEq, Repr

def Level.name : Level → String
  | .trace => "TRACE"
  | .debug => "DEBUG"
  | .info => "INFO"
  | .warn => "WARN"
  | .error => "ERROR"

-- More urgent levels have lower ranks.
def Level.rank : Level → Nat
  | .error => 1
  | .warn => 2
  | .info => 3
  | .debug => 4
  | .trace => 5

-- `source` names the part of the program that reports; fields follow the message in order.
structure Event where
  level : Level
  source : String
  message : String
  fields : List (String × String) := []
  deriving DecidableEq, Repr

def Event.text (event : Event) : String :=
  event.message ++
    String.join (event.fields.map fun (name, value) => " " ++ name ++ "=" ++ value)

end SchemaBindings
