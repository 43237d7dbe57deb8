import SchemaBindings.Introspection
import SchemaBindings.Introspection.Query
import SchemaBindings.Program

namespace SchemaBindings

namespace Loader

-- What stands in the way of an answer: a header or a scheme that cannot be used, nobody there, an
-- answer that does not come or breaks off, or whatever the transport reports.
inductive Trouble where
  | header
  | scheme (address : String)
  | unreachable (address : String) (cause : Http.Unreachable)
  | dropped (address : String)
  | cut
  | lost (report : String) (reasons : List String)
  deriving DecidableEq, Repr

namespace Trouble

def message : Trouble → String
  | .header => "builder error"
  | .scheme address => "builder error for url (" ++ address ++ ")"
  | .unreachable address _ => "error sending request for url (" ++ address ++ ")"
  | .dropped address => "error sending request for url (" ++ address ++ ")"
  | .cut => "error decoding response body"
  | .lost report _ => report

def causes : Trouble → List String
  | .header => ["failed to parse header value"]
  | .scheme _ => ["URL scheme is not allowed"]
  | .unreachable _ cause => "client error (Connect)" :: cause.causes
  | .dropped _ => ["client error (SendRequest)", "connection closed before message completed"]
  | .cut => ["request or response body error", "error reading a body from connection",
      "end of file before message length reached"]
  | .lost _ reasons => reasons

end Trouble

inductive CredentialFault where
  | contradictory
  | emptyToken
  | unset
  deriving DecidableEq, Repr

def CredentialFault.message : CredentialFault → String
  | .contradictory => "an API token was set together with without_authentication"
  | .emptyToken => "empty API token"
  | .unset => "no authentication configured"

inductive Error where
  | exchange (trouble : Trouble)
  | status (code : Nat) (body : String)
  | document (cause : Introspection.Error)
  | endpoint (text : String) (fault : Endpoint.Fault)
  | credentials (fault : CredentialFault)
  deriving DecidableEq, Repr

-- The texts of two of the messages, for parts that have no name here.
def endpointMessage (endpoint reason : String) : String :=
  "invalid endpoint '" ++ endpoint ++ "': " ++ reason

def credentialsMessage (reason : String) : String := "authentication error: " ++ reason

def Error.message : Error → String
  | .exchange trouble => "HTTP error: " ++ trouble.message
  | .status code body =>
    "non-200 OK status code: " ++ Http.statusText code ++ " body: " ++ Text.Quoted.encode body
  | .document cause => "decode error: " ++ cause.message
  | .endpoint text fault => endpointMessage text fault.message
  | .credentials fault => credentialsMessage fault.message

-- What the message goes back to, nearest first.
def Error.causes : Error → List String
  | .exchange trouble => trouble.message :: trouble.causes
  | .document cause => cause.message :: cause.causes
  | _ => []

inductive Region where
  | us
  | eu
  deriving DecidableEq, Repr

def Region.name : Region → String
  | .us => "us"
  | .eu => "eu"

def Region.endpoint : Region → String
  | .us => "https://us.api.mondoo.com/query"
  | .eu => "https://eu.api.mondoo.com/query"

def defaultUserAgent : String := "gqlbind/0.1.0"

-- The time limit is in milliseconds.
structure Settings where
  endpoint : String := Region.us.endpoint
  token : Option String := none
  anonymous : Bool := false
  userAgent : String := defaultUserAgent
  timeLimit : Nat := 30000
  deriving DecidableEq, Repr

namespace Settings

def withEndpoint (settings : Settings) (endpoint : String) : Settings := { settings with endpoint }

def withRegion (settings : Settings) (region : Region) : Settings :=
  settings.withEndpoint region.endpoint

def withToken (settings : Settings) (token : String) : Settings :=
  { settings with token := some token }

def withoutAuthentication (settings : Settings) : Settings := { settings with anonymous := true }

def withUserAgent (settings : Settings) (userAgent : String) : Settings :=
  { settings with userAgent }

def withTimeLimit (settings : Settings) (timeLimit : Nat) : Settings :=
  { settings with timeLimit }

-- The token to be sent, if any is.
def credentials (settings : Settings) : Except CredentialFault (Option String) :=
  match settings.anonymous, settings.token with
  | true, some _ => .error .contradictory
  | true, none => .ok none
  | false, some token => if token.isEmpty then .error .emptyToken else .ok (some token)
  | false, none => .error .unset

end Settings

end Loader

-- A configuration that was checked.
structure Loader where
  endpoint : Endpoint
  token : Option String
  userAgent : String
  timeLimit : Nat
  deriving DecidableEq, Repr

namespace Loader

def origin (loader : Loader) : String := "https://" ++ loader.endpoint.host

def isAuthenticated (loader : Loader) : Bool := loader.token.isSome

def check (addresses : Endpoint.Reader) (settings : Settings) : Except Error Loader := do
  let token ← settings.credentials.mapError .credentials
  let address ← (addresses settings.endpoint).mapError (.endpoint settings.endpoint)
  let some endpoint := address | throw (.endpoint settings.endpoint .missingHost)
  if !Http.isHeaderText settings.userAgent then throw (.exchange .header)
  return { endpoint, token, userAgent := settings.userAgent, timeLimit := settings.timeLimit }

def configured (loader : Loader) : Event :=
  ⟨.debug, "gqlbind_client::builder", "schema loader configured",
    [("endpoint", loader.endpoint.text),
     ("authenticated", if loader.isAuthenticated then "true" else "false")]⟩

def configure (addresses : Endpoint.Reader) (settings : Settings) :
    Program (Except Error Loader) := do
  match check addresses settings with
  | .error error => return .error error
  | .ok loader =>
    Program.log loader.configured
    return .ok loader

def source : String := "gqlbind_client::loader"

-- A name in the address is sent as a credential of its own.
def addressCredential (endpoint : Endpoint) : Option String := do
  let name ← decoded endpoint.username
  let password := if endpoint.password.isEmpty then none else decoded endpoint.password
  guard (!name.isEmpty || password.isSome)
  let plain := name ++ ":" ++ password.getD ""
  return "Basic " ++ String.ofList (Http.Base64.encode plain.toUTF8.toList)
where
  decoded (text : String) : Option String :=
    String.fromUTF8? ⟨(Endpoint.Percent.decode text.toList).toArray⟩

def authorization (loader : Loader) : List (String × String) :=
  (addressCredential loader.endpoint).toList.map ("authorization", ·) ++
    loader.token.toList.map fun token => ("authorization", "bearer " ++ token)

def request (loader : Loader) : Http.Request :=
  { endpoint := if (addressCredential loader.endpoint).isSome then
      loader.endpoint.withoutUserInfo else loader.endpoint
    headers := [("content-type", "application/json"), ("accept", "application/json"),
      ("origin", loader.origin), ("user-agent", loader.userAgent)] ++ loader.authorization
    body := Introspection.requestBody }

-- Why a request is not even tried.
def obstacle? (loader : Loader) : Option Trouble :=
  if !loader.token.all Http.isHeaderText then some .header
  else if !loader.request.endpoint.isWeb then
    some (.scheme loader.request.endpoint.text)
  else none

-- Anything but the plain code of success is an error, and its body is shown.
def judge (outcome : Http.Outcome) : Except Error String :=
  match outcome.reply with
  | .unreachable cause => .error (.exchange (.unreachable outcome.address cause))
  | .dropped => .error (.exchange (.dropped outcome.address))
  | .cut => .error (.exchange .cut)
  | .lost _ message causes => .error (.exchange (.lost message causes))
  | .moved code _ body => .error (.status code.status (Http.bodyText code.status body))
  | .whole status body =>
    let text := Http.bodyText status body
    if status == 200 then .ok text else .error (.status status text)

def outcomeEvents : Except Error String → List Event
  | .error (.status code _) =>
    [⟨.error, source, "Introspection failed with status " ++ Http.statusText code, []⟩]
  | .error _ => []
  | .ok text =>
    [⟨.debug, source, "introspection response received",
      [("bytes", toString text.utf8ByteSize)]⟩]

def fetch (loader : Loader) : Program (Except Error String) := do
  Program.log ⟨.info, source, "Fetching schema from " ++ loader.endpoint.text, []⟩
  match loader.obstacle? with
  | some trouble => return .error (.exchange trouble)
  | none =>
    let outcome := judge (← Program.ask loader.request)
    Program.logAll (outcomeEvents outcome)
    return outcome

def load (loader : Loader) : Program (Except Error Schema) := do
  match ← loader.fetch with
  | .error error => return .error error
  | .ok text =>
    Program.logAll (Introspection.parseEvents text)
    return (Introspection.parse text).mapError .document

end Loader

end SchemaBindings
