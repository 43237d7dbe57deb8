import SchemaBindings.Endpoint
import SchemaBindings.Endpoint.Domain

namespace SchemaBindings.Endpoint

inductive SchemeKind where
  | web
  | file
  | other
  deriving DecidableEq, Repr

-- The ports that the schemes imply.
def impliedPort? (scheme : String) : Option Nat :=
  [("http", 80), ("https", 443), ("ws", 80), ("wss", 443), ("ftp", 21)].lookup scheme

def SchemeKind.ofText (scheme : String) : SchemeKind :=
  if scheme == "file" then .file else if (impliedPort? scheme).isSome then .web else .other

-- A backslash is as good as a slash unless the scheme is one of the others.
def SchemeKind.isSpecial : SchemeKind → Bool
  | .other => false
  | _ => true

def isSlash (special : Bool) (c : Char) : Bool := c == '/' || (special && c == '\\')

def isQueryMark (c : Char) : Bool := c == '?' || c == '#'

-- Control characters and blanks around the text are dropped, line breaks and tabs everywhere.
def clean (cs : List Char) : List Char :=
  let isEdge := fun c : Char => c.toNat ≤ 0x20
  (((cs.dropWhile isEdge).reverse.dropWhile isEdge).reverse).filter fun c =>
    c != '\t' && c != '\n' && c != '\r'

def isSchemePart (c : Char) : Bool :=
  Text.isAsciiLower c || Text.isAsciiUpper c || Text.isAsciiDigit c || c == '+' || c == '-' ||
    c == '.'

def splitScheme? (cs : List Char) : Option (String × List Char) :=
  match cs.span isSchemePart with
  | (first :: more, ':' :: rest) =>
    if Text.isAsciiLower first || Text.isAsciiUpper first then
      some (String.ofList ((first :: more).map Text.lowerAscii), rest)
    else none
  | _ => none

-- What stands before the last at sign, and what follows it.
def splitUserInfo (authority : List Char) : Option (List Char) × List Char :=
  if authority.contains '@' then
    let back := (authority.reverse.takeWhile (· != '@')).reverse
    (some (authority.take (authority.length - back.length - 1)), back)
  else (none, authority)

-- A colon ends the host unless it stands in brackets.
def splitHost (inBrackets : Bool) : List Char → List Char × List Char
  | [] => ([], [])
  | c :: rest =>
    if c == ':' && !inBrackets then ([], c :: rest)
    else
      let (host, more) := splitHost (c == '[' || (inBrackets && c != ']')) rest
      (c :: host, more)

-- The number is dropped where it is the implied one. The text after the digits is given back.
def readPort (scheme : String) (cs : List Char) : Except Fault (Option Nat × List Char) :=
  let (digits, rest) := cs.span Text.isAsciiDigit
  match rest with
  | c :: _ => if c == '\\' then finish digits rest else .error .invalidPort
  | [] => finish digits rest
where
  finish (digits rest : List Char) : Except Fault (Option Nat × List Char) :=
    let port := digitsValue 10 (digits.map fun c => c.toNat - 0x30)
    if port > 65535 then .error .invalidPort
    else if digits.isEmpty || impliedPort? scheme == some port then .ok (none, rest)
    else .ok (some port, rest)

def isSingleDot (segment : String) : Bool := [".", "%2e"].contains segment.toLower

def isDoubleDot (segment : String) : Bool :=
  ["..", "%2e%2e", "%2e.", ".%2e"].contains segment.toLower

def isDriveLetter (segment : String) : Bool :=
  match segment.toList with
  | [letter, mark] =>
    (Text.isAsciiLower letter || Text.isAsciiUpper letter) && (mark == ':' || mark == '|')
  | _ => false

-- Going up never leaves the root, and never leaves a drive. `passed` is nearest segment first.
def parentOf : List String → List String
  | [] => []
  | segment :: passed => if isDriveLetter segment then segment :: passed else passed

def settleSegments (passed : List String) : List String → List String
  | [] => passed.reverse
  | [last] =>
    if isDoubleDot last then ("" :: parentOf passed).reverse
    else if isSingleDot last then ("" :: passed).reverse
    else (last :: passed).reverse
  | segment :: rest =>
    if isDoubleDot segment then settleSegments (parentOf passed) rest
    else if isSingleDot segment then settleSegments passed rest
    else settleSegments (segment :: passed) rest

def splitSegments (special : Bool) (cs : List Char) : List String :=
  (cs.splitOnP (isSlash special)).map fun segment => String.ofList (Percent.encode .path segment)

def pathSegments (special : Bool) (cs : List Char) : List String :=
  settleSegments [] (splitSegments special
    (match cs with
    | c :: rest => if isSlash special c then rest else cs
    | [] => []))

def pathText (segments : List String) : String := "/" ++ "/".intercalate segments

structure Tail where
  query : Option String
  fragment : Option String

def readTail (special : Bool) (cs : List Char) : Tail :=
  let (front, back) := cs.span (· != '#')
  { query := match front with
      | '?' :: query => some (String.ofList
          (Percent.encode (if special then .specialQuery else .query) query))
      | _ => none
    fragment := match back with
      | '#' :: fragment => some (String.ofList (Percent.encode .fragment fragment))
      | _ => none }

-- Only the first colon separates a name from a password.
def readUserInfo (cs : List Char) : String × String :=
  let (name, rest) := cs.span (· != ':')
  (String.ofList (Percent.encode .userInfo name),
    String.ofList (Percent.encode .userInfo (rest.drop 1)))

-- Whether there is a host. A name or a password without one is wrong in itself, and so is an at
-- sign before a path.
def namesHost (kind : SchemeKind) (userInfo : Option (List Char)) (host : List Char)
    (hasPort hasPath : Bool) : Except Fault Bool :=
  if host.isEmpty then
    if kind == .web || hasPort then .error .emptyHost
    else match userInfo with
      | none => .ok false
      | some [] => if hasPath then .error .emptyHost else .ok false
      | some [':'] => .ok false
      | some _ => .error .emptyHost
  else .ok true

def readAuthority (names : Names) (kind : SchemeKind) (scheme : String) (cs : List Char) :
    Except Fault (Option Endpoint) := do
  let special := kind.isSpecial
  let (authority, rest) := cs.span fun c => !isSlash special c && !isQueryMark c
  let (userInfo, hostPort) := splitUserInfo authority
  let (hostText, portText) := splitHost false hostPort
  if !(← namesHost kind userInfo hostText (!portText.isEmpty) (!rest.isEmpty)) then return none
  let host ← Host.ofText names special hostText
  let (port, beyond) ←
    if portText.isEmpty then pure (none, []) else readPort scheme (portText.drop 1)
  let (pathPart, tailPart) := (beyond ++ rest).span fun c => !isQueryMark c
  let (username, password) := readUserInfo (userInfo.getD [])
  let tail := readTail special tailPart
  return some { scheme, username, password, host, port
                path := if pathPart.isEmpty && !special then ""
                  else pathText (pathSegments special pathPart)
                query := tail.query
                fragment := tail.fragment }

-- A path that starts with a drive leaves no room for a host.
def fileSegments? (cs : List Char) : Option (List String) :=
  match splitSegments true (cs.drop 1) with
  | first :: rest =>
    if isDriveLetter first then none
    else
      let segments := settleSegments [] (first :: rest)
      match segments.dropWhile (·.isEmpty) with
      | [] => some [""]
      | kept => some kept
  | [] => some [""]

def readFile (names : Names) (cs : List Char) : Except Fault (Option Endpoint) := do
  let (hostText, rest) := cs.span fun c => !isSlash true c && !isQueryMark c
  if hostText.isEmpty || isDriveLetter (String.ofList hostText) then return none
  let host ← Host.ofText names true hostText
  if host == "localhost" then return none
  let (pathPart, tailPart) := rest.span fun c => !isQueryMark c
  let tail := readTail true tailPart
  return (fileSegments? pathPart).map fun segments =>
    { scheme := "file", username := "", password := "", host, port := none
      path := pathText segments
      query := tail.query
      fragment := tail.fragment }

def parse (names : Names) : Reader := fun text => do
  let some (scheme, rest) := splitScheme? (clean text.toList) | throw .noScheme
  match SchemeKind.ofText scheme with
  | .web => readAuthority names .web scheme (rest.dropWhile (isSlash true))
  | .file =>
    match rest with
    | a :: b :: rest =>
      if isSlash true a && isSlash true b then readFile names rest else return none
    | _ => return none
  | .other =>
    match rest with
    | '/' :: '/' :: rest => readAuthority names .other scheme rest
    | _ => return none

def plainReader : Reader := parse Domain.ofText?

end SchemaBindings.Endpoint
