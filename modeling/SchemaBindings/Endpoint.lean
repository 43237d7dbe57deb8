import SchemaBindings.Text

namespace SchemaBindings

-- All parts are in their normal spelling. The port is left out where the scheme implies it.
structure Endpoint where
  scheme : String
  username : String
  password : String
  host : String
  port : Option Nat
  path : String
  query : Option String
  fragment : Option String
  deriving DecidableEq, Repr

namespace Endpoint

def marked (mark : String) : Option String → String
  | some text => mark ++ text
  | none => ""

def userInfo (username password : String) : String :=
  if username.isEmpty && password.isEmpty then ""
  else if password.isEmpty then username ++ "@"
  else username ++ ":" ++ password ++ "@"

def text (endpoint : Endpoint) : String :=
  endpoint.scheme ++ "://" ++ userInfo endpoint.username endpoint.password ++ endpoint.host ++
    marked ":" (endpoint.port.map toString) ++ endpoint.path ++ marked "?" endpoint.query ++
    marked "#" endpoint.fragment

-- What a request line asks for.
def target (endpoint : Endpoint) : String :=
  (if endpoint.path.isEmpty then "/" else endpoint.path) ++ marked "?" endpoint.query

-- Name and password are no part of the address that a request goes to.
def withoutUserInfo (endpoint : Endpoint) : Endpoint :=
  { endpoint with username := "", password := "" }

def isWeb (endpoint : Endpoint) : Bool := endpoint.scheme == "http" || endpoint.scheme == "https"

inductive Fault where
  | noScheme
  | emptyHost
  | missingHost
  | invalidPort
  | invalidIpv4
  | invalidIpv6
  | invalidDomain
  | invalidDomainCharacter
  deriving DecidableEq, Repr

def Fault.message : Fault → String
  | .noScheme => "relative URL without a base"
  | .emptyHost => "empty host"
  | .missingHost => "missing host"
  | .invalidPort => "invalid port number"
  | .invalidIpv4 => "invalid IPv4 address"
  | .invalidIpv6 => "invalid IPv6 address"
  | .invalidDomain => "invalid international domain name"
  | .invalidDomainCharacter => "invalid domain character"

-- What a text says as an address: what is wrong with it, or the endpoint that it names if it names
-- a host at all.
abbrev Reader := String → Except Fault (Option Endpoint)

namespace Percent

inductive Part where
  | opaqueHost
  | userInfo
  | path
  | query
  | specialQuery
  | fragment
  deriving DecidableEq, Repr

-- The visible characters that a part escapes.
def Part.reserved : Part → List Char
  | .opaqueHost => []
  | .fragment => [' ', '"', '<', '>', '\x60']
  | .query => [' ', '"', '#', '<', '>']
  | .specialQuery => [' ', '"', '#', '<', '>', '\'']
  | .path => [' ', '"', '<', '>', '\x60', '#', '?', '\x7b', '\x7d']
  | .userInfo => [' ', '"', '<', '>', '\x60', '#', '?', '\x7b', '\x7d', '/', ':', ';', '=', '@',
      '[', '\\', ']', '^', '|']

def Part.escapes (part : Part) (c : Char) : Bool :=
  c.toNat < 0x20 || 0x7e < c.toNat || part.reserved.contains c

def upperHexDigit (n : Nat) : Char :=
  if n < 10 then Char.ofNat (0x30 + n) else Char.ofNat (0x37 + n)

def escapeByte (byte : UInt8) : List Char :=
  ['%', upperHexDigit (byte.toNat / 16), upperHexDigit (byte.toNat % 16)]

def encodeChar (part : Part) (c : Char) : List Char :=
  if part.escapes c then (String.utf8EncodeChar c).flatMap escapeByte else [c]

def encode (part : Part) (cs : List Char) : List Char := cs.flatMap (encodeChar part)

def hexValue? (c : Char) : Option Nat :=
  if '0' ≤ c && c ≤ '9' then some (c.toNat - 0x30)
  else if 'a' ≤ c && c ≤ 'f' then some (c.toNat - 0x57)
  else if 'A' ≤ c && c ≤ 'F' then some (c.toNat - 0x37)
  else none

-- A percent sign without two hexadecimal digits stands for itself.
def decode : List Char → List UInt8
  | [] => []
  | '%' :: high :: low :: rest =>
    match hexValue? high, hexValue? low with
    | some h, some l => UInt8.ofNat (16 * h + l) :: decode rest
    | _, _ => 0x25 :: decode (high :: low :: rest)
  | c :: rest => String.utf8EncodeChar c ++ decode rest
termination_by cs => cs.length

end Percent

def digitsValue (base : Nat) (digits : List Nat) : Nat :=
  digits.foldl (fun value digit => base * value + digit) 0

-- The value of a numeral in a base, if all its characters are digits of the base.
def numeral? (base : Nat) (cs : List Char) : Option Nat := do
  let digits ← cs.mapM Percent.hexValue?
  guard (digits.all (· < base))
  return digitsValue base digits

namespace Ipv4

-- A leading zero means octal and `0x` hexadecimal. A bare `0x` is zero.
def number? : List Char → Option Nat
  | [] => none
  | '0' :: 'x' :: digits => numeral? 16 digits
  | '0' :: 'X' :: digits => numeral? 16 digits
  | '0' :: digit :: digits => numeral? 8 (digit :: digits)
  | digits => numeral? 10 digits

-- One empty part at the end does not count.
def parts (host : List Char) : List (List Char) :=
  match (host.splitOn '.').reverse with
  | [] :: rest => rest.reverse
  | all => all.reverse

-- Such a host must be an address.
def endsInNumber (host : List Char) : Bool :=
  match (parts host).getLast? with
  | none => false
  | some last => (!last.isEmpty && last.all fun c => '0' ≤ c && c ≤ '9') || (number? last).isSome

-- All but the last number fill one byte each, the last one fills the rest.
def parse? (host : List Char) : Option Nat := do
  let numbers ← (parts host).mapM number?
  guard (numbers.length ≤ 4)
  let last ← numbers.getLast?
  let front := numbers.dropLast
  guard (front.all (· ≤ 255) && last < Nat.pow 256 (4 - front.length))
  return digitsValue 256 front * Nat.pow 256 (4 - front.length) + last

def text (address : Nat) : String :=
  ".".intercalate ([3, 2, 1, 0].map fun place => toString (address / Nat.pow 256 place % 256))

end Ipv4

namespace Ipv6

-- A decimal number up to 255 without a leading zero.
def byte? (cs : List Char) : Option Nat := do
  guard (!cs.isEmpty && cs.length ≤ 3 && (cs.length == 1 || cs.head? != some '0'))
  let value ← numeral? 10 cs
  guard (value ≤ 255)
  return value

-- The last two groups may be written as four bytes.
def dotted? (cs : List Char) : Option (List Nat) := do
  match ← (cs.splitOn '.').mapM byte? with
  | [a, b, c, d] => return [256 * a + b, 256 * c + d]
  | _ => none

def group? (cs : List Char) : Option Nat := do
  guard (!cs.isEmpty && cs.length ≤ 4)
  numeral? 16 cs

-- Groups between colons. `tail` if dotted bytes may close them.
def groups? (tail : Bool) : List (List Char) → Option (List Nat)
  | [] => some []
  | [last] =>
    if tail && last.contains '.' then dotted? last else (group? last).map ([·])
  | first :: rest => do return (← group? first) :: (← groups? tail rest)

def side? (tail : Bool) (cs : List Char) : Option (List Nat) :=
  if cs.isEmpty then some [] else groups? tail (cs.splitOn ':')

-- Cuts at the first double colon.
def cut? : List Char → Option (List Char × List Char)
  | ':' :: ':' :: rest => some ([], rest)
  | c :: rest => (cut? rest).map fun (front, back) => (c :: front, back)
  | [] => none

-- A double colon stands for one group of zeros or more.
def parse? (cs : List Char) : Option (List Nat) :=
  match cut? cs with
  | some (front, back) => do
    let high ← side? false front
    let low ← side? true back
    guard (high.length + low.length ≤ 7)
    return high ++ List.replicate (8 - high.length - low.length) 0 ++ low
  | none => do
    let all ← side? true cs
    guard (all.length == 8)
    return all

-- The first longest run of zeros, as its start and length; `(0, 0)` if there is none.
def longestZeros (start : Nat) : List Nat → Nat × Nat
  | [] => (start, 0)
  | group :: rest =>
    let here := ((group :: rest).takeWhile (· == 0)).length
    let later := longestZeros (start + 1) rest
    if here ≥ later.2 && here > 0 then (start, here) else later

def hexText (n : Nat) : String := String.ofList (Nat.toDigits 16 n)

def groupsText (groups : List Nat) : String := ":".intercalate (groups.map hexText)

-- The longest run of at least two zeros is left out.
def text (groups : List Nat) : String :=
  let (start, length) := longestZeros 0 groups
  if length < 2 then groupsText groups
  else groupsText (groups.take start) ++ "::" ++ groupsText (groups.drop (start + length))

end Ipv6

-- How a domain name goes over the wire; nothing if it is none. Names may be in any script.
abbrev Names := List Char → Option (List Char)

namespace Host

def bracketed (cs : List Char) : Except Fault String :=
  match cs.reverse with
  | ']' :: rest =>
    match Ipv6.parse? rest.reverse with
    | some groups => .ok ("[" ++ Ipv6.text groups ++ "]")
    | none => .error .invalidIpv6
  | _ => .error .invalidIpv6

def isForbidden (c : Char) : Bool :=
  ['\x00', '\t', '\n', '\r', ' ', '#', '/', ':', '<', '>', '?', '@', '[', '\\', ']', '^',
    '|'].contains c

def named (names : Names) (cs : List Char) : Except Fault String := do
  let some text := String.fromUTF8? ⟨(Percent.decode cs).toArray⟩ | throw .invalidDomain
  let some name := names text.toList | throw .invalidDomain
  if name.isEmpty then throw .emptyHost
  if Ipv4.endsInNumber name then
    match Ipv4.parse? name with
    | some address => return Ipv4.text address
    | none => throw .invalidIpv4
  return String.ofList name

def ofText (names : Names) (special : Bool) : List Char → Except Fault String
  | '[' :: rest => bracketed rest
  | cs =>
    if special then named names cs
    else if cs.any isForbidden then .error .invalidDomainCharacter
    else .ok (String.ofList (Percent.encode .opaqueHost cs))

end Host

end Endpoint

end SchemaBindings
