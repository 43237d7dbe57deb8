import SchemaBindings.Endpoint

namespace SchemaBindings.Http

namespace Base64

def alphabet : List Char :=
  "ABCDEFGHIJKLMNOPQRSTUVWXYZabcdefghijklmnopqrstuvwxyz0123456789+/".toList

def digit (n : Nat) : Char := alphabet[n % 64]?.getD '='

-- Three bytes give four characters; what is missing at the end is filled up.
def encode : List UInt8 → List Char
  | a :: b :: c :: rest =>
    let n := (a.toNat * 256 + b.toNat) * 256 + c.toNat
    [digit (n / 0x40000), digit (n / 0x1000), digit (n / 0x40), digit n] ++ encode rest
  | [a, b] =>
    let n := (a.toNat * 256 + b.toNat) * 4
    [digit (n / 0x1000), digit (n / 0x40), digit n, '=']
  | [a] =>
    let n := a.toNat * 16
    [digit (n / 0x40), digit n, '=', '=']
  | [] => []

end Base64

def reasons : List (Nat × String) := [
  (100, "Continue"), (101, "Switching Protocols"), (102, "Processing"), (200, "OK"),
  (201, "Created"), (202, "Accepted"), (203, "Non Authoritative Information"),
  (204, "No Content"), (205, "Reset Content"), (206, "Partial Content"), (207, "Multi-Status"),
  (208, "Already Reported"), (226, "IM Used"), (300, "Multiple Choices"),
  (301, "Moved Permanently"), (302, "Found"), (303, "See Other"), (304, "Not Modified"),
  (305, "Use Proxy"), (307, "Temporary Redirect"), (308, "Permanent Redirect"),
  (400, "Bad Request"), (401, "Unauthorized"), (402, "Payment Required"), (403, "Forbidden"),
  (404, "Not Found"), (405, "Method Not Allowed"), (406, "Not Acceptable"),
  (407, "Proxy Authentication Required"), (408, "Request Timeout"), (409, "Conflict"),
  (410, "Gone"), (411, "Length Required"), (412, "Precondition Failed"),
  (413, "Payload Too Large"), (414, "URI Too Long"), (415, "Unsupported Media Type"),
  (416, "Range Not Satisfiable"), (417, "Expectation Failed"), (418, "I'm a teapot"),
  (421, "Misdirected Request"), (422, "Unprocessable Entity"), (423, "Locked"),
  (424, "Failed Dependency"), (425, "Too Early"), (426, "Upgrade Required"),
  (428, "Precondition Required"), (429, "Too Many Requests"),
  (431, "Request Header Fields Too Large"), (451, "Unavailable For Legal Reasons"),
  (500, "Internal Server Error"), (501, "Not Implemented"), (502, "Bad Gateway"),
  (503, "Service Unavailable"), (504, "Gateway Timeout"), (505, "HTTP Version Not Supported"),
  (506, "Variant Also Negotiates"), (507, "Insufficient Storage"), (508, "Loop Detected"),
  (510, "Not Extended"), (511, "Network Authentication Required")]

def statusText (status : Nat) : String :=
  toString status ++ " " ++ (reasons.lookup status).getD "<unknown status code>"

-- Answers of these codes end with their headers.
def hasNoBody (status : Nat) : Bool := status < 200 || status == 204 || status == 304

structure Request where
  method : String := "POST"
  endpoint : Endpoint
  headers : List (String × String)
  body : String
  deriving DecidableEq, Repr

namespace Request

def line (request : Request) : String :=
  request.method ++ " " ++ request.endpoint.target ++ " HTTP/1.1"

def isBlank (c : Char) : Bool := c == ' ' || c == '\t'

-- Blanks around a value are no part of it for the one who is asked.
def receivedValue (value : String) : String :=
  String.ofList ((value.toList.dropWhile isBlank).reverse.dropWhile isBlank).reverse

def received (request : Request) : List (String × String) :=
  request.headers.map fun (name, value) => (name, receivedValue value)

end Request

-- Why nobody could be asked.
inductive Unreachable where
  | refused
  | unresolved
  | unsupported (reason : String)
  deriving DecidableEq, Repr

def Unreachable.causes : Unreachable → List String
  | .refused => ["tcp connect error", "Connection refused (os error 111)"]
  | .unresolved => ["dns error",
      "failed to lookup address information: Temporary failure in name resolution"]
  | .unsupported reason => [reason]

-- The codes that send the one who asks to another place.
inductive Redirect where
  | movedPermanently
  | found
  | seeOther
  | temporary
  | permanent
  deriving DecidableEq, Repr

def Redirect.status : Redirect → Nat
  | .movedPermanently => 301
  | .found => 302
  | .seeOther => 303
  | .temporary => 307
  | .permanent => 308

-- The one that is asked may hang up without an answer, or before the answer is complete. `lost` is
-- for what else can go wrong, when the request was sent or before, in the words of the transport.
inductive Reply where
  | unreachable (cause : Unreachable)
  | dropped
  | cut
  | lost (sent : Bool) (message : String) (causes : List String)
  | moved (code : Redirect) (location : String) (body : ByteArray)
  | whole (status : Nat) (body : ByteArray)

namespace Reply

def isUnreachable : Reply → Bool
  | .unreachable _ => true
  | .lost sent _ _ => !sent
  | _ => false

def isMoved : Reply → Bool
  | .moved _ _ _ => true
  | _ => false

end Reply

-- `address` is the last place that was tried.
structure Outcome where
  address : String
  reply : Reply

-- All that comes of one sending: the requests that reached someone, in order, and the outcome.
structure Sent where
  requests : List Request
  outcome : Outcome

-- What the one who asks makes of being sent to another place.
inductive Onward where
  | stay
  | stop (message : String) (causes : List String)
  | next (request : Request)

-- Who sends requests. Where it goes on when an answer sends it to a location is its own affair, and
-- so is what it takes along; an answer that it stays with is taken as it is.
structure Client where
  follow : Request → Redirect → String → Onward := fun _ _ _ => .stay

def mostRedirects : Nat := 10

def tooManyRedirects (request : Request) : Reply :=
  .lost true ("error following redirect for url (" ++ request.endpoint.text ++ ")")
    ["too many redirects"]

namespace Client

def onward (client : Client) (request : Request) : Reply → Onward
  | .moved code location _ => client.follow request code location
  | _ => .stay

-- The end of a sending.
def settled (request : Request) (reply : Reply) : Sent :=
  ⟨if reply.isUnreachable then [] else [request], request.endpoint.text, reply⟩

-- What comes back for a request may depend on the requests before it. Of the redirects no more than
-- `left` are followed.
def pursue (client : Client) (server : List Request → Request → Reply) (left : Nat)
    (earlier : List Request) (request : Request) : Sent :=
  match client.onward request (server earlier request) with
  | .stay => settled request (server earlier request)
  | .stop message causes => settled request (.lost true message causes)
  | .next next =>
    match left with
    | 0 => settled request (tooManyRedirects request)
    | left + 1 =>
      let rest := client.pursue server left (earlier ++ [request]) next
      ⟨request :: rest.requests, rest.outcome⟩

end Client

-- Visible characters, blanks and tabs; anything beyond ASCII is passed on as it is.
def isHeaderText (text : String) : Bool :=
  text.toList.all fun c => (0x20 ≤ c.toNat && c.toNat != 0x7f) || c == '\t'

def bodyText (status : Nat) (body : ByteArray) : String :=
  if hasNoBody status then "" else Text.Utf8.decode body

end SchemaBindings.Http
