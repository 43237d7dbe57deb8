import SchemaBindings.Json.Node

namespace SchemaBindings.Json

structure Cursor where
  spot : Spot
  rest : List Char

def isBlank (c : Char) : Bool := c == ' ' || c == '\n' || c == '\t' || c == '\r'

def skipBlanks (spot : Spot) : List Char → Cursor
  | [] => ⟨spot, []⟩
  | c :: rest => if isBlank c then skipBlanks (spot.past c) rest else ⟨spot, c :: rest⟩

def Cursor.skipBlanks (cursor : Cursor) : Cursor := Json.skipBlanks cursor.spot cursor.rest

def isHexDigit (c : Char) : Bool :=
  ('0' ≤ c && c ≤ '9') || ('a' ≤ c && c ≤ 'f') || ('A' ≤ c && c ≤ 'F')

def hexValue (c : Char) : Nat :=
  if c ≤ '9' then c.toNat - 0x30 else if c ≤ 'F' then c.toNat - 0x37 else c.toNat - 0x57

def hexUnit (a b c d : Char) : Option Nat :=
  if isHexDigit a && isHexDigit b && isHexDigit c && isHexDigit d then
    some (((hexValue a * 16 + hexValue b) * 16 + hexValue c) * 16 + hexValue d)
  else none

-- What follows the letter of a hex escape is not four digits: either the text is too short for
-- four bytes, or the four that stand there are wrong.
def hexFault (spot : Spot) (rest : List Char) : Error :=
  if (rest.foldl (fun n c => n + c.utf8Size) 0) < 4 then ⟨.endInString, spot.pastAll rest⟩
  else ⟨.invalidEscape, spot.pastBytes 4 rest⟩

def simpleEscape : Char → Option Char
  | '"' => some '"'
  | '\\' => some '\\'
  | '/' => some '/'
  | 'b' => some '\x08'
  | 'f' => some '\x0c'
  | 'n' => some '\n'
  | 'r' => some '\r'
  | 't' => some '\t'
  | _ => none

def isControl (c : Char) : Bool := c.toNat < 0x20

def isLead (unit : Nat) : Bool := 0xd800 ≤ unit && unit ≤ 0xdbff

def isTrail (unit : Nat) : Bool := 0xdc00 ≤ unit && unit ≤ 0xdfff

def joinUnits (lead trail : Nat) : Char :=
  Char.ofNat ((lead - 0xd800) * 0x400 + (trail - 0xdc00) + 0x10000)

-- The characters of a string from behind its opening quote. `lead` is the first half of a pair of
-- escapes whose second half has to follow.
def readString (spot : Spot) (lead : Option Nat) : List Char → Except Error (List Char)
  | [] => .error ⟨.endInString, spot⟩
  | ['\\'] => .error ⟨.endInString, spot.along 1⟩
  | '\\' :: 'u' :: a :: b :: c :: d :: rest =>
    match hexUnit a b c d, lead with
    | none, _ => .error (hexFault (spot.along 2) (a :: b :: c :: d :: rest))
    | some unit, none =>
      if isTrail unit then .error ⟨.loneSurrogate, spot.along 6⟩
      else if isLead unit then readString (spot.along 6) (some unit) rest
      else (readString (spot.along 6) none rest).map (Char.ofNat unit :: ·)
    | some unit, some first =>
      if isTrail unit then
        (readString (spot.along 6) none rest).map (joinUnits first unit :: ·)
      else .error ⟨.loneSurrogate, spot.along 6⟩
  | '\\' :: c :: rest =>
    if c == 'u' then .error (hexFault (spot.along 2) rest)
    else if lead.isSome then .error ⟨.halfEscape, (spot.along 1).pastByte c⟩
    else match simpleEscape c with
      | some plain => (readString (spot.along 2) none rest).map (plain :: ·)
      | none => .error ⟨.invalidEscape, (spot.along 1).pastByte c⟩
  | c :: rest =>
    if lead.isSome then .error ⟨.halfEscape, spot.pastByte c⟩
    else if c == '"' then .ok []
    else if isControl c then .error ⟨.controlCharacter, spot.past c⟩
    else (readString (spot.past c) none rest).map (c :: ·)

-- Passes over a string without joining its escapes to characters.
def passString (spot : Spot) : List Char → Except Error Cursor
  | [] => .error ⟨.endInString, spot⟩
  | ['\\'] => .error ⟨.endInString, spot.along 1⟩
  | '\\' :: 'u' :: a :: b :: c :: d :: rest =>
    if (hexUnit a b c d).isSome then passString (spot.along 6) rest
    else .error (hexFault (spot.along 2) (a :: b :: c :: d :: rest))
  | '\\' :: c :: rest =>
    if c == 'u' then .error (hexFault (spot.along 2) rest)
    else if (simpleEscape c).isSome then passString (spot.along 2) rest
    else .error ⟨.invalidEscape, (spot.along 1).pastByte c⟩
  | c :: rest =>
    if c == '"' then .ok ⟨spot.past c, rest⟩
    else if isControl c then .error ⟨.controlCharacter, spot⟩
    else passString (spot.past c) rest

-- A fault together with what a reader of the value makes of the same place.
def stringFault (spot : Spot) (rest : List Char) (passing : Error) : Fault :=
  match readString spot none rest with
  | .error reading => ⟨reading, passing⟩
  | .ok _ => ⟨passing, passing⟩

def readContent (spot : Spot) (rest : List Char) : Except Error String :=
  (readString spot none rest).map String.ofList

def skipDigits (spot : Spot) : List Char → Cursor
  | [] => ⟨spot, []⟩
  | c :: rest => if Number.isDigit c then skipDigits (spot.along 1) rest else ⟨spot, c :: rest⟩

-- A number that breaks off at the end of the text is cut short to a reader and wrong to others.
def numberFault (spot : Spot) : List Char → Fault
  | [] => ⟨⟨.endInValue, spot⟩, ⟨.invalidNumber, spot⟩⟩
  | c :: _ => .same .invalidNumber (spot.pastByte c)

def passExponent (cursor : Cursor) : Except Fault Cursor :=
  match cursor.rest with
  | c :: rest =>
    if c == 'e' || c == 'E' then
      let behind : Cursor := match rest with
        | '+' :: digits => ⟨cursor.spot.along 2, digits⟩
        | '-' :: digits => ⟨cursor.spot.along 2, digits⟩
        | digits => ⟨cursor.spot.along 1, digits⟩
      match behind.rest with
      | d :: _ =>
        if Number.isDigit d then .ok (skipDigits behind.spot behind.rest)
        else .error (numberFault behind.spot behind.rest)
      | [] => .error (numberFault behind.spot [])
    else .ok cursor
  | [] => .ok cursor

def passFraction (cursor : Cursor) : Except Fault Cursor :=
  match cursor.rest with
  | '.' :: rest =>
    let spot := cursor.spot.along 1
    match rest with
    | d :: _ =>
      if Number.isDigit d then passExponent (skipDigits spot rest)
      else .error (numberFault spot rest)
    | [] => .error (numberFault spot [])
  | _ => passExponent cursor

-- Passes over a number behind its sign; a zero in front stands alone.
def passNumber (spot : Spot) : List Char → Except Fault Cursor
  | [] => .error (numberFault spot [])
  | c :: rest =>
    if c == '0' then
      match rest with
      | d :: _ =>
        if Number.isDigit d then .error (numberFault (spot.along 1) rest)
        else passFraction ⟨spot.along 1, rest⟩
      | [] => .ok ⟨spot.along 1, []⟩
    else if Number.isDigit c then passFraction (skipDigits (spot.along 1) rest)
    else .error (numberFault spot (c :: rest))

-- The rest of a word whose first letter was seen.
def passWord (spot : Spot) : List Char → List Char → Except Fault Cursor
  | [], rest => .ok ⟨spot, rest⟩
  | _ :: _, [] => .error (.same .endInValue spot)
  | w :: word, c :: rest =>
    if w == c then passWord (spot.past c) word rest
    else .error (.same .expectedWord (spot.pastByte c))

abbrev Scanned (p : Part) := Node p × Cursor

-- Nothing is read behind a fault.
def brokenAt (spot : Spot) (here : Option Char) (fault : Fault) : Scanned .value :=
  (.broken spot here fault, ⟨spot, []⟩)

def scanWord (spot : Spot) (c : Char) (word : List Char) (content : Scalar) (rest : List Char) :
    Scanned .value :=
  match passWord (spot.past c) word rest with
  | .ok cursor => (.scalar spot cursor.spot content, cursor)
  | .error fault => brokenAt spot (some c) fault

def scanNumber (spot : Spot) (cs : List Char) : Scanned .value :=
  let unsigned : Cursor := match cs with
    | '-' :: rest => ⟨spot.along 1, rest⟩
    | _ => ⟨spot, cs⟩
  match passNumber unsigned.spot unsigned.rest with
  | .ok cursor =>
    let text := cs.take (cs.length - cursor.rest.length)
    (.scalar spot cursor.spot (.number (Number.evaluate spot text)), cursor)
  | .error fault => brokenAt spot cs.head? fault

def scanString (spot : Spot) (rest : List Char) : Scanned .value :=
  let inside := spot.along 1
  match passString inside rest with
  | .ok cursor => (.scalar spot cursor.spot (.string (readContent inside rest)), cursor)
  | .error passing => brokenAt spot (some '"') (stringFault inside rest passing)

def scanScalar (spot : Spot) : List Char → Scanned .value
  | [] => brokenAt spot none (.same .endInValue spot)
  | c :: rest =>
    if c == '"' then scanString spot rest
    else if c == 'n' then scanWord spot c ['u', 'l', 'l'] .null rest
    else if c == 't' then scanWord spot c ['r', 'u', 'e'] (.bool true) rest
    else if c == 'f' then scanWord spot c ['a', 'l', 's', 'e'] (.bool false) rest
    else if c == '-' || Number.isDigit c then scanNumber spot (c :: rest)
    else brokenAt spot (some c) (.same .expectedValue (spot.pastByte c))

def keyFault (first : Bool) (spot : Spot) : List Char → Fault
  | [] =>
    if first then .same .endInObject spot else ⟨⟨.endInValue, spot⟩, ⟨.endInObject, spot⟩⟩
  | c :: _ =>
    let peek := spot.pastByte c
    if c == '}' && !first then ⟨⟨.trailingComma, peek⟩, ⟨.keyNotString, peek⟩⟩
    else .same .keyNotString peek

def colonFault (spot : Spot) : List Char → Fault
  | [] => .same .endInObject spot
  | c :: _ => .same .expectedColon (spot.pastByte c)

-- Behind a key and its blanks: where a reader stands that gives up on the key.
def settle (cursor : Cursor) : Spot :=
  match cursor.rest with
  | '}' :: _ => cursor.spot.along 1
  | _ => cursor.spot

-- A value takes at least one character and an item or member at least one more, so twice the
-- length is enough fuel.
mutual
def scanValue : Nat → Spot → List Char → Scanned .value
  | 0, spot, _ => brokenAt spot none (.same .endInValue spot)
  | fuel + 1, spot, cs =>
    let front := skipBlanks spot cs
    match front.rest with
    | '[' :: rest =>
      let inside := skipBlanks (front.spot.along 1) rest
      match inside.rest with
      | ']' :: after =>
        (.list front.spot (.itemsEnd (inside.spot.along 1)), ⟨inside.spot.along 1, after⟩)
      | [] => (.list front.spot (.noItem (.same .endInList inside.spot)), inside)
      | _ =>
        let (items, cursor) := scanItems fuel inside.spot inside.rest
        (.list front.spot items, cursor)
    | '{' :: rest =>
      let inside := skipBlanks (front.spot.along 1) rest
      match inside.rest with
      | '}' :: after =>
        (.object front.spot (.membersEnd (inside.spot.along 1)), ⟨inside.spot.along 1, after⟩)
      | _ =>
        let (members, cursor) := scanMembers fuel true inside.spot inside.rest
        (.object front.spot members, cursor)
    | rest => scanScalar front.spot rest

-- From an item on, which the text is known to have in some form.
def scanItems : Nat → Spot → List Char → Scanned .items
  | 0, spot, _ => (.noItem (.same .endInList spot), ⟨spot, []⟩)
  | fuel + 1, spot, cs =>
    let (value, cursor) := scanValue fuel spot cs
    let behind := cursor.skipBlanks
    match behind.rest with
    | ']' :: after => (.item value (.itemsEnd (behind.spot.along 1)), ⟨behind.spot.along 1, after⟩)
    | ',' :: more =>
      let next := skipBlanks (behind.spot.along 1) more
      match next.rest with
      | ']' :: _ =>
        let peek := next.spot.along 1
        let fault : Fault := ⟨⟨.trailingComma, peek⟩, ⟨.expectedValue, peek⟩⟩
        (.item value (.item (.broken next.spot (some ']') fault) (.noItem fault)), next)
      | _ =>
        let (rest, last) := scanItems fuel next.spot next.rest
        (.item value rest, last)
    | [] => (.item value (.noItem (.same .endInList behind.spot)), behind)
    | c :: _ => (.item value (.noItem (.same .expectedListEnd (behind.spot.pastByte c))), behind)

-- From where a key is due; `first` if no comma was seen.
def scanMembers : Nat → Bool → Spot → List Char → Scanned .members
  | 0, _, spot, _ =>
    (.noMember (.broken spot none (.same .endInValue spot)) (.same .endInObject spot), ⟨spot, []⟩)
  | fuel + 1, first, spot, cs =>
    match cs with
    | '"' :: rest =>
      match passString (spot.along 1) rest with
      | .error passing =>
        let fault := stringFault (spot.along 1) rest passing
        (.noMember (.broken spot (some '"') fault) fault, ⟨spot, []⟩)
      | .ok cursor =>
        let key := readContent (spot.along 1) rest
        let behind := cursor.skipBlanks
        match behind.rest with
        | ':' :: after =>
          let (value, last) := scanValue fuel (behind.spot.along 1) after
          let next := last.skipBlanks
          match next.rest with
          | '}' :: closed =>
            let stop := next.spot.along 1
            (.member key (settle behind) value next.spot (.membersEnd stop), ⟨stop, closed⟩)
          | ',' :: more =>
            let due := skipBlanks (next.spot.along 1) more
            let (others, last) := scanMembers fuel false due.spot due.rest
            (.member key (settle behind) value next.spot others, last)
          | other =>
            let fault : Fault := match other with
              | [] => .same .endInObject next.spot
              | c :: _ => .same .expectedObjectEnd (next.spot.pastByte c)
            (.member key (settle behind) value next.spot
              (.noMember (.broken next.spot other.head? fault) fault), next)
        | other => (.unpaired key (settle behind) (colonFault behind.spot other), behind)
    | _ =>
      let (found, cursor) := scanValue fuel spot cs
      (.noMember found (keyFault first spot cs), cursor)
end

def scan (text : String) : Document :=
  let cs := text.toList
  let (root, cursor) := scanValue (2 * cs.length + 2) Spot.first cs
  let behind := cursor.skipBlanks
  ⟨root, if behind.rest.isEmpty then none else some (behind.spot.peek behind.rest)⟩

end SchemaBindings.Json
