namespace SchemaBindings

namespace Json

structure Spot where
  line : Nat
  column : Nat
  deriving DecidableEq, Repr

namespace Spot

def first : Spot := ⟨1, 0⟩

def past (spot : Spot) (c : Char) : Spot :=
  if c == '\n' then ⟨spot.line + 1, 0⟩ else ⟨spot.line, spot.column + c.utf8Size⟩

-- One byte further, which need not be the end of the character that stands there.
def pastByte (spot : Spot) (c : Char) : Spot :=
  if c == '\n' then ⟨spot.line + 1, 0⟩ else ⟨spot.line, spot.column + 1⟩

def along (spot : Spot) (columns : Nat) : Spot := ⟨spot.line, spot.column + columns⟩

-- Points at what stands at the spot: one byte further, unless the text ends there.
def peek (spot : Spot) : List Char → Spot
  | c :: _ => spot.pastByte c
  | [] => spot

def pastAll (spot : Spot) (cs : List Char) : Spot := cs.foldl past spot

-- The last character passed may be cut in the middle.
def pastBytes (spot : Spot) : Nat → List Char → Spot
  | _, [] => spot
  | count, c :: rest =>
    if count = 0 then spot
    else if c.utf8Size ≤ count then (spot.past c).pastBytes (count - c.utf8Size) rest
    else spot.along count

end Spot

-- What a reader met in place of what it wanted.
inductive Found where
  | null
  | bool (b : Bool)
  | integer (n : Int)
  | floating (text : String)
  | string (quoted : String)
  | sequence
  | map
  deriving DecidableEq, Repr

def Found.text : Found → String
  | .null => "null"
  | .bool b => "boolean `" ++ (if b then "true" else "false") ++ "`"
  | .integer n => "integer `" ++ toString n ++ "`"
  | .floating text => "floating point `" ++ text ++ "`"
  | .string quoted => "string " ++ quoted
  | .sequence => "sequence"
  | .map => "map"

inductive Problem where
  | endInValue
  | endInString
  | endInList
  | endInObject
  | expectedValue
  | expectedColon
  | expectedListEnd
  | expectedObjectEnd
  | expectedWord
  | keyNotString
  | trailingComma
  | trailingText
  | invalidNumber
  | numberOutOfRange
  | invalidEscape
  | halfEscape
  | loneSurrogate
  | controlCharacter
  | tooDeep
  | invalidType (found : Found) (wanted : String)
  | invalidLength (count : Nat) (wanted : String)
  | missingField (name : String)
  | duplicateField (name : String)
  deriving DecidableEq, Repr

def Problem.text : Problem → String
  | .endInValue => "EOF while parsing a value"
  | .endInString => "EOF while parsing a string"
  | .endInList => "EOF while parsing a list"
  | .endInObject => "EOF while parsing an object"
  | .expectedValue => "expected value"
  | .expectedColon => "expected `:`"
  | .expectedListEnd => "expected `,` or `]`"
  | .expectedObjectEnd => "expected `,` or `\x7d`"
  | .expectedWord => "expected ident"
  | .keyNotString => "key must be a string"
  | .trailingComma => "trailing comma"
  | .trailingText => "trailing characters"
  | .invalidNumber => "invalid number"
  | .numberOutOfRange => "number out of range"
  | .invalidEscape => "invalid escape"
  | .halfEscape => "unexpected end of hex escape"
  | .loneSurrogate => "lone leading surrogate in hex escape"
  | .controlCharacter => "control character (\\u0000-\\u001F) found while parsing a string"
  | .tooDeep => "recursion limit exceeded"
  | .invalidType found wanted => "invalid type: " ++ found.text ++ ", expected " ++ wanted
  | .invalidLength count wanted => "invalid length " ++ toString count ++ ", expected " ++ wanted
  | .missingField name => "missing field `" ++ name ++ "`"
  | .duplicateField name => "duplicate field `" ++ name ++ "`"

structure Error where
  problem : Problem
  spot : Spot
  deriving DecidableEq, Repr

def Error.message (error : Error) : String :=
  error.problem.text ++ " at line " ++ toString error.spot.line ++ " column " ++
    toString error.spot.column

end Json

namespace Decimal

-- A number `digits * 10 ^ exponent`.
structure Scientific where
  digits : Nat
  exponent : Int
  deriving DecidableEq, Repr

-- Mantissa and exponent of the number that has these bits, its sign left aside.
def ofBits (bits : Nat) : Nat × Int :=
  let fraction : Nat := bits % Nat.pow 2 52
  let biased : Nat := bits / Nat.pow 2 52 % Nat.pow 2 11
  if biased = 0 then (fraction, -1074) else (fraction + Nat.pow 2 52, (biased : Int) - 1075)

-- Below the number the neighbours lie twice as close where the mantissa is the least one.
def halfGapBelow (mantissa : Nat) (exponent : Int) : Nat :=
  if mantissa = Nat.pow 2 52 ∧ exponent > -1074 then 1 else 2

-- The multiple of `10 ^ grid` that lies nearest, if one lies in the interval at all. Every quantity
-- is counted in quarters of the gap above the number, scaled by one common factor.
def onGrid (mantissa : Nat) (exponent grid : Int) : Option Scientific :=
  let scaleUp := (if exponent ≥ 0 then Nat.pow 2 exponent.toNat else 1) *
    (if grid < 0 then Nat.pow 10 (-grid).toNat else 1)
  let unit := (if exponent < 0 then Nat.pow 2 (-exponent).toNat else 1) *
    (if grid > 0 then Nat.pow 10 grid.toNat else 1) * 4
  let value := mantissa * 4 * scaleUp
  let low := value - halfGapBelow mantissa exponent * scaleUp
  let high := value + 2 * scaleUp
  let even := mantissa % 2 == 0
  let inside := fun n =>
    if even then low ≤ n * unit && n * unit ≤ high else low < n * unit && n * unit < high
  let below := value / unit
  let above := below + 1
  match inside below && below != 0, inside above with
  | true, true =>
    let down := value - below * unit
    let up := above * unit - value
    some ⟨if down < up || (down == up && below % 2 == 0) then below else above, grid⟩
  | true, false => some ⟨below, grid⟩
  | false, true => some ⟨above, grid⟩
  | false, false => none

-- Seventeen digits always suffice, so a grid is found before the search runs out.
def search (mantissa : Nat) (exponent : Int) : Nat → Int → Scientific
  | 0, grid => ⟨mantissa, grid⟩
  | fuel + 1, grid =>
    match onGrid mantissa exponent grid with
    | some found => found
    | none => search mantissa exponent fuel (grid - 1)

def trimZeros : Nat → Scientific → Scientific
  | 0, s => s
  | fuel + 1, s =>
    if s.digits != 0 && s.digits % 10 == 0 then trimZeros fuel ⟨s.digits / 10, s.exponent + 1⟩
    else s

-- The shortest decimal that reads back as the number. The number stands for all reals that round to
-- it; the digits are chosen on the coarsest decimal grid that has a point among those.
def shortest (mantissa : Nat) (exponent : Int) : Scientific :=
  let top := ((mantissa.log2 : Int) + exponent + 1) * 30103 / 100000 + 1
  trimZeros 20 (search mantissa exponent 40 top)

end Decimal

namespace Json

inductive Number where
  | integer (n : Int)
  | floating (x : Float)

namespace Number

-- Digits stand as they are up to sixteen places before the point and five zeros behind it; beyond
-- that the exponent is written with its sign.
def positional (digits : List Char) (point : Int) : List Char :=
  if point ≤ 0 then '0' :: '.' :: List.replicate (-point).toNat '0' ++ digits
  else if digits.length ≤ point.toNat then
    digits ++ List.replicate (point.toNat - digits.length) '0' ++ ['.', '0']
  else digits.take point.toNat ++ '.' :: digits.drop point.toNat

def exponential (digits : List Char) (point : Int) : List Char :=
  let exponent := point - 1
  let front := match digits with
    | [d] => [d]
    | d :: rest => d :: '.' :: rest
    | [] => []
  front ++ 'e' :: (if exponent < 0 then '-' else '+') :: (toString exponent.natAbs).toList

def floatText (x : Float) : String :=
  let bits := x.toBits.toNat
  let sign := if bits / Nat.pow 2 63 = 1 then ['-'] else []
  let (mantissa, exponent) := Decimal.ofBits bits
  if mantissa = 0 then String.ofList (sign ++ ['0', '.', '0'])
  else
    let decimal := Decimal.shortest mantissa exponent
    let digits := (toString decimal.digits).toList
    let point := digits.length + decimal.exponent
    String.ofList (sign ++
      if -5 < point ∧ point ≤ 16 then positional digits point else exponential digits point)

def found : Number → Found
  | .integer n => .integer n
  | .floating x => .floating (floatText x)

def isDigit (c : Char) : Bool := '0' ≤ c && c ≤ '9'

def digitValue (c : Char) : Nat := c.toNat - 0x30

def largest : Nat := Nat.pow 2 64 - 1

-- Digits that no longer fit sixty-four bits only count: the pair is the significand and how many
-- were left out.
def integerPart : Nat → Nat → List Char → Nat × Nat
  | significand, dropped, [] => (significand, dropped)
  | significand, dropped, c :: rest =>
    if dropped > 0 || significand * 10 + digitValue c > largest then
      integerPart significand (dropped + 1) rest
    else integerPart (significand * 10 + digitValue c) 0 rest

-- Behind the point the first digit that does not fit ends the significand.
def fractionPart : Nat → Int → List Char → Nat × Int
  | significand, exponent, [] => (significand, exponent)
  | significand, exponent, c :: rest =>
    if significand * 10 + digitValue c > largest then (significand, exponent)
    else fractionPart (significand * 10 + digitValue c) (exponent - 1) rest

-- The exponent, or after how many of its digits it grew too large to count.
def exponentPart : Nat → Nat → List Char → Nat ⊕ Nat
  | value, _, [] => .inl value
  | value, taken, c :: rest =>
    if value * 10 + digitValue c > 2147483647 then .inr (taken + 1)
    else exponentPart (value * 10 + digitValue c) (taken + 1) rest

def powerOfTen (n : Nat) : Float := Float.ofScientific 1 false n

-- Scales by powers of ten that a float can hold; nothing is left after three such steps down.
def scale : Nat → Float → Int → Option Float
  | 0, x, _ => some x
  | fuel + 1, x, exponent =>
    if exponent.natAbs ≤ 308 then
      if exponent ≥ 0 then
        let y := x * powerOfTen exponent.natAbs
        if y.isInf then none else some y
      else some (x / powerOfTen exponent.natAbs)
    else if x == 0.0 then some x
    else if exponent ≥ 0 then none
    else scale fuel (x / powerOfTen 308) (exponent + 308)

def signed (negative : Bool) (x : Float) : Number := .floating (if negative then -x else x)

def ofParts (negative : Bool) (significand : Nat) (exponent : Int) (stop : Spot) :
    Except Error Number :=
  match scale 4 (Float.ofNat significand) exponent with
  | some x => .ok (signed negative x)
  | none => .error ⟨.numberOutOfRange, stop⟩

def ofInteger (negative : Bool) (significand : Nat) : Number :=
  if !negative then .integer significand
  else if significand = 0 || significand > Nat.pow 2 63 then signed true (Float.ofNat significand)
  else .integer (-(significand : Int))

-- Splits off an exponent: its sign, its digits, and the column where the digits begin.
def splitExponent (column : Nat) : List Char → Option (Bool × List Char × Nat)
  | _ :: '+' :: digits => some (false, digits, column + 2)
  | _ :: '-' :: digits => some (true, digits, column + 2)
  | _ :: digits => some (false, digits, column + 1)
  | [] => none

-- The value of a well formed number that begins at `start`.
def evaluate (start : Spot) (text : List Char) : Except Error Number :=
  let stop := start.along text.length
  let negative := text.head? == some '-'
  let unsigned := if negative then text.drop 1 else text
  let whole := unsigned.takeWhile isDigit
  let afterWhole := unsigned.dropWhile isDigit
  let (significand, dropped) := integerPart 0 0 whole
  match afterWhole with
  | [] =>
    if dropped = 0 then .ok (ofInteger negative significand)
    else ofParts negative significand dropped stop
  | c :: behind =>
    let ((significand, exponent), tail) :=
      if c == '.' then
        (fractionPart significand dropped (behind.takeWhile isDigit), behind.dropWhile isDigit)
      else ((significand, (dropped : Int)), afterWhole)
    match splitExponent (text.length - tail.length) tail with
    | none => ofParts negative significand exponent stop
    | some (down, digits, column) =>
      match exponentPart 0 0 digits with
      | .inl n => ofParts negative significand (if down then exponent - n else exponent + n) stop
      | .inr taken =>
        if significand != 0 && !down then .error ⟨.numberOutOfRange, start.along (column + taken)⟩
        else .ok (signed negative 0.0)

end Number

end Json

end SchemaBindings
