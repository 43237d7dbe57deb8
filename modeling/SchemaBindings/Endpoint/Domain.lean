import SchemaBindings.Text

namespace SchemaBindings.Endpoint

namespace Punycode

def digitChar (n : Nat) : Char :=
  if n < 26 then Char.ofNat (0x61 + n) else Char.ofNat (0x30 + n - 26)

def digitValue? (c : Char) : Option Nat :=
  if 'a' ≤ c && c ≤ 'z' then some (c.toNat - 0x61)
  else if 'A' ≤ c && c ≤ 'Z' then some (c.toNat - 0x41)
  else if '0' ≤ c && c ≤ '9' then some (c.toNat - 0x30 + 26)
  else none

-- Digits below the threshold of their place close a numeral.
def threshold (place bias : Nat) : Nat := min 26 (max 1 (place - bias))

theorem threshold_pos (place bias : Nat) : 1 ≤ threshold place bias := by
  unfold threshold
  omega

theorem threshold_le (place bias : Nat) : threshold place bias ≤ 26 := by
  unfold threshold
  omega

def settle (place delta : Nat) : Nat :=
  if 455 < delta then settle (place + 36) (delta / 35)
  else place + 36 * delta / (delta + 38)
termination_by delta
decreasing_by exact Nat.div_lt_self (by omega) (by omega)

-- The bias after a distance was written, when `count` characters are in place.
def adapt (delta count : Nat) (first : Bool) : Nat :=
  let scaled := if first then delta / 700 else delta / 2
  settle 0 (scaled + scaled / count)

def numeral (place bias value : Nat) : List Char :=
  let t := threshold place bias
  if value < t then [digitChar value]
  else digitChar (t + (value - t) % (36 - t)) ::
    numeral (place + 36) bias ((value - t) / (36 - t))
termination_by value
decreasing_by
  have pos := threshold_pos place bias
  have le := threshold_le place bias
  exact Nat.lt_of_le_of_lt (Nat.div_le_self _ _) (by omega)

structure Writer where
  output : List Char
  delta : Nat
  bias : Nat
  handled : Nat

-- One pass over the label for one code point.
def Writer.visit (basic code : Nat) (writer : Writer) (c : Char) : Writer :=
  if c.toNat < code then { writer with delta := writer.delta + 1 }
  else if c.toNat == code then
    { output := writer.output ++ numeral 36 writer.bias writer.delta
      delta := 0
      bias := adapt writer.delta (writer.handled + 1) (writer.handled == basic)
      handled := writer.handled + 1 }
  else writer

def writeCodes (label : List Char) (basic : Nat) : Nat → List Nat → Writer → Writer
  | _, [], writer => writer
  | next, code :: rest, writer =>
    let moved := { writer with delta := writer.delta + (code - next) * (writer.handled + 1) }
    let passed := label.foldl (Writer.visit basic code) moved
    writeCodes label basic (code + 1) rest { passed with delta := passed.delta + 1 }

def isBasic (c : Char) : Bool := c.toNat < 0x80

-- The ASCII characters come first, then, for the others in rising order, the distance to the next
-- place where one is inserted, as a numeral whose digits depend on the distances before it.
def encode (label : List Char) : List Char :=
  let basic := label.filter isBasic
  let codes := (((label.filter fun c => !isBasic c).map Char.toNat).mergeSort (· ≤ ·)).eraseDups
  let start : Writer := { output := [], delta := 0, bias := 72, handled := basic.length }
  basic ++ (if basic.isEmpty then [] else ['-']) ++
    (writeCodes label basic.length 0x80 codes start).output

-- Reads one numeral: its value and what follows.
def readNumeral? (bias : Nat) : Nat → Nat → Nat → List Char → Option (Nat × List Char)
  | _, _, _, [] => none
  | place, weight, value, c :: rest => do
    let digit ← digitValue? c
    let t := threshold place bias
    if digit < t then return (value + digit * weight, rest)
    else readNumeral? bias (place + 36) (weight * (36 - t)) (value + digit * weight) rest

-- No more numerals are read than there are characters.
def readCodes? : Nat → Nat → Nat → Nat → List Char → List Char → Option (List Char)
  | _, _, _, _, label, [] => some label
  | 0, _, _, _, _, _ :: _ => none
  | fuel + 1, code, position, bias, label, c :: rest => do
    let (delta, rest) ← readNumeral? bias 36 1 0 (c :: rest)
    let count := label.length + 1
    let place := position + delta
    let code := code + place / count
    guard (code.isValidChar)
    let front := label.take (place % count)
    let back := label.drop (place % count)
    readCodes? fuel code (place % count + 1) (adapt delta count (position == 0))
      (front ++ Char.ofNat code :: back) rest

-- The last hyphen closes the ASCII characters.
def decode? (text : List Char) : Option (List Char) :=
  let back := (text.reverse.takeWhile (· != '-')).reverse
  let front := (text.reverse.dropWhile (· != '-')).reverse.dropLast
  if text.head? == some '-' && front.isEmpty then none
  else if !text.all isBasic then none
  else readCodes? text.length 0x80 0 72 front back

end Punycode

namespace Domain

-- One way to bring domain names into the form in which they go over the wire: small letters, each
-- label in ASCII. The full rules for scripts beyond ASCII take tables that are not here, so that
-- some names come out otherwise than by them. Nothing that is said of loaders and runs rests on
-- this way; it is said of all ways to read addresses.

-- Characters that a name may hold but that do not count.
def ignored : Text.CharSet := [
  (0xad, 0xad, 1), (0x34f, 0x34f, 1), (0x180b, 0x180d, 1), (0x180f, 0x180f, 1),
  (0x200b, 0x200b, 1), (0x2060, 0x2060, 1), (0x2064, 0x2064, 1), (0xfe00, 0xfe0f, 1),
  (0xfeff, 0xfeff, 1), (0xe0100, 0xe01ef, 1)]

def isFullStop (c : Char) : Bool := c == '.' || c == '\u3002' || c == '\uff0e' || c == '\uff61'

-- Full-width forms stand for the ASCII characters.
def narrow (c : Char) : Char :=
  if 0xff01 ≤ c.toNat && c.toNat ≤ 0xff5e then Char.ofNat (c.toNat - 0xfee0) else c

-- What a character of a name stands for; nothing if it may not be there.
def mapChar? (c : Char) : Option (List Char) :=
  if Text.isAscii c then some [Text.lowerAscii c]
  else if ignored.contains c then some []
  else if isFullStop c then some ['.']
  else if Text.VisibleTable.unprintable.contains c then none
  else some (Text.lowerChar (narrow c))

def isForbidden (c : Char) : Bool :=
  c.toNat ≤ 0x20 || c.toNat == 0x7f ||
    ['%', '#', '/', ':', '<', '>', '?', '@', '[', '\\', ']', '^', '|'].contains c

def startsWithMark : List Char → Bool
  | c :: _ => Text.VisibleTable.extending.contains c
  | [] => false

-- A label that was already encoded must decode to a label that is encoded this way.
def isEncodedLabel (text : List Char) : Bool :=
  match Punycode.decode? text with
  | none => false
  | some label =>
    text.getLast? != some '-' && !label.all Punycode.isBasic && !startsWithMark label &&
      label.all fun c => mapChar? c == some [c]

def encodeLabel? : List Char → Option (List Char)
  | 'x' :: 'n' :: '-' :: '-' :: text =>
    if isEncodedLabel text then some ("xn--".toList ++ text) else none
  | label =>
    if label.all Punycode.isBasic then some label
    else if startsWithMark label then none
    else some ("xn--".toList ++ Punycode.encode label)

def ofText? (text : List Char) : Option (List Char) := do
  let mapped := (← text.mapM mapChar?).flatten
  guard (!mapped.any isForbidden)
  let labels ← (mapped.splitOn '.').mapM encodeLabel?
  return List.intercalate ['.'] labels

end Domain

end SchemaBindings.Endpoint
