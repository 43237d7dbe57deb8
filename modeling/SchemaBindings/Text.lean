import SchemaBindings.Text.Tables

namespace SchemaBindings.Text

def blankTable : CharSet := [
  (0x9, 0xd, 1), (0x20, 0x20, 1), (0x85, 0x85, 1), (0xa0, 0xa0, 1), (0x1680, 0x1680, 1),
  (0x2000, 0x200a, 1), (0x2028, 0x2029, 1), (0x202f, 0x202f, 1), (0x205f, 0x205f, 1),
  (0x3000, 0x3000, 1)]

def isBlank (c : Char) : Bool := blankTable.contains c

def trimEnd (cs : List Char) : List Char := (cs.reverse.dropWhile isBlank).reverse

-- A line feed ends a line and takes one carriage return before it along.
-- `held` is the line so far, last character first.
def linesFrom (held : List Char) : List Char → List (List Char)
  | [] => if held.isEmpty then [] else [held.reverse]
  | c :: rest =>
    if c == '\n' then
      (match held with | '\r' :: line => line | line => line).reverse :: linesFrom [] rest
    else linesFrom (c :: held) rest

def lines (cs : List Char) : List (List Char) := linesFrom [] cs

def isAscii (c : Char) : Bool := c.toNat < 0x80

def isAsciiUpper (c : Char) : Bool := 'A' ≤ c && c ≤ 'Z'

def isAsciiLower (c : Char) : Bool := 'a' ≤ c && c ≤ 'z'

def isAsciiDigit (c : Char) : Bool := '0' ≤ c && c ≤ '9'

def isUpper (c : Char) : Bool :=
  if isAscii c then isAsciiUpper c else CaseTable.uppercase.contains c

def isLower (c : Char) : Bool :=
  if isAscii c then isAsciiLower c else CaseTable.lowercase.contains c

def isCased (c : Char) : Bool :=
  if isAscii c then isAsciiUpper c || isAsciiLower c else CaseTable.cased.contains c

def isCaseIgnorable (c : Char) : Bool :=
  if isAscii c then c == '\'' || c == '.' || c == ':' || c == '^' || c == '\x60'
  else CaseTable.ignorable.contains c

-- The first stretch that holds the character says how far its partner is.
def shiftBy (shifts : List (Nat × Nat × Nat × Int)) (c : Char) : Char :=
  match shifts.find? fun (first, last, step, _) =>
      first ≤ c.toNat && c.toNat ≤ last && (c.toNat - first) % step == 0 with
  | some (_, _, _, distance) => Char.ofNat (c.toNat + distance).toNat
  | none => c

def lowerAscii (c : Char) : Char :=
  if isAsciiUpper c then Char.ofNat (c.toNat + 32) else c

def upperAscii (c : Char) : Char :=
  if isAsciiLower c then Char.ofNat (c.toNat - 32) else c

-- The dotted capital I keeps its dot as a combining mark.
def lowerChar (c : Char) : List Char :=
  if isAscii c then [lowerAscii c]
  else if c == '\u0130' then ['i', '\u0307']
  else [shiftBy CaseTable.lowerShifts c]

def upperChar (c : Char) : List Char :=
  if isAscii c then [upperAscii c]
  else match CaseTable.upperExpansions.find? fun (code, _) => code == c.toNat with
    | some (_, codes) => codes.map Char.ofNat
    | none => [shiftBy CaseTable.upperShifts c]

-- The nearest character that is not stepped over is a letter with case.
def meetsCased (cs : List Char) : Bool :=
  match cs.dropWhile isCaseIgnorable with
  | c :: _ => isCased c
  | [] => false

-- A capital sigma that closes a word takes the final form.
def lowerSigma (before after : List Char) : Char :=
  if meetsCased before && !meetsCased after then 'ς' else 'σ'

-- `before` is what was already passed, nearest character first.
def lowerFrom (before : List Char) : List Char → List Char
  | [] => []
  | c :: rest =>
    (if c == 'Σ' then [lowerSigma before rest] else lowerChar c) ++ lowerFrom (c :: before) rest

def lower (cs : List Char) : List Char := lowerFrom [] cs

def isAsciiLetter (c : Char) : Bool := isAsciiUpper c || isAsciiLower c

-- The underscore may begin an identifier as well.
def isIdentifierStart (c : Char) : Bool :=
  if isAscii c then isAsciiLetter c || c == '_' else IdentifierTable.start.contains c

def isIdentifierPart (c : Char) : Bool :=
  if isAscii c then isAsciiLetter c || isAsciiDigit c || c == '_'
  else IdentifierTable.start.contains c || IdentifierTable.continueOnly.contains c

theorem isIdentifierPart_of_start {c : Char} (start : isIdentifierStart c = true) :
    isIdentifierPart c = true := by
  unfold isIdentifierStart at start
  unfold isIdentifierPart
  split at start
  · rename_i ascii
    simp only [ascii, ↓reduceIte]
    simp only [Bool.or_eq_true] at start ⊢
    rcases start with letter | underscore
    · exact .inl (.inl letter)
    · exact .inr underscore
  · rename_i ascii
    simp [ascii, start]

def hexDigit (n : Nat) : Char :=
  if n < 10 then Char.ofNat (0x30 + n) else Char.ofNat (0x57 + n)

def hexDigits (n : Nat) : List Char :=
  if n < 16 then [hexDigit n] else hexDigits (n / 16) ++ [hexDigit (n % 16)]

namespace Quoted

def isVisible (c : Char) : Bool :=
  if isAscii c then 0x20 ≤ c.toNat && c.toNat < 0x7f
  else !VisibleTable.unprintable.contains c && !VisibleTable.extending.contains c

def escape (c : Char) : List Char :=
  if c == '\x00' then ['\\', '0']
  else if c == '\t' then ['\\', 't']
  else if c == '\r' then ['\\', 'r']
  else if c == '\n' then ['\\', 'n']
  else if c == '\\' then ['\\', '\\']
  else if c == '"' then ['\\', '"']
  else if isVisible c then [c]
  else ['\\', 'u', '{'] ++ hexDigits c.toNat ++ ['}']

def encode (s : String) : String :=
  String.ofList ('"' :: s.toList.flatMap escape ++ ['"'])

end Quoted

namespace Utf8

-- Bytes that form no character are replaced, the longest start of one at a time.
def replacement : Char := '\ufffd'

-- How many bytes must follow a first byte, and between which bounds the second one lies.
def follow? (lead : Nat) : Option (Nat × Nat × Nat) :=
  if 0xc2 ≤ lead && lead ≤ 0xdf then some (1, 0x80, 0xbf)
  else if lead == 0xe0 then some (2, 0xa0, 0xbf)
  else if lead == 0xed then some (2, 0x80, 0x9f)
  else if 0xe1 ≤ lead && lead ≤ 0xef then some (2, 0x80, 0xbf)
  else if lead == 0xf0 then some (3, 0x90, 0xbf)
  else if 0xf1 ≤ lead && lead ≤ 0xf3 then some (3, 0x80, 0xbf)
  else if lead == 0xf4 then some (3, 0x80, 0x8f)
  else none

-- The bits that a first byte gives when `more` bytes follow.
def leadBits (lead more : Nat) : Nat :=
  if more == 1 then lead % 0x20 else if more == 2 then lead % 0x10 else lead % 0x08

-- Reads the bytes after the first one. `code` holds the bits so far.
def readTail (low high code : Nat) : Nat → List UInt8 → Char × List UInt8
  | 0, rest => (Char.ofNat code, rest)
  | _ + 1, [] => (replacement, [])
  | more + 1, byte :: rest =>
    if low ≤ byte.toNat && byte.toNat ≤ high then
      readTail 0x80 0xbf (code * 0x40 + byte.toNat % 0x40) more rest
    else (replacement, byte :: rest)

theorem length_readTail_le (low high code more : Nat) (bytes : List UInt8) :
    (readTail low high code more bytes).2.length ≤ bytes.length := by
  induction more generalizing low high code bytes with
  | zero => exact Nat.le_refl _
  | succ more ih =>
    cases bytes with
    | nil => exact Nat.le_refl _
    | cons byte rest =>
      unfold readTail
      split
      · exact Nat.le_trans (ih _ _ _ _) (Nat.le_succ _)
      · exact Nat.le_refl _

def readChar (lead : UInt8) (rest : List UInt8) : Char × List UInt8 :=
  if lead.toNat < 0x80 then (Char.ofNat lead.toNat, rest)
  else match follow? lead.toNat with
    | none => (replacement, rest)
    | some (more, low, high) => readTail low high (leadBits lead.toNat more) more rest

theorem length_readChar_le (lead : UInt8) (rest : List UInt8) :
    (readChar lead rest).2.length ≤ rest.length := by
  unfold readChar
  split
  · exact Nat.le_refl _
  · split
    · exact Nat.le_refl _
    · exact length_readTail_le _ _ _ _ _

def decodeList : List UInt8 → List Char
  | [] => []
  | lead :: rest => (readChar lead rest).1 :: decodeList (readChar lead rest).2
termination_by bytes => bytes.length
decreasing_by exact Nat.lt_succ_of_le (length_readChar_le lead rest)

-- Text stays what it is, and anything else is read byte by byte.
def decode (bytes : ByteArray) : String :=
  match String.fromUTF8? bytes with
  | some text => text
  | none => String.ofList (decodeList bytes.toList)

theorem decode_toUTF8 (text : String) : decode text.toUTF8 = text := by
  have valid : text.toUTF8.IsValidUTF8 := text.isValidUTF8
  simp only [decode, String.fromUTF8?]
  split
  · rename_i h
    split at h
    · injection h with h
      rw [← h]
      rfl
    · contradiction
  · rename_i h
    split at h
    · contradiction
    · rename_i invalid
      exact (invalid valid).elim

end Utf8

end SchemaBindings.Text
