import SchemaBindings.Text

namespace SchemaBindings.Source

-- The two marks that set the writing direction count as white space in source.
def isGap (c : Char) : Bool := Text.isBlank c || c == '\u200e' || c == '\u200f'

-- `startsDocLine rest` looks at what follows two slashes.
def startsDocLine : List Char → Bool
  | '/' :: '/' :: _ => false
  | '/' :: _ => true
  | '!' :: _ => true
  | _ => false

-- `startsDocBlock rest` looks at what follows a slash and a star.
def startsDocBlock : List Char → Bool
  | '*' :: '*' :: _ => false
  | '*' :: '/' :: _ => false
  | '*' :: _ => true
  | '!' :: _ => true
  | _ => false

-- A block comment that never ends is not passed over: the scan stays where the comment began.
mutual
def skipGap : List Char → List Char
  | [] => []
  | '/' :: '/' :: rest => if startsDocLine rest then '/' :: '/' :: rest else skipLine rest
  | '/' :: '*' :: rest =>
    if startsDocBlock rest then '/' :: '*' :: rest else skipBlock ('/' :: '*' :: rest) 0 rest
  | c :: rest => if isGap c then skipGap rest else c :: rest

def skipLine : List Char → List Char
  | [] => []
  | '\n' :: rest => skipGap rest
  | _ :: rest => skipLine rest

def skipBlock (start : List Char) (depth : Nat) : List Char → List Char
  | '/' :: '*' :: rest => skipBlock start (depth + 1) rest
  | '*' :: '/' :: rest => if depth = 0 then skipGap rest else skipBlock start (depth - 1) rest
  | _ :: rest => skipBlock start depth rest
  | [] => start
end

-- The text up to the end of the line, and what follows it from the line feed on.
def takeLine : List Char → List Char × List Char
  | [] => ([], [])
  | '\n' :: rest => ([], '\n' :: rest)
  | '\r' :: '\n' :: rest => ([], '\n' :: rest)
  | c :: rest => let (line, after) := takeLine rest; (c :: line, after)

-- The text of a block comment after its opening, up to the close that matches.
def takeBlock (depth : Nat) : List Char → Option (List Char × List Char)
  | '/' :: '*' :: rest =>
    (takeBlock (depth + 1) rest).map fun (text, after) => ('/' :: '*' :: text, after)
  | '*' :: '/' :: rest =>
    if depth = 0 then some ([], rest)
    else (takeBlock (depth - 1) rest).map fun (text, after) => ('*' :: '/' :: text, after)
  | c :: rest => (takeBlock depth rest).map fun (text, after) => (c :: text, after)
  | [] => none

-- A carriage return that no line feed follows.
def hasBareReturn : List Char → Bool
  | [] => false
  | '\r' :: '\n' :: rest => hasBareReturn rest
  | '\r' :: _ => true
  | _ :: rest => hasBareReturn rest

structure DocComment where
  inner : Bool
  text : List Char

-- A comment that documents what follows it, or what it stands in.
def takeDoc (cs : List Char) : Option (DocComment × List Char) :=
  let taken : Option (DocComment × List Char) := match cs with
    | '/' :: '/' :: '!' :: rest =>
      let (text, after) := takeLine rest
      some (⟨true, text⟩, after)
    | '/' :: '/' :: '/' :: rest =>
      if rest.head? = some '/' then none
      else
        let (text, after) := takeLine rest
        some (⟨false, text⟩, after)
    | '/' :: '*' :: '!' :: rest =>
      (takeBlock 0 rest).map fun (text, after) => (⟨true, text⟩, after)
    | '/' :: '*' :: '*' :: rest =>
      if rest.head? = some '*' then none
      else (takeBlock 0 rest).map fun (text, after) => (⟨false, text⟩, after)
    | _ => none
  taken.filter fun (doc, _) => !hasBareReturn doc.text

namespace Literal

-- Text holds any character, bytes hold ASCII, terminated text holds anything but the null.
inductive Flavour where
  | text
  | bytes
  | terminated
  deriving DecidableEq, Repr

def Flavour.holds : Flavour → Char → Bool
  | .text, _ => true
  | .bytes, c => Text.isAscii c
  | .terminated, c => c != '\x00'

def isHexDigit (c : Char) : Bool :=
  Text.isAsciiDigit c || ('a' ≤ c && c ≤ 'f') || ('A' ≤ c && c ≤ 'F')

def hexValue (c : Char) : Nat :=
  if Text.isAsciiDigit c then c.toNat - 0x30
  else if 'a' ≤ c && c ≤ 'f' then c.toNat - 0x57
  else c.toNat - 0x37

def Flavour.holdsHexPair (flavour : Flavour) (a b : Char) : Bool :=
  isHexDigit a && isHexDigit b && match flavour with
    | .text => hexValue a < 8
    | .bytes => true
    | .terminated => hexValue a != 0 || hexValue b != 0

def Flavour.holdsCode : Flavour → Nat → Bool
  | .text, n => n.isValidChar
  | .bytes, _ => false
  | .terminated, n => n.isValidChar && n != 0

def isSimpleEscape (flavour : Flavour) (c : Char) : Bool :=
  c == 'n' || c == 'r' || c == 't' || c == '\\' || c == '\'' || c == '"' ||
    (c == '0' && flavour != .terminated)

-- What a number or a quoted literal may have directly behind it.
def skipSuffix : List Char → List Char
  | c :: rest =>
    if Text.isIdentifierStart c then rest.dropWhile Text.isIdentifierPart else c :: rest
  | [] => []

-- From behind the opening quote. A backslash before a line break opens a gap: the white space from
-- there on is no part of the text.
mutual
def quoted (flavour : Flavour) (gap : Bool) : List Char → Option (List Char)
  | [] => none
  | '"' :: rest => some (skipSuffix rest)
  | '\r' :: '\n' :: rest => quoted flavour gap rest
  | '\r' :: _ => none
  | '\\' :: 'x' :: a :: b :: rest =>
    if flavour.holdsHexPair a b then quoted flavour false rest else none
  | '\\' :: 'u' :: '{' :: rest => quotedCode flavour 0 0 rest
  | '\\' :: '\n' :: rest => quoted flavour true rest
  | '\\' :: '\r' :: '\n' :: rest => quoted flavour true rest
  | '\\' :: c :: rest => if isSimpleEscape flavour c then quoted flavour false rest else none
  | c :: rest =>
    if gap && (c == ' ' || c == '\t' || c == '\n') then quoted flavour true rest
    else if c != '\\' && flavour.holds c then quoted flavour false rest
    else none

def quotedCode (flavour : Flavour) (value count : Nat) : List Char → Option (List Char)
  | [] => none
  | c :: rest =>
    if isHexDigit c then
      if count = 6 then none else quotedCode flavour (value * 16 + hexValue c) (count + 1) rest
    else if count = 0 then none
    else if c == '_' then quotedCode flavour value count rest
    else if c == '}' then if flavour.holdsCode value then quoted flavour false rest else none
    else none
end

-- Behind the opening quote of a text without escapes that as many hash marks close as opened it.
def rawBody (flavour : Flavour) (hashes : Nat) : List Char → Option (List Char)
  | [] => none
  | '\r' :: '\n' :: rest => rawBody flavour hashes rest
  | '\r' :: _ => none
  | c :: rest =>
    if c == '"' && rest.take hashes == List.replicate hashes '#' then
      some (skipSuffix (rest.drop hashes))
    else if flavour.holds c then rawBody flavour hashes rest
    else none

def raw (flavour : Flavour) (cs : List Char) : Option (List Char) :=
  let hashes := (cs.takeWhile (· == '#')).length
  match cs.drop hashes with
  | '"' :: rest => if hashes ≤ 255 then rawBody flavour hashes rest else none
  | _ => none

def closeSingle : List Char → Option (List Char)
  | '\'' :: rest => some (skipSuffix rest)
  | _ => none

-- The code point in braces, and what follows the closing brace.
def code (value count : Nat) : List Char → Option (List Char)
  | [] => none
  | c :: rest =>
    if isHexDigit c then
      if count = 6 then none else code (value * 16 + hexValue c) (count + 1) rest
    else if count = 0 then none
    else if c == '_' then code value count rest
    else if c == '}' && value.isValidChar then some rest
    else none

def character (flavour : Flavour) : List Char → Option (List Char)
  | '\\' :: 'x' :: a :: b :: rest =>
    if flavour.holdsHexPair a b then closeSingle rest else none
  | '\\' :: 'u' :: '{' :: rest =>
    if flavour = .text then (code 0 0 rest).bind closeSingle else none
  | '\\' :: c :: rest => if isSimpleEscape flavour c then closeSingle rest else none
  | c :: rest => if c != '\\' && flavour.holds c then closeSingle rest else none
  | [] => none

-- A number takes a suffix like a name, and nothing that could lengthen it may follow.
def endNumber (cs : List Char) : Option (List Char) :=
  let rest := skipSuffix cs
  match rest with
  | c :: _ => if Text.isIdentifierPart c then none else some rest
  | [] => some rest

def digitsInBase (base : Nat) (seen : Bool) : List Char → Option (List Char)
  | [] => if seen then some [] else none
  | c :: rest =>
    if Text.isAsciiDigit c then
      if hexValue c < base then digitsInBase base true rest else none
    else if c == '_' then
      if !seen && base == 10 then none else digitsInBase base seen rest
    else if isHexDigit c && hexValue c < base then digitsInBase base true rest
    else if seen then some (c :: rest) else none

def integer (cs : List Char) : Option (List Char) :=
  (match cs with
    | '0' :: 'x' :: rest => digitsInBase 16 false rest
    | '0' :: 'o' :: rest => digitsInBase 8 false rest
    | '0' :: 'b' :: rest => digitsInBase 2 false rest
    | _ => digitsInBase 10 false cs).bind endNumber

-- Behind the exponent's letter: at least one digit, with one sign before it.
def exponent (signed valued : Bool) : List Char → Option (List Char)
  | [] => if valued then some [] else none
  | c :: rest =>
    if (c == '+' || c == '-') && !valued then if signed then none else exponent true valued rest
    else if Text.isAsciiDigit c then exponent signed true rest
    else if c == '_' then exponent signed valued rest
    else if valued then some (c :: rest) else none

-- Without a whole exponent the number ends before the letter, if it had a point.
def floatDigits (dotted : Bool) : List Char → Option (List Char)
  | [] => if dotted then some [] else none
  | c :: rest =>
    if Text.isAsciiDigit c || c == '_' then floatDigits dotted rest
    else if c == '.' && !dotted then
      match rest with
      | d :: _ => if d == '.' || Text.isIdentifierStart d then none else floatDigits true rest
      | [] => some []
    else if c == 'e' || c == 'E' then
      match exponent false false rest with
      | some after => some after
      | none => if dotted then some (c :: rest) else none
    else if dotted then some (c :: rest) else none

def float (cs : List Char) : Option (List Char) :=
  match cs with
  | c :: rest => if Text.isAsciiDigit c then (floatDigits false rest).bind endNumber else none
  | [] => none

-- Tries the forms in turn; a letter that could open a quoted form may still begin a name.
def skip (cs : List Char) : Option (List Char) :=
  match cs with
  | '"' :: rest => quoted .text false rest
  | 'r' :: rest => raw .text rest
  | 'b' :: '"' :: rest => quoted .bytes false rest
  | 'b' :: 'r' :: rest => raw .bytes rest
  | 'b' :: '\'' :: rest => character .bytes rest
  | 'c' :: '"' :: rest => quoted .terminated false rest
  | 'c' :: 'r' :: rest => raw .terminated rest
  | '\'' :: rest => character .text rest
  | _ => (float cs).or (integer cs)

end Literal

inductive Bracket where
  | round
  | square
  | curly
  deriving DecidableEq, Repr

-- A joint mark has another mark directly behind it.
inductive Lexeme where
  | opening (bracket : Bracket)
  | closing (bracket : Bracket)
  | word (raw : Bool) (name : String)
  | mark (c : Char) (joint : Bool)
  | literal (text : String)
  | doc (inner : Bool) (text : String)
  deriving DecidableEq, Repr

inductive Token where
  | word (raw : Bool) (name : String)
  | mark (c : Char) (joint : Bool)
  | literal (text : String)
  | doc (inner : Bool) (text : String)
  | group (bracket : Bracket) (content : List Token)
  deriving Repr

namespace Lexeme

def openingOf : Char → Option Bracket
  | '(' => some .round
  | '[' => some .square
  | '{' => some .curly
  | _ => none

def closingOf : Char → Option Bracket
  | ')' => some .round
  | ']' => some .square
  | '}' => some .curly
  | _ => none

def marks : List Char :=
  ['~', '!', '@', '#', '$', '%', '^', '&', '*', '-', '=', '+', '|', ';', ':', ',', '<', '.', '>',
    '/', '?', '\'']

-- A slash that opens a comment is no mark.
def startsMark : List Char → Bool
  | '/' :: '/' :: _ => false
  | '/' :: '*' :: _ => false
  | c :: _ => marks.contains c
  | [] => false

def takePlainWord : List Char → Option (List Char × List Char)
  | c :: rest =>
    if Text.isIdentifierStart c then
      some (c :: rest.takeWhile Text.isIdentifierPart, rest.dropWhile Text.isIdentifierPart)
    else none
  | [] => none

-- Names that keep their meaning even when they are written raw.
def neverRaw : List String := ["_", "super", "self", "Self", "crate"]

def takeWord : List Char → Option (Bool × List Char × List Char)
  | 'r' :: '#' :: rest =>
    (takePlainWord rest).bind fun (name, after) =>
      if neverRaw.contains (String.ofList name) then none else some (true, name, after)
  | cs => (takePlainWord cs).map fun (name, after) => (false, name, after)

-- Openings of quoted forms, which are not read as names when the form itself is broken.
def startsQuotedForm : List Char → Bool
  | 'r' :: '"' :: _ => true
  | 'r' :: '#' :: '"' :: _ => true
  | 'r' :: '#' :: '#' :: _ => true
  | 'b' :: '"' :: _ => true
  | 'b' :: '\'' :: _ => true
  | 'b' :: 'r' :: '"' :: _ => true
  | 'b' :: 'r' :: '#' :: _ => true
  | 'c' :: '"' :: _ => true
  | 'c' :: 'r' :: '"' :: _ => true
  | 'c' :: 'r' :: '#' :: _ => true
  | _ => false

-- A single quote is a mark only as the front of a lifetime.
def opensLifetime (rest : List Char) : Bool :=
  match takeWord rest with
  | none => false
  | some (raw, _, after) =>
    match after with
    | '\'' :: _ => false
    | '#' :: _ => raw
    | _ => true

def takeMark (cs : List Char) : Option (Lexeme × List Char) :=
  match cs with
  | '\'' :: rest => if opensLifetime rest then some (.mark '\'' true, rest) else none
  | c :: rest => if startsMark cs then some (.mark c (startsMark rest), rest) else none
  | [] => none

def takeLiteral (cs : List Char) : Option (Lexeme × List Char) :=
  (Literal.skip cs).map fun rest =>
    (.literal (String.ofList (cs.take (cs.length - rest.length))), rest)

def takeName (cs : List Char) : Option (Lexeme × List Char) :=
  if startsQuotedForm cs then none
  else (takeWord cs).map fun (raw, name, rest) => (.word raw (String.ofList name), rest)

-- The lexeme at the front of a text that begins with no gap.
def next (cs : List Char) : Option (Lexeme × List Char) :=
  match takeDoc cs with
  | some (comment, rest) => some (.doc comment.inner (String.ofList comment.text), rest)
  | none =>
    match cs with
    | [] => none
    | c :: rest =>
      match openingOf c, closingOf c with
      | some bracket, _ => some (.opening bracket, rest)
      | _, some bracket => some (.closing bracket, rest)
      | none, none => (takeLiteral cs).or ((takeMark cs).or (takeName cs))

-- Every lexeme takes at least one character, so `fuel` lasts when it exceeds the length.
def scanWith : Nat → List Char → Option (List Lexeme)
  | 0, _ => none
  | fuel + 1, cs =>
    match skipGap cs with
    | [] => some []
    | c :: rest => (next (c :: rest)).bind fun (lexeme, after) =>
        (scanWith fuel after).map (lexeme :: ·)

def scan (cs : List Char) : Option (List Lexeme) := scanWith (cs.length + 1) cs

end Lexeme

namespace Token

-- `stack` holds the groups that are still open with what stood before each, innermost first;
-- `held` is the content of the innermost so far, last token first.
def nest (stack : List (Bracket × List Token)) (held : List Token) :
    List Lexeme → Option (List Token)
  | [] => if stack.isEmpty then some held.reverse else none
  | .opening bracket :: rest => nest ((bracket, held) :: stack) [] rest
  | .closing bracket :: rest =>
    match stack with
    | (opened, outer) :: below =>
      if opened = bracket then nest below (.group bracket held.reverse :: outer) rest else none
    | [] => none
  | .word raw name :: rest => nest stack (.word raw name :: held) rest
  | .mark c joint :: rest => nest stack (.mark c joint :: held) rest
  | .literal text :: rest => nest stack (.literal text :: held) rest
  | .doc inner text :: rest => nest stack (.doc inner text :: held) rest

def dropByteOrderMark : List Char → List Char
  | '\ufeff' :: rest => rest
  | cs => cs

-- One byte order mark in front is no part of the text.
def read (cs : List Char) : Option (List Token) :=
  (Lexeme.scan (dropByteOrderMark cs)).bind (nest [] [])

end Token

def keywords : List String := [
  "_", "abstract", "as", "async", "await", "become", "box", "break", "const", "continue", "crate",
  "do", "dyn", "else", "enum", "extern", "false", "final", "fn", "for", "if", "impl", "in", "let",
  "loop", "macro", "match", "mod", "move", "mut", "override", "priv", "pub", "ref", "return",
  "Self", "self", "static", "struct", "super", "trait", "true", "try", "type", "typeof", "unsafe",
  "unsized", "use", "virtual", "where", "while", "yield"]

def isKeyword (name : String) : Bool := keywords.contains name

-- The text is one identifier, apart from white space and comments around it.
def isIdentifier (cs : List Char) : Bool :=
  match Token.read cs with
  | some [.word raw name] => raw || !isKeyword name
  | _ => false

end SchemaBindings.Source
