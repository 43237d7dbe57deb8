import SchemaBindings.Source.Layout
import SchemaBindings.Source.Token

namespace SchemaBindings.Source

abbrev Stream := List Token

namespace Stream

def skipMarks? : List Char → Stream → Option Stream
  | [], tokens => some tokens
  | [c], .mark m _ :: rest => if m == c then some rest else none
  | c :: sign, .mark m joint :: rest => if m == c && joint then skipMarks? sign rest else none
  | _, _ => none

def skipSign? (sign : String) (tokens : Stream) : Option Stream :=
  skipMarks? sign.toList tokens

def startsSign (sign : String) (tokens : Stream) : Bool := (tokens.skipSign? sign).isSome

def startsWord (name : String) : Stream → Bool
  | .word false found :: _ => found == name
  | _ => false

def startsOneOf (names : List String) : Stream → Bool
  | .word false found :: _ => names.contains found
  | _ => false

def startsAnyWord : Stream → Bool
  | .word _ _ :: _ => true
  | _ => false

def startsGroup (bracket : Bracket) : Stream → Bool
  | .group found _ :: _ => found == bracket
  | _ => false

def startsName : Stream → Bool
  | .word raw name :: _ => raw || !isKeyword name
  | _ => false

def startsLifetime : Stream → Bool
  | .mark '\'' _ :: .word _ _ :: _ => true
  | _ => false

-- An attribute, or a comment that stands for one.
def startsAttribute : Stream → Bool
  | .mark '#' _ :: _ => true
  | .doc _ _ :: _ => true
  | _ => false

def startsDigit (text : String) : Bool := (text.toList.head?.map Text.isAsciiDigit).getD false

-- A minus sign before a number belongs to it.
def skipLiteral? : Stream → Option (String × Stream)
  | .literal text :: rest => some (text, rest)
  | .word false "true" :: rest => some ("true", rest)
  | .word false "false" :: rest => some ("false", rest)
  | .mark '-' _ :: .literal text :: rest =>
    if startsDigit text then some ("-" ++ text, rest) else none
  | _ => none

def startsLiteral (tokens : Stream) : Bool := tokens.skipLiteral?.isSome

-- What follows the first token. A lifetime is passed over as a whole.
def skip : Stream → Stream
  | .mark '\'' _ :: .word _ _ :: rest => rest
  | _ :: rest => rest
  | [] => []

end Stream

-- `bound` exceeds the number of tokens in the whole text. `leftover` is the bracket of the first
-- group that was not read to its end, which is at fault only if all else can be read.
structure Reading where
  tokens : Stream
  bound : Nat
  leftover : Option Bracket

abbrev Read := StateT Reading (Except Fault)

def ahead : Read Stream := do return (← get).tokens

def advance (tokens : Stream) : Read Unit := modify fun reading => { reading with tokens }

def sees (test : Stream → Bool) : Read Bool := do return test (← ahead)

def seesSign (sign : String) : Read Bool := sees (·.startsSign sign)

def seesWord (name : String) : Read Bool := sees (·.startsWord name)

def seesGroup (bracket : Bracket) : Read Bool := sees (·.startsGroup bracket)

def isDone : Read Bool := sees (·.isEmpty)

def refuse (fault : Fault) : Read α := throw fault

def due (what : String) : Read α := do refuse (.expected what (← isDone))

def oneOf : List String → String
  | [a, b] => a ++ " or " ++ b
  | [a] => a
  | options => "one of: " ++ ", ".intercalate options

def dueOneOf (options : List String) : Read α := due (oneOf options)

def trySign (sign : String) : Read Bool := do
  match (← ahead).skipSign? sign with
  | some rest =>
    advance rest
    return true
  | none => return false

def trySignIf (wanted : Bool) (sign : String) : Read Bool :=
  if wanted then trySign sign else return false

-- A sign that is missing is never put down to the end of the text.
def takeSign (sign : String) : Read Unit := do
  if !(← trySign sign) then refuse (.expected ("`" ++ sign ++ "`") false)

def tryWord (name : String) : Read Bool := do
  if ← seesWord name then
    advance ((← ahead).drop 1)
    return true
  else return false

def takeWord (name : String) : Read Unit := do
  if !(← tryWord name) then due ("`" ++ name ++ "`")

def spelling (raw : Bool) (name : String) : String := if raw then "r#" ++ name else name

def takeName : Read String := do
  match ← ahead with
  | .word raw name :: rest =>
    if !raw && isKeyword name then refuse (.keyword name)
    advance rest
    return spelling raw name
  | _ => due "identifier"

def takeAnyWord : Read String := do
  match ← ahead with
  | .word raw name :: rest =>
    advance rest
    return spelling raw name
  | _ => due "ident"

-- The words of a row that stand next, in this order, each of which may be missing.
def takeWords : List String → Read (List String)
  | [] => return []
  | name :: names => do
    if ← tryWord name then return name :: (← takeWords names) else takeWords names

def tryLifetime : Read (Option String) := do
  match ← ahead with
  | .mark '\'' _ :: .word raw name :: rest =>
    advance rest
    return some ("'" ++ spelling raw name)
  | _ => return none

def takeLifetime : Read String := do
  match ← tryLifetime with
  | some name => return name
  | none => due "lifetime"

def tryLiteral : Read (Option String) := do
  match (← ahead).skipLiteral? with
  | some (text, rest) =>
    advance rest
    return some text
  | none => return none

def Bracket.described : Bracket → String
  | .round => "parentheses"
  | .square => "square brackets"
  | .curly => "curly braces"

def Bracket.closer : Bracket → Char
  | .round => ')'
  | .square => ']'
  | .curly => '\x7d'

-- Reads the content of the group that is due here, and goes on behind it.
def inGroup (bracket : Bracket) (read : Read α) : Read α := do
  match ← ahead with
  | .group found content :: rest =>
    if found ≠ bracket then due bracket.described
    advance content
    let result ← read
    let inside ← get
    let left := if inside.tokens.isEmpty then none else some bracket
    set { inside with tokens := rest, leftover := inside.leftover.or left }
    return result
  | _ => due bracket.described

-- The reading as it was before, if the phrase cannot be read.
def attempt (read : Read α) : Read (Option α) := fun reading =>
  match read reading with
  | .ok (result, after) => .ok (some result, after)
  | .error _ => .ok (none, reading)

def repeatedAtMost (going : Stream → Bool) (item : Read α) : Nat → Read (List α)
  | 0 => refuse .unreadable
  | fuel + 1 => do
    if going (← ahead) then
      let first ← item
      return first :: (← repeatedAtMost going item fuel)
    else return []

def repeatedWhile (going : Stream → Bool) (item : Read α) : Read (List α) := do
  repeatedAtMost going item (← get).bound

-- Every token belongs to some item.
def repeated (item : Read α) : Read (List α) := repeatedWhile (!·.isEmpty) item

-- What a row of phrases with signs between them holds, and whether a sign closes it.
structure Row (α : Type) where
  items : List α
  closed : Bool

def rowAtMost (ends : Stream → Bool) (sign : String) (item : Read α) : Nat → Read (Row α)
  | 0 => refuse .unreadable
  | fuel + 1 => do
    if ends (← ahead) then return ⟨[], true⟩
    let first ← item
    if ends (← ahead) then return ⟨[first], false⟩
    takeSign sign
    let others ← rowAtMost ends sign item fuel
    return { others with items := first :: others.items }

-- Between any two phrases the sign is due.
def rowUntil (ends : Stream → Bool) (sign : String) (item : Read α) : Read (Row α) := do
  rowAtMost ends sign item (← get).bound

-- Phrases with commas between them, up to the end of the group.
def separated (item : Read α) : Read (Row α) := rowUntil (·.isEmpty) "," item

def linkedAtMost (ends : Stream → Bool) (sign : String) (item : Read α) : Nat → Read (Row α)
  | 0 => refuse .unreadable
  | fuel + 1 => do
    if ends (← ahead) then return ⟨[], true⟩
    let first ← item
    if ← trySign sign then
      let others ← linkedAtMost ends sign item fuel
      return { others with items := first :: others.items }
    else return ⟨[first], false⟩

-- The row goes on as long as the sign follows.
def linked (ends : Stream → Bool) (sign : String) (item : Read α) : Read (Row α) := do
  linkedAtMost ends sign item (← get).bound

-- What a phrase is, as far as the phrases around it ask.
inductive Form where
  | plain
  -- Types: one word, any path, bounds, a type in parentheses.
  | name
  | path
  | bounds (single : Option Layout)
  | enclosed
  -- Bounds.
  | lifetime
  -- Patterns: two points alone, and a range that lacks an end.
  | rest
  | openRange
  -- Expressions.
  | range
  | comparison
  | jump
  | empty
  | block (arm : Layout)
  | blocklike
  | loop
  | branch (complete : Bool)
  | invocation (curly : Bool)
  -- The lines of a block, with the one value it may consist of, as a line and as an arm.
  | lines (any : Bool) (value : Option (Layout × Layout))

structure Phrase where
  layout : Layout
  form : Form := .plain

-- Where bounds stand, which decides on the marks they may carry.
inductive BoundPlace where
  | hiddenType
  | clause
  | object
  deriving DecidableEq, Repr

-- A type may end in bounds behind a plus; an expression may be a record; `operand` stops before any
-- binary operator, `line` where a statement ends; `lines` are all that a block holds.
inductive Kind where
  | type (plus : Bool)
  | bound (place : BoundPlace)
  | pattern
  | expression (record : Bool)
  | operand (record : Bool)
  | line
  | block
  | lines
  | item

abbrev Grammar := Kind → Read Phrase

end SchemaBindings.Source
