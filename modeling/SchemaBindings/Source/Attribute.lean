import SchemaBindings.Source.Stream

namespace SchemaBindings.Source

-- What the last token inside an attribute was, which decides on the blank before the next one.
inductive Behind where
  | word
  | sign
  | lastComma
  deriving DecidableEq, Repr

def Bracket.opens : Bracket → String
  | .round => "("
  | .square => "["
  | .curly => "\x7b"

def Bracket.closes (bracket : Bracket) : String := String.singleton bracket.closer

def blankBehind (behind : Behind) : Layout :=
  if behind = .word then Layout.space else []

def closeGroup (bracket : Bracket) (content : Layout) (behind : Behind) : Layout :=
  match bracket with
  | .round =>
    Layout.text "(" ++
      Layout.box true Layout.indent
        (Layout.back (Layout.soft ++ content ++
          if behind = .lastComma then [] else Layout.soft)) ++
      Layout.text ")"
  | _ => Layout.text bracket.opens ++ content ++ Layout.text bracket.closes

mutual
def tokenLayout (behind : Behind) (last : Bool) : Token → Layout × Behind
  | .word raw name => (blankBehind behind ++ Layout.text (spelling raw name), .word)
  | .literal text => (blankBehind behind ++ Layout.text text, .word)
  | .mark c _ =>
    let gap := if behind = .word ∧ c = '=' then Layout.text " " else []
    if c = ',' ∧ last = true then (gap ++ Layout.lastComma, .lastComma)
    else
      let after :=
        if c = '=' then Layout.text " " else if c = ',' then Layout.space else []
      (gap ++ Layout.text (String.singleton c) ++ after, .sign)
  | .doc inner text =>
    (Layout.text ((if inner then "//!" else "///") ++ text), .sign)
  | .group bracket content =>
    let (inside, behind) := tokensLayout .sign content
    (closeGroup bracket inside behind, .sign)

def tokensLayout (behind : Behind) : List Token → Layout × Behind
  | [] => ([], behind)
  | token :: rest =>
    let (first, next) := tokenLayout behind rest.isEmpty token
    let (others, final) := tokensLayout next rest
    (first ++ others, final)
end

-- Words that stand for a place among the modules or for a type, and so may be part of a path.
def startsPlainSegment (tokens : Stream) : Bool :=
  tokens.startsName || tokens.startsOneOf ["super", "self", "Self", "crate"]

def plainSegments : Nat → Read (List String)
  | 0 => refuse .unreadable
  | fuel + 1 => do
    if !startsPlainSegment (← ahead) then due "path segment after `::`"
    let name ← takeAnyWord
    if ← trySign "::" then return name :: (← plainSegments fuel) else return [name]

-- A path without arguments, as the name of an attribute or of what is invoked.
def plainPath : Read String := do
  let rooted ← trySign "::"
  if !startsPlainSegment (← ahead) then
    let _ ← takeName
  let names ← plainSegments (← get).bound
  return (if rooted then "::" else "") ++ "::".intercalate names

def startsOuterAttribute : Stream → Bool
  | .doc inner _ :: _ => !inner
  | .mark '#' _ :: .group .square _ :: _ => true
  | _ => false

-- A literal alone is kept as it stands.
def attributeValue (grammar : Grammar) : Read Layout := do
  match (← ahead).skipLiteral? with
  | some (text, []) =>
    advance []
    return Layout.text text
  | _ =>
    if startsOuterAttribute (← ahead) then refuse .attributeInAttribute
    return (← grammar (.expression true)).layout

-- What an attribute says, from behind its opening bracket to its closing one.
def attributeContent (grammar : Grammar) : Read Layout := do
  let path ← if ← seesWord "unsafe" then takeAnyWord else plainPath
  match ← ahead with
  | .group bracket inside :: rest =>
    advance rest
    let (content, behind) := tokensLayout .sign inside
    return Layout.text path ++ closeGroup bracket content behind
  | tokens =>
    if tokens.startsSign "=" && !tokens.startsSign "==" && !tokens.startsSign "=>" then
      takeSign "="
      return Layout.text (path ++ " = ") ++ (← attributeValue grammar)
    else return Layout.text path

def withoutBlanksBehind (text : String) : String :=
  String.ofList (text.toList.reverse.dropWhile (· == ' ')).reverse

-- All but the last one lose the blanks behind them.
def trimmedLines : List String → List String
  | [] => []
  | [last] => [last]
  | first :: rest => withoutBlanksBehind first :: trimmedLines rest

-- A text of several lines stays a block comment.
def docLayout (inner : Bool) (text : String) : Layout :=
  if text.toList.contains '\n' then
    let lines := "\n".intercalate (trimmedLines (text.splitOn "\n"))
    Layout.text ((if inner then "/*!" else "/**") ++ lines ++ "*/") ++ Layout.hard
  else
    Layout.text ((if inner then "//!" else "///") ++ withoutBlanksBehind text) ++ Layout.hard

def bracketed (opening : String) (said : Layout) : Layout :=
  Layout.text opening ++ said ++ Layout.text "]" ++ Layout.space

def outerAttribute (grammar : Grammar) : Read Layout := do
  match ← ahead with
  | .doc false text :: rest =>
    advance rest
    return docLayout false text
  | .doc true _ :: _ => refuse (.expected Bracket.square.described false)
  | _ =>
    takeSign "#"
    return bracketed "#[" (← inGroup .square (attributeContent grammar))

def outerAttributes (grammar : Grammar) : Read Layout := do
  return (← repeatedWhile (·.startsAttribute) (outerAttribute grammar)).flatten

def startsInnerAttribute : Stream → Bool
  | .doc inner _ :: _ => inner
  | .mark '#' _ :: .mark '!' _ :: _ => true
  | _ => false

-- Attributes of what they stand in.
def innerAttribute (grammar : Grammar) : Read Layout := do
  match ← ahead with
  | .doc _ text :: rest =>
    advance rest
    return docLayout true text
  | _ =>
    takeSign "#"
    takeSign "!"
    return bracketed "#![" (← inGroup .square (attributeContent grammar))

def innerAttributes (grammar : Grammar) : Read Layout := do
  return (← repeatedWhile startsInnerAttribute (innerAttribute grammar)).flatten

-- What stands before a token inside an invocation.
inductive Before where
  | start
  | dollar
  | repetition
  | repetitionSign
  | pound
  | poundBang
  | dot
  | colon
  | doubleColon
  | word
  | wordBang
  | group
  | other
  deriving DecidableEq, Repr

-- Whether a blank is due before the token, and what the next one finds before it.
def placed (before : Before) : Token → Bool × Before
  | .word raw name =>
    if before = .dollar then (false, .other)
    else if before = .repetition then (false, .repetitionSign)
    else if raw || !isKeyword name then (before != .dot && before != .doubleColon, .word)
    else (true, .other)
  | .literal _ =>
    if before = .repetition then (false, .repetitionSign)
    else (before != .dot, .word)
  | .doc _ _ => (true, .other)
  | .group .curly _ => (true, .other)
  | .group bracket _ =>
    if before = .dollar ∧ bracket = .round then (false, .repetition)
    else if (before = .pound ∨ before = .poundBang) ∧ bracket = .square then (false, .other)
    else if before = .word then (false, .group)
    else if before = .wordBang then (false, .other)
    else (true, .group)
  | .mark c joint =>
    if before = .repetition then
      if (c = '+' ∨ c = '*' ∨ c = '?') ∧ !joint then (false, .other)
      else (false, if joint then .repetition else .repetitionSign)
    else if before = .repetitionSign ∧ (c = '+' ∨ c = '*') then (false, .other)
    else if before = .pound ∧ c = '!' then (false, .poundBang)
    else if before = .word ∧ c = '!' ∧ !joint then (false, .wordBang)
    else if before = .colon ∧ c = ':' then (false, .doubleColon)
    else if c = ',' ∨ c = ';' then (false, .other)
    else if c = '.' then (before != .word && before != .group, .dot)
    else if c = ':' ∧ joint then (before != .word, .colon)
    else if c = '$' then (true, .dollar)
    else if c = '#' then (true, .pound)
    else (true, .other)

def endsJoint : Token → Bool
  | .mark c joint => joint || c == '$'
  | _ => false

mutual
def looseToken : Token → Layout
  | .word raw name => Layout.text (spelling raw name)
  | .literal text => Layout.text text
  | .mark c _ => Layout.text (String.singleton c)
  | .doc inner text => Layout.text ((if inner then "//!" else "///") ++ text)
  | .group .curly content =>
    let inside := looseTokens .start true content
    Layout.text "\x7b" ++
      (if content.isEmpty then []
        else Layout.box true Layout.indent
          (Layout.space ++ inside ++ Layout.back Layout.space)) ++
      Layout.text "\x7d"
  | .group bracket content =>
    Layout.text bracket.opens ++ looseTokens .start true content ++ Layout.text bracket.closes

-- `joint` says that the token before must be followed at once.
def looseTokens (before : Before) (joint : Bool) : List Token → Layout
  | [] => []
  | token :: rest =>
    let (apart, next) := placed before token
    (if apart && !joint then Layout.space else []) ++ looseToken token ++
      looseTokens next (endsJoint token) rest
end

structure Invocation where
  bracket : Bracket
  layout : Layout

def Invocation.isCurly (invocation : Invocation) : Bool := invocation.bracket == .curly

def Invocation.needsSemicolon (invocation : Invocation) : Bool := !invocation.isCurly

-- From the group on. `front` is what stands before it.
def takeInvoked (front : String) : Read Invocation := do
  match ← ahead with
  | .group bracket content :: rest =>
    advance rest
    let edge := if bracket = .curly then Layout.hard else Layout.soft
    let opening := if bracket = .curly then " \x7b" else bracket.opens
    let inside :=
      if content.isEmpty then []
      else Layout.box true Layout.indent
        (edge ++ Layout.box false 0 (looseTokens .start true content) ++ Layout.back edge)
    return ⟨bracket, Layout.text (front ++ opening) ++ inside ++ Layout.text bracket.closes⟩
  | _ => due "delimiter"

-- An invocation in place of an item, which may name what it defines.
def takeInvocation (named : Bool) : Read Layout := do
  let path ← plainPath
  takeSign "!"
  let name ← do
    if named && (← sees fun tokens => tokens.startsName || tokens.startsWord "try") then
      pure (" " ++ (← takeAnyWord))
    else pure ""
  let invocation ← takeInvoked (path ++ "!" ++ name)
  if invocation.needsSemicolon then
    takeSign ";"
    return invocation.layout ++ Layout.text ";" ++ Layout.hard
  else return invocation.layout ++ Layout.hard

def startsInvocation (tokens : Stream) : Bool :=
  tokens.startsName || tokens.startsOneOf ["self", "super", "crate"] || tokens.startsSign "::"

inductive Visibility where
  | inherited
  | everywhere
  | within (place : String)
  deriving DecidableEq, Repr

def Visibility.text : Visibility → String
  | .inherited => ""
  | .everywhere => "pub "
  | .within place => "pub(" ++ place ++ ") "

def placeWords : List String := ["crate", "self", "super"]

-- Parentheses that hold anything else belong to what follows.
def visibility : Read Visibility := do
  if !(← tryWord "pub") then return .inherited
  match ← ahead with
  | .group .round [.word false place] :: rest =>
    if placeWords.contains place then
      advance rest
      return .within place
    else if place == "in" then return .within (← inGroup .round (takeWord "in" *> plainPath))
    else return .everywhere
  | .group .round content :: _ =>
    if Stream.startsWord "in" content then
      let place ← inGroup .round (takeWord "in" *> plainPath)
      return .within (if placeWords.contains place then place else "in " ++ place)
    else return .everywhere
  | _ => return .everywhere

end SchemaBindings.Source
