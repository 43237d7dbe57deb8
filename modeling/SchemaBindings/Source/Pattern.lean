import SchemaBindings.Source.Types

namespace SchemaBindings.Source

-- A path that stands for a value.
def valuePath (grammar : Grammar) : Read (Path × Bool) := do
  if ← seesSign "<" then return (← qualifiedPath grammar true, true)
  return (← path grammar true, false)

-- Two points, perhaps with a sign that takes the end in. Three points mean the same in a pattern.
def rangeSign (three : Bool) : Read String := do
  if ← trySign "..=" then return "..="
  if ← seesSign "..." then
    if three then
      takeSign "..."
      return "..="
    due "`..=`"
  if ← trySign ".." then return ".."
  dueOneOf ["`..`", "`..=`"]

def endsPatternRange (tokens : Stream) : Bool :=
  tokens.isEmpty || tokens.startsSign "|" || tokens.startsSign "=" ||
    (tokens.startsSign ":" && !tokens.startsSign "::") || tokens.startsSign "," ||
    tokens.startsSign ";" || tokens.startsWord "if"

def constantBlock (grammar : Grammar) : Read Layout := do
  takeWord "const"
  return Layout.text "const " ++ (← grammar .block).layout

def patternLimit (grammar : Grammar) : Read (Option Layout) := do
  let tokens ← ahead
  if endsPatternRange tokens then return none
  if let some text ← tryLiteral then return some (Layout.text text)
  if startsPath tokens then return some (← valuePath grammar).1.layout
  if tokens.startsWord "const" then return some (← constantBlock grammar)
  dueOneOf ["literal", "identifier", "`::`", "`<`", "`self`", "`Self`", "`super`", "`crate`",
    "`const`"]

-- Behind the lower limit, if there is one.
def patternRange (grammar : Grammar) (lower : Option Layout) : Read Phrase := do
  let sign ← rangeSign lower.isSome
  let upper ← patternLimit grammar
  if upper.isNone && sign == "..=" then due "range upper bound"
  let form : Form :=
    if lower.isNone && upper.isNone then .rest
    else if lower.isNone || upper.isNone then .openRange
    else .plain
  return ⟨lower.getD [] ++ Layout.text sign ++ upper.getD [], form⟩

def startsOtherChoice (tokens : Stream) : Bool :=
  tokens.startsSign "|" && !tokens.startsSign "||" && !tokens.startsSign "|="

def choicesAtMost (grammar : Grammar) : Nat → Read (List Phrase)
  | 0 => refuse .unreadable
  | fuel + 1 => do
    let first ← grammar .pattern
    if startsOtherChoice (← ahead) then
      takeSign "|"
      return first :: (← choicesAtMost grammar fuel)
    return [first]

-- Patterns with bars between them, and perhaps one in front.
def choice (grammar : Grammar) : Read Phrase := do
  let led ← trySign "|"
  match ← choicesAtMost grammar (← get).bound with
  | [single] => return if led then { layout := single.layout } else single
  | choices =>
    let row := Layout.join (Layout.space ++ Layout.text "| ") (choices.map (·.layout))
    return { layout := Layout.box true 0 row }

def fieldPattern (grammar : Grammar) : Read Layout := do
  let marks ← takeWords ["box", "ref", "mut"]
  let front := String.join (marks.map (· ++ " "))
  match ← ahead with
  | .literal text :: rest =>
    if marks.isEmpty && Stream.startsDigit text then
      advance rest
      takeSign ":"
      return Layout.text (text ++ ": ") ++ (← choice grammar).layout
    else if marks.isEmpty then due "identifier or integer"
    else due "identifier"
  | tokens =>
    if marks.isEmpty && !tokens.startsName then due "identifier or integer"
    let name ← takeName
    if ← trySignIf marks.isEmpty ":" then
      return Layout.text (name ++ ": ") ++ (← choice grammar).layout
    else return Layout.text (front ++ name)

def fieldPatternsAtMost (grammar : Grammar) : Nat → Read (List Layout × Bool)
  | 0 => refuse .unreadable
  | fuel + 1 => do
    if ← isDone then return ([], false)
    let attributes ← outerAttributes grammar
    if ← trySign ".." then return ([], true)
    let first := attributes ++ (← fieldPattern grammar)
    if ← isDone then return ([first], false)
    takeSign ","
    let (others, open?) ← fieldPatternsAtMost grammar fuel
    return (first :: others, open?)

def fieldsLayout (front : Layout) (fields : List Layout) (rest : Option Layout) : Layout :=
  let row := match rest with
    | none => Layout.spacedRow fields
    | some rest =>
      fields.flatMap (· ++ Layout.text "," ++ Layout.space) ++ rest ++ Layout.space
  Layout.box true Layout.indent
    (front ++ Layout.text " \x7b" ++
      if row.isEmpty then Layout.measure else Layout.back (Layout.space ++ row)) ++
  Layout.text "\x7d"

def elementsLayout (elements : List Layout) : Layout :=
  inRound (Layout.box true Layout.indent
    (Layout.back (Layout.soft ++ Layout.commaRow elements)))

-- A path, alone or with what is taken out of it.
def pathPattern (grammar : Grammar) : Read Phrase := do
  let (named, qualified) ← valuePath grammar
  let tokens ← ahead
  if !qualified && tokens.startsSign "!" && !tokens.startsSign "!=" && named.bare then
    takeSign "!"
    let invocation ← takeInvoked "!"
    return { layout := named.layout ++ invocation.layout }
  if tokens.startsGroup .curly then
    let (fields, more) ← inGroup .curly (fieldPatternsAtMost grammar (← get).bound)
    let rest := if more then some (Layout.text "..") else none
    return { layout := fieldsLayout named.layout fields rest }
  if tokens.startsGroup .round then
    let elements ← inGroup .round (separated (choice grammar))
    return { layout := named.layout ++ elementsLayout (elements.items.map (·.layout)) }
  if tokens.startsSign ".." then return ← patternRange grammar (some named.layout)
  return { layout := named.layout }

def namePattern (grammar : Grammar) : Read Phrase := do
  let marks ← takeWords ["ref", "mut"]
  let name ← if ← seesWord "self" then takeAnyWord else takeName
  let front := Layout.text (String.join (marks.map (· ++ " ")) ++ name)
  if ← trySign "@" then
    return { layout := front ++ Layout.text " @ " ++ (← grammar .pattern).layout }
  return { layout := front }

-- A single pattern in parentheses stays one, unless it leaves parts out.
def roundPattern (grammar : Grammar) : Read Phrase := do
  let elements ← inGroup .round (separated (choice grammar))
  match elements.items with
  | [single] =>
    let lone := match single.form with
      | .rest => true
      | _ => false
    if !elements.closed && !lone then return { layout := inRound single.layout }
    let comma := if elements.closed then Layout.text "," else []
    let row := Layout.back (Layout.soft ++ single.layout ++ comma ++ Layout.soft)
    return { layout := inRound (Layout.box true Layout.indent row) }
  | items => return { layout := elementsLayout (items.map (·.layout)) }

def elementPattern (grammar : Grammar) : Read Layout := do
  let element ← choice grammar
  match element.form with
  | .openRange => refuse .openRangeInSlice
  | _ => return element.layout

def startsPathPattern (tokens : Stream) : Bool :=
  let behind := tokens.skip
  (tokens.startsName && (behind.startsSign "::" || behind.startsSign "!" ||
    behind.startsGroup .curly || behind.startsGroup .round || behind.startsSign "..")) ||
  (tokens.startsWord "self" && behind.startsSign "::") ||
  tokens.startsSign "::" || tokens.startsSign "<" ||
  tokens.startsOneOf ["Self", "super", "crate"]

def patternStarts : List String :=
  ["identifier", "`::`", "`<`", "`_`", "literal", "`const`", "`ref`", "`mut`", "`&`",
    "parentheses", "square brackets", "`..`", "`const`"]

def patternPhrase (grammar : Grammar) : Read Phrase := do
  let tokens ← ahead
  if startsPathPattern tokens then pathPattern grammar
  else if tokens.startsWord "_" then return { layout := Layout.text (← takeAnyWord) }
  else if tokens.startsSign "-" || tokens.startsLiteral || tokens.startsWord "const" then
    let lower ← patternLimit grammar
    if ← seesSign ".." then patternRange grammar lower
    else return { layout := lower.getD [] }
  else if tokens.startsOneOf ["ref", "mut", "self"] || tokens.startsName then
    namePattern grammar
  else if tokens.startsSign "&" then
    takeSign "&"
    let changeable := if ← tryWord "mut" then "mut " else ""
    return { layout := Layout.text ("&" ++ changeable) ++ (← grammar .pattern).layout }
  else if tokens.startsGroup .round then roundPattern grammar
  else if tokens.startsGroup .square then
    let elements ← inGroup .square (separated (elementPattern grammar))
    return { layout := Layout.text "[" ++
      Layout.join (Layout.text ", ") elements.items ++ Layout.text "]" }
  else if tokens.startsSign ".." && !tokens.startsSign "..." then patternRange grammar none
  else if tokens.startsSign ".." then dueOneOf (patternStarts.erase "`..`")
  else dueOneOf patternStarts

-- Whether a statement or an arm made of the expression has to be told apart from the next one.
def needsEnd (phrase : Phrase) : Bool :=
  match phrase.form with
  | .block _ | .blocklike | .loop | .branch _ => false
  | _ => true

def takesSemicolon (phrase : Phrase) : Bool :=
  match phrase.form with
  | .jump => true
  | _ => false

-- A block on one line, if it fits.
def smallBlock (content : Phrase) : Layout :=
  match content.form with
  | .lines true (some (value, _)) =>
    Layout.text "\x7b" ++
      Layout.back (Layout.space ++ Layout.box false 0 value ++ Layout.space) ++
      Layout.text "\x7d"
  | .lines true none =>
    Layout.text "\x7b" ++ Layout.back (Layout.space ++ content.layout) ++ Layout.text "\x7d"
  | _ => Layout.text "\x7b\x7d"

def tallBlock (lines : Layout) : Layout :=
  Layout.text "\x7b" ++ Layout.measure ++ Layout.box true Layout.indent (Layout.block lines) ++
    Layout.text "\x7d"

def blockContent (grammar : Grammar) : Read Phrase := inGroup .curly (grammar .lines)

def blockPhrase (grammar : Grammar) : Read Phrase := do
  let content ← blockContent grammar
  let arm := match content.form with
    | .lines _ (some (_, arm)) => arm
    | _ => tallBlock content.layout
  return ⟨Layout.box true Layout.indent (smallBlock content), .block arm⟩

-- What follows the arrow of an arm. A value that does not fit goes on a line of its own, in braces.
def armBody (value : Phrase) : Layout :=
  match value.form with
  | .block arm => arm
  | .empty => tallBlock []
  | _ =>
    let closing : Break := {
      offset := -Layout.indent
      beforeEnd := if takesSemicolon value then some ';' else none
      afterEnd := some '\x7d'
      unbroken := if needsEnd value then some ',' else none }
    Layout.measure ++ Layout.box true Layout.indent
      ([.brk { beforeEnd := some '\x7b' }] ++ value.layout ++ [.brk closing])

def arm (grammar : Grammar) : Read Layout := do
  let attributes ← outerAttributes grammar
  let pattern ← choice grammar
  let guard ←
    if ← tryWord "if" then
      pure (Layout.text " if " ++ (← grammar (.expression true)).layout)
    else pure []
  takeSign "=>"
  let value ← grammar .line
  if needsEnd value && !(← isDone) then takeSign ","
  else
    let _ ← trySign ","
  return attributes ++ Layout.box false 0
    (pattern.layout ++ guard ++ Layout.text " => " ++ armBody value) ++ Layout.hard

-- What is tested or gone through, before the brace that opens a body.
def subject (grammar : Grammar) : Read Layout := do
  return Layout.box true 0 ((← grammar (.expression false)).layout ++ Layout.text " ")

def matchPhrase (grammar : Grammar) : Read Phrase := do
  takeWord "match"
  let tested ← subject grammar
  let arms ← inGroup .curly do
    let attributes ← innerAttributes grammar
    return attributes ++ (← repeated (arm grammar)).flatten
  return ⟨Layout.box false 0 (Layout.text "match " ++ tested ++ tallBlock arms), .blocklike⟩

-- The flag says that the last branch has no condition.
def branchesAtMost (grammar : Grammar) : Nat → Read (Layout × Bool)
  | 0 => refuse .unreadable
  | fuel + 1 => do
    takeWord "if"
    let condition ← subject grammar
    let content ← blockContent grammar
    let front := Layout.text "if " ++ Layout.box true (-Layout.indent) condition
    if !(← tryWord "else") then
      let lines := content.layout
      let body := if lines.isEmpty then [] else Layout.block lines
      return (front ++ Layout.text "\x7b" ++ body ++ Layout.text "\x7d", false)
    let first := front ++ smallBlock content ++ Layout.text " else "
    if ← seesWord "if" then
      let (others, complete) ← branchesAtMost grammar fuel
      return (first ++ others, complete)
    else if ← seesGroup .curly then return (first ++ smallBlock (← blockContent grammar), true)
    else dueOneOf ["`if`", "curly braces"]

def branchPhrase (grammar : Grammar) : Read Phrase := do
  let (branches, complete) ← branchesAtMost grammar (← get).bound
  return ⟨Layout.box true Layout.indent branches, .branch complete⟩

-- `label` is written in front of a loop or a block that can be left by name.
def loopPhrase (grammar : Grammar) (label : String) : Read Phrase := do
  if ← tryWord "while" then
    let condition ← subject grammar
    let content ← blockContent grammar
    return ⟨Layout.text (label ++ "while ") ++ condition ++ tallBlock content.layout, .loop⟩
  else if ← tryWord "for" then
    let pattern ← choice grammar
    takeWord "in"
    let source ← subject grammar
    let content ← blockContent grammar
    return ⟨Layout.box false 0 (Layout.text (label ++ "for ") ++ pattern.layout ++
      Layout.text " in " ++ Layout.measure ++ source ++ tallBlock content.layout), .loop⟩
  else
    takeWord "loop"
    let content ← blockContent grammar
    return ⟨Layout.text (label ++ "loop \x7b") ++
      Layout.box true Layout.indent (Layout.block content.layout) ++ Layout.text "\x7d",
      .blocklike⟩

def labelled (grammar : Grammar) : Read Phrase := do
  let label ← takeLifetime
  takeSign ":"
  if ← sees (·.startsOneOf ["while", "for", "loop"]) then loopPhrase grammar (label ++ ": ")
  else if ← seesGroup .curly then
    let content ← blockContent grammar
    return ⟨Layout.text (label ++ ": ") ++ Layout.box true Layout.indent (smallBlock content),
      .blocklike⟩
  else due "loop or block expression"

-- A block with words in front, each of which may be missing.
def wordedBlock (grammar : Grammar) (words : List String) : Read Phrase := do
  let taken ← takeWords words
  let content ← blockContent grammar
  return ⟨Layout.text (String.join (taken.map (· ++ " "))) ++
    Layout.box true Layout.indent (smallBlock content), .blocklike⟩

def startsBinder (tokens : Stream) : Bool :=
  tokens.startsWord "for" && tokens.skip.startsSign "<" &&
    (tokens.skip.skip.startsLifetime || tokens.skip.skip.startsSign ">")

-- Expressions that end where their brace closes.
def startsControl (tokens : Stream) : Bool :=
  tokens.startsOneOf ["if", "while", "loop", "match", "unsafe"] ||
    (tokens.startsWord "for" && !startsBinder tokens) ||
    (tokens.startsOneOf ["try", "const"] && tokens.skip.startsGroup .curly) ||
    tokens.startsGroup .curly || tokens.startsLifetime

def control (grammar : Grammar) : Read Phrase := do
  let tokens ← ahead
  if tokens.startsWord "if" then branchPhrase grammar
  else if tokens.startsWord "match" then matchPhrase grammar
  else if tokens.startsOneOf ["while", "for", "loop"] then loopPhrase grammar ""
  else if let some word := ["unsafe", "try", "const"].find? (tokens.startsWord ·) then
    wordedBlock grammar [word]
  else if tokens.startsLifetime then labelled grammar
  else blockPhrase grammar

def isRange (phrase : Phrase) : Bool :=
  match phrase.form with
  | .range => true
  | _ => false

-- How strongly the operators hold their operands.
abbrev Strength := Nat

namespace Strength

def assignment : Strength := 1
def range : Strength := 2
def comparison : Strength := 6
def cast : Strength := 13

end Strength

-- A longer operator is looked for before one that it begins with.
def operators : List (String × Strength) :=
  [("+=", 1), ("-=", 1), ("*=", 1), ("/=", 1), ("%=", 1), ("^=", 1), ("&=", 1), ("|=", 1),
    ("<<=", 1), (">>=", 1), ("&&", 4), ("||", 3), ("<<", 10), (">>", 10), ("==", 6), ("<=", 6),
    ("!=", 6), (">=", 6), ("+", 11), ("-", 11), ("*", 12), ("/", 12), ("%", 12), ("^", 9),
    ("&", 8), ("|", 7), ("<", 6), (">", 6)]

def nextOperator? (tokens : Stream) : Option (String × Strength) :=
  operators.find? fun (sign, _) => tokens.startsSign sign

def startsAssignment (tokens : Stream) : Bool :=
  tokens.startsSign "=" && !tokens.startsSign "=>"

def nextStrength (tokens : Stream) : Strength :=
  match nextOperator? tokens with
  | some (_, strength) => strength
  | none =>
    if startsAssignment tokens then Strength.assignment
    else if tokens.startsSign ".." then Strength.range
    else if tokens.startsWord "as" then Strength.cast
    else 0

def endsRange (record : Bool) (tokens : Stream) : Bool :=
  tokens.isEmpty || [",", ";", "?", "=>", "=", "+", "/", "%", "^", ">", "<=", "!=", "-=", "*=",
    "&=", "|=", "<<="].any (tokens.startsSign ·) ||
    (tokens.startsSign "." && !tokens.startsSign "..") ||
    (!record && tokens.startsGroup .curly) || tokens.startsWord "as"

-- What may not stand behind the type of a cast.
def checkCast : Read Unit := do
  let tokens ← ahead
  let behind := tokens.skip
  if tokens.startsSign "." && !tokens.startsSign ".." then
    if behind.startsWord "await" then refuse (.behindCast "`.await`")
    else if behind.startsName &&
        (behind.skip.startsGroup .round || behind.skip.startsSign "::") then
      refuse (.behindCast "a method call")
    else refuse (.behindCast "a field access")
  else if tokens.startsSign "?" then refuse (.behindCast "`?`")
  else if tokens.startsGroup .square then refuse (.behindCast "indexing")
  else if tokens.startsGroup .round then refuse (.behindCast "a function call")

def operationLayout (left : Layout) (sign : String) (right : Layout) : Layout :=
  Layout.box false Layout.indent
    (Layout.box false (-Layout.indent) left ++ Layout.space ++ Layout.text (sign ++ " ") ++
      right)

def operationForm (strength : Strength) : Form :=
  if strength = Strength.comparison then .comparison
  else if strength = Strength.assignment then .jump
  else .plain

def isComparison (phrase : Phrase) : Bool :=
  match phrase.form with
  | .comparison => true
  | _ => false

-- Operators from `base` on, strongest first, behind an operand that has been read.
mutual
def climb (grammar : Grammar) (record : Bool) : Nat → Strength → Phrase → Read Phrase
  | 0, _, _ => refuse .unreadable
  | fuel + 1, base, left => do
    if isRange left then return left
    let tokens ← ahead
    match nextOperator? tokens with
    | some (sign, strength) =>
      if strength < base then return left
      if strength = Strength.comparison && isComparison left then refuse .chainedComparison
      takeSign sign
      let right ← rightSide grammar record fuel strength
      climb grammar record fuel base
        ⟨operationLayout left.layout sign right.layout, operationForm strength⟩
    | none =>
      if base ≤ Strength.assignment && startsAssignment tokens then
        takeSign "="
        let right ← rightSide grammar record fuel Strength.assignment
        let layout := Layout.box false 0
          (left.layout ++ Layout.text " = " ++ Layout.measure ++ right.layout)
        climb grammar record fuel base ⟨layout, .jump⟩
      else if base ≤ Strength.range && tokens.startsSign ".." then
        let sign ← rangeSign false
        let upper ←
          if sign == ".." && endsRange record (← ahead) then pure []
          else pure (← rightSide grammar record fuel Strength.range).layout
        return ⟨left.layout ++ Layout.text sign ++ upper, .range⟩
      else if base ≤ Strength.cast && tokens.startsWord "as" then
        takeWord "as"
        let type ← grammar (.type false)
        checkCast
        climb grammar record fuel base
          { layout := operationLayout left.layout "as" type.layout }
      else return left

def rightSide (grammar : Grammar) (record : Bool) : Nat → Strength → Read Phrase
  | 0, _ => refuse .unreadable
  | fuel + 1, strength => do
    let first ← grammar (.operand record)
    rightSideFrom grammar record fuel strength first

-- Stronger operators belong to the right operand; assignments group from the right.
def rightSideFrom (grammar : Grammar) (record : Bool) :
    Nat → Strength → Phrase → Read Phrase
  | 0, _, _ => refuse .unreadable
  | fuel + 1, strength, right => do
    let next := nextStrength (← ahead)
    if isRange right then return right
    if strength < next ∨ (next = strength ∧ strength = Strength.assignment) then
      let longer ← climb grammar record fuel next right
      rightSideFrom grammar record fuel strength longer
    else return right
end

def operatorsFrom (grammar : Grammar) (record : Bool) (base : Strength) (left : Phrase) :
    Read Phrase := do
  climb grammar record (4 * (← get).bound) base left

-- Two points in front of an upper limit, or alone.
def rangeExpression (grammar : Grammar) (record : Bool) : Read Phrase := do
  let sign ← rangeSign false
  let upper ←
    if sign == ".." && endsRange record (← ahead) then pure []
    else pure (← rightSide grammar record (4 * (← get).bound) Strength.range).layout
  return ⟨Layout.text sign ++ upper, .range⟩

def letExpression (grammar : Grammar) (record : Bool) : Read Phrase := do
  takeWord "let"
  let pattern ← choice grammar
  takeSign "="
  let first ← grammar (.operand record)
  let value ← operatorsFrom grammar record Strength.comparison first
  return { layout := Layout.text "let " ++ pattern.layout ++ Layout.text " = " ++
    Layout.measure ++ value.layout }

end SchemaBindings.Source
