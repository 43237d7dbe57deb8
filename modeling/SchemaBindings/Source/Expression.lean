import SchemaBindings.Source.Pattern

namespace SchemaBindings.Source

def values (grammar : Grammar) : Read (Row Phrase) := separated (grammar (.expression true))

def callLayout (given : Row Phrase) : Layout := elementsLayout (given.items.map (·.layout))

def roundExpression (grammar : Grammar) : Read Phrase := do
  let row ← inGroup .round (values grammar)
  match row.items with
  | [] => return ⟨Layout.text "()", .empty⟩
  | [single] =>
    if row.closed then return { layout := tupleRow [single.layout] }
    else return { layout := inRound single.layout }
  | items => return { layout := elementsLayout (items.map (·.layout)) }

def squareContent (grammar : Grammar) : Read Layout := do
  if ← isDone then return []
  let first ← grammar (.expression true)
  if ← trySign ";" then
    return first.layout ++ Layout.text "; " ++ (← grammar (.expression true)).layout
  if ← trySign "," then
    let others ← values grammar
    return Layout.back (Layout.soft ++
      Layout.commaRow (first.layout :: others.items.map (·.layout)))
  if ← isDone then return Layout.back (Layout.soft ++ Layout.commaRow [first.layout])
  due "`,` or `;`"

def squareExpression (grammar : Grammar) : Read Phrase := do
  let content ← inGroup .square (squareContent grammar)
  return { layout := Layout.text "[" ++ Layout.box true Layout.indent content ++
    Layout.text "]" }

-- The name of a part of a value: a word or a place.
def member : Read (String × Bool) := do
  match ← ahead with
  | .literal text :: rest =>
    if Stream.startsDigit text && !text.toList.contains '.' then
      if !text.toList.all (fun c => Text.isAsciiDigit c || c == '_') then
        due "unsuffixed integer"
      advance rest
      return (text, false)
    else due "identifier or integer"
  | tokens =>
    if tokens.startsName then return (← takeName, true) else due "identifier or integer"

def recordField (grammar : Grammar) : Read Layout := do
  let attributes ← outerAttributes grammar
  let (name, named) ← member
  if !named || (← seesSign ":") then
    takeSign ":"
    return attributes ++ Layout.text (name ++ ": ") ++ (← grammar (.expression true)).layout
  else return attributes ++ Layout.text name

-- The fields of a record, and what the other ones are taken from.
def recordFieldsAtMost (grammar : Grammar) : Nat → Read (List Layout × Option Layout)
  | 0 => refuse .unreadable
  | fuel + 1 => do
    if ← isDone then return ([], none)
    if ← trySign ".." then
      if ← isDone then return ([], some (Layout.text ".."))
      let rest ← grammar (.expression true)
      return ([], some (Layout.text ".." ++ rest.layout))
    let first ← recordField grammar
    if ← isDone then return ([first], none)
    takeSign ","
    let (others, rest) ← recordFieldsAtMost grammar fuel
    return (first :: others, rest)

def pathExpression (grammar : Grammar) (record : Bool) : Read Phrase := do
  let (named, qualified) ← valuePath grammar
  let tokens ← ahead
  if !qualified && tokens.startsSign "!" && !tokens.startsSign "!=" && named.bare then
    takeSign "!"
    let invocation ← takeInvoked "!"
    return ⟨named.layout ++ invocation.layout, .invocation invocation.isCurly⟩
  if record && tokens.startsGroup .curly then
    let (fields, rest) ← inGroup .curly (recordFieldsAtMost grammar (← get).bound)
    return { layout := fieldsLayout named.layout fields rest }
  return { layout := named.layout }

def closureInput (grammar : Grammar) : Read Layout := do
  let attributes ← outerAttributes grammar
  let pattern ← grammar .pattern
  let type ←
    if ← trySign ":" then pure (Layout.text ": " ++ (← grammar (.type true)).layout) else pure []
  return attributes ++ pattern.layout ++ type

def closure (grammar : Grammar) (record : Bool) : Read Phrase := do
  let lifetimes ← tryBinder grammar
  let words ← takeWords ["const", "static", "async", "move"]
  takeSign "|"
  let inputs ← rowUntil (·.startsSign "|") "," (closureInput grammar)
  takeSign "|"
  let output ← returned grammar true
  let body ← if output.isEmpty then grammar (.expression record) else grammar .block
  return { layout := lifetimes.getD [] ++
    Layout.text (String.join (words.map (· ++ " ")) ++ "|") ++
    Layout.join (Layout.text ", ") inputs.items ++ Layout.text "|" ++ output ++
    Layout.text " " ++ body.layout }

-- Whether the tokens can begin an expression, for a word that may have a value behind it.
def startsExpression (tokens : Stream) : Bool :=
  (tokens.startsAnyWord && !tokens.startsWord "as") || tokens.startsGroup .round ||
    tokens.startsGroup .square || tokens.startsGroup .curly || tokens.startsLiteral ||
    (tokens.startsSign "!" && !tokens.startsSign "!=") ||
    (tokens.startsSign "-" && !tokens.startsSign "-=" && !tokens.startsSign "->") ||
    (tokens.startsSign "*" && !tokens.startsSign "*=") ||
    (tokens.startsSign "|" && !tokens.startsSign "|=") ||
    (tokens.startsSign "&" && !tokens.startsSign "&=") || tokens.startsSign ".." ||
    (tokens.startsSign "<" && !tokens.startsSign "<=" && !tokens.startsSign "<<=") ||
    tokens.startsSign "::" || tokens.startsLifetime || tokens.startsAttribute

-- A word that leaves a loop or a function, with a label and a value.
def jump (grammar : Grammar) (record : Bool) : Read Phrase := do
  let leavesLoop ← seesWord "break"
  let labels ← sees (·.startsOneOf ["break", "continue"])
  let word ← takeAnyWord
  let tokens ← ahead
  if leavesLoop && tokens.startsLifetime && tokens.skip.startsSign ":" then
    let _ ← grammar (.expression true)
    refuse .labelledValue
  let label ← if labels then tryLifetime else pure none
  let front := Layout.text (word ++ ((label.map (" " ++ ·)).getD ""))
  let tokens ← ahead
  if word == "continue" || !startsExpression tokens then return ⟨front, .jump⟩
  if leavesLoop && !record && tokens.startsGroup .curly then return ⟨front, .jump⟩
  let value ← grammar (.expression true)
  return ⟨front ++ Layout.text " " ++ value.layout, .jump⟩

def startsClosure (tokens : Stream) : Bool :=
  tokens.startsSign "|" || tokens.startsOneOf ["move", "static"] || startsBinder tokens ||
    (tokens.startsWord "const" && !tokens.skip.startsGroup .curly) ||
    (tokens.startsWord "async" &&
      (tokens.skip.startsSign "|" || tokens.skip.startsWord "move"))

def startsAsyncBlock (tokens : Stream) : Bool :=
  tokens.startsWord "async" && (tokens.skip.startsGroup .curly ||
    (tokens.skip.startsWord "move" && tokens.skip.skip.startsGroup .curly))

def startsTriedPath (tokens : Stream) : Bool :=
  tokens.startsWord "try" && (tokens.skip.startsSign "!" || tokens.skip.startsSign "::")

-- An expression without operators around it.
def atom (grammar : Grammar) (record : Bool) : Read Phrase := do
  let tokens ← ahead
  if let some text ← tryLiteral then return { layout := Layout.text text }
  else if startsAsyncBlock tokens then wordedBlock grammar ["async", "move"]
  else if startsClosure tokens then closure grammar record
  else if startsPath tokens || startsTriedPath tokens then pathExpression grammar record
  else if tokens.startsGroup .round then roundExpression grammar
  else if tokens.startsOneOf ["break", "continue", "return"] then jump grammar record
  else if tokens.startsGroup .square then squareExpression grammar
  else if tokens.startsWord "let" then letExpression grammar record
  else if startsControl tokens then control grammar
  else if tokens.startsSign ".." then rangeExpression grammar record
  else if tokens.startsWord "_" then return { layout := Layout.text (← takeAnyWord) }
  else due "an expression"

-- A place within a place, such as `0.1`, is one literal.
def placesOf (text : String) : Option (List String × Bool) :=
  if Stream.startsDigit text && text.toList.contains '.' then
    let parts := text.splitOn "."
    if parts.getLast? = some "" then some (parts.dropLast, true) else some (parts, false)
  else none

-- What is behind a point: parts of a value and calls of its methods.
def pointed (grammar : Grammar) (value : Layout) : Read Layout := do
  let (places, ends) ← match ← ahead with
    | .literal text :: rest =>
      match placesOf text with
      | some (parts, more) =>
        advance rest
        pure (String.join (parts.map ("." ++ ·)), !more)
      | none => pure ("", false)
    | _ => pure ("", false)
  let value := value ++ Layout.text places
  if ends then return value
  if ← tryWord "await" then return value ++ Layout.text ".await"
  let (name, named) ← member
  let chosen ←
    if named && (← seesSign "::") then
      takeSign "::"
      pure (some (← arguments grammar))
    else pure none
  let front := value ++ Layout.text ("." ++ name)
  if chosen.isSome || (named && (← seesGroup .round)) then
    let given ← inGroup .round (values grammar)
    let angles := match chosen with
      | some (argument :: others) => Layout.text "::" ++ angled (argument :: others)
      | _ => []
    return front ++ angles ++ callLayout given
  else return front

def trailersAtMost (grammar : Grammar) : Nat → Phrase → Read Phrase
  | 0, _ => refuse .unreadable
  | fuel + 1, value => do
    let tokens ← ahead
    if tokens.startsGroup .round then
      let given ← inGroup .round (values grammar)
      trailersAtMost grammar fuel { layout := value.layout ++ callLayout given }
    else if tokens.startsSign "." && !tokens.startsSign ".." && !isRange value then
      takeSign "."
      let layout ← pointed grammar value.layout
      trailersAtMost grammar fuel { layout }
    else if tokens.startsGroup .square then
      let place ← inGroup .square (grammar (.expression true))
      trailersAtMost grammar fuel
        { layout := value.layout ++ Layout.text "[" ++ place.layout ++ Layout.text "]" }
    else if tokens.startsSign "?" && !isRange value then
      takeSign "?"
      trailersAtMost grammar fuel { layout := value.layout ++ Layout.text "?" }
    else return value

-- Calls, parts and places behind a value.
def trailers (grammar : Grammar) (value : Phrase) : Read Phrase := do
  trailersAtMost grammar (← get).bound value

-- A reference keeps the words between its sign and what it refers to.
def referenceWords (tokens : Stream) : List String :=
  if tokens.startsWord "raw" && tokens.skip.startsOneOf ["mut", "const"] then
    ["raw", "mut", "const"]
  else ["mut"]

def operand (grammar : Grammar) (record : Bool) : Read Phrase := do
  let attributes ← outerAttributes grammar
  let tokens ← ahead
  if tokens.startsSign "&" then
    takeSign "&"
    let words ← takeWords (referenceWords (← ahead))
    let inner ← grammar (.operand record)
    return { layout := attributes ++
      Layout.text ("&" ++ String.join (words.map (· ++ " "))) ++ inner.layout }
  else if let some sign := ["*", "!", "-"].find? (tokens.startsSign ·) then
    takeSign sign
    let inner ← grammar (.operand record)
    return { layout := attributes ++ Layout.text sign ++ inner.layout }
  else
    let value ← trailers grammar (← atom grammar record)
    if attributes.isEmpty then return value
    if isRange value then refuse .attributeOnRange
    return { value with layout := attributes ++ value.layout }

def expressionPhrase (grammar : Grammar) (record : Bool) : Read Phrase := do
  let first ← operand grammar record
  operatorsFrom grammar record 0 first

-- An expression that closes a brace ends there, unless a point or a question mark follows.
def linePhrase (grammar : Grammar) : Read Phrase := do
  let attributes ← outerAttributes grammar
  if startsControl (← ahead) then
    let value ← control grammar
    let tokens ← ahead
    if (tokens.startsSign "." && !tokens.startsSign "..") || tokens.startsSign "?" then
      let longer ← trailers grammar value
      let whole ← operatorsFrom grammar true 0 longer
      return { whole with layout := attributes ++ whole.layout }
    else return { value with layout := attributes ++ value.layout }
  else
    let value ← expressionPhrase grammar true
    return { value with layout := attributes ++ value.layout }

-- `value` is set for an expression that no semicolon follows: as a line, and as an arm. `unended`
-- if another line may follow only behind a semicolon.
structure Line where
  layout : Layout
  value : Option (Layout × Layout)
  unended : Bool

def bareLine (layout : Layout) : Line := ⟨layout, none, false⟩

def bindingLine (grammar : Grammar) : Read Layout := do
  takeWord "let"
  let pattern ← grammar .pattern
  let type ←
    if ← trySign ":" then pure (Layout.text ": " ++ (← grammar (.type true)).layout) else pure []
  let value ←
    if ← trySign "=" then
      let given ← grammar (.expression true)
      let otherwise ←
        if ← tryWord "else" then
          pure (Layout.text " else " ++ (← grammar .block).layout)
        else pure []
      pure (Layout.text " = " ++ Layout.measure ++ given.layout ++ otherwise)
    else pure []
  takeSign ";"
  return Layout.box false Layout.indent
    (Layout.text "let " ++ pattern.layout ++ type ++ value ++ Layout.text ";") ++ Layout.hard

-- Whether a binding, a type or another item begins here rather than an expression.
def startsItemLine (tokens : Stream) : Bool :=
  let next := tokens.skip
  let third := next.skip
  tokens.startsOneOf ["pub", "extern", "use", "fn", "mod", "type", "struct", "enum", "trait",
    "impl", "macro"] ||
    (tokens.startsWord "crate" && !next.startsSign "::") ||
    (tokens.startsWord "static" && (next.startsWord "mut" || next.startsName)) ||
    (tokens.startsWord "const" && !(next.startsGroup .curly || next.startsWord "static" ||
      (next.startsWord "async" && !third.startsOneOf ["unsafe", "extern", "fn"]) ||
      next.startsWord "move" || next.startsSign "|")) ||
    (tokens.startsWord "unsafe" && !next.startsGroup .curly) ||
    (tokens.startsWord "async" && next.startsOneOf ["unsafe", "extern", "fn"]) ||
    (tokens.startsWord "union" && next.startsName) ||
    (tokens.startsWord "auto" && next.startsWord "trait") ||
    (tokens.startsWord "default" && next.startsOneOf ["unsafe", "impl"])

inductive InvocationLine where
  | item
  | whole
  | none

-- Whether an invocation stands alone on the line, without a look at the attributes before it.
def invocationLine : Read InvocationLine := fun reading =>
  let found : InvocationLine :=
    match plainPath reading with
    | .ok (_, after) =>
      let next := after.tokens.skip
      let third := next.skip
      if !after.tokens.startsSign "!" then .none
      else if next.startsName || next.startsWord "try" then .item
      else if next.startsGroup .curly &&
          !((third.startsSign "." && !third.startsSign "..") || third.startsSign "?") then
        .whole
      else .none
    | .error _ => .none
  .ok (found, reading)

def invocationStatement : Read Layout := do
  let path ← plainPath
  takeSign "!"
  let invocation ← takeInvoked (path ++ "!")
  let _ ← trySign ";"
  return invocation.layout ++ Layout.hard

def losesSemicolon (value : Phrase) : Bool :=
  match value.form with
  | .loop => true
  | .branch complete => !complete
  | _ => false

def expressionLine (grammar : Grammar) (attributes : Layout) : Read Line := do
  let value ← grammar .line
  let ended ← trySign ";"
  let shown (semicolon : Bool) : Layout :=
    Layout.box false 0
      (attributes ++ value.layout ++ if semicolon then Layout.text ";" else []) ++ Layout.hard
  match value.form with
  | .invocation curly =>
    if ended || curly then return bareLine (shown (ended && !curly))
    else return ⟨shown false, some (value.layout, armBody value), true⟩
  | _ =>
    if ended then return bareLine (shown (!losesSemicolon value))
    else if attributes.isEmpty then
      return ⟨shown (takesSemicolon value), some (value.layout, armBody value), needsEnd value⟩
    else return ⟨shown (takesSemicolon value), none, needsEnd value⟩

def line (grammar : Grammar) : Read Line := do
  let start ← get
  let attributes ← outerAttributes grammar
  let tokens ← ahead
  match ← invocationLine with
  | .whole => return bareLine (attributes ++ (← invocationStatement))
  | .item =>
    set start
    return bareLine (← grammar .item).layout
  | .none =>
    if tokens.startsWord "let" then return bareLine (attributes ++ (← bindingLine grammar))
    else if startsItemLine tokens then
      set start
      return bareLine (← grammar .item).layout
    else expressionLine grammar attributes

-- Semicolons alone count as lines that show as nothing.
def linesAtMost (grammar : Grammar) : Nat → Read (List Line)
  | 0 => refuse .unreadable
  | fuel + 1 => do
    if ← trySign ";" then return bareLine [] :: (← linesAtMost grammar fuel)
    if ← isDone then return []
    let first ← line grammar
    if ← isDone then return [first]
    if first.unended then refuse (.surplus (some ';'))
    return first :: (← linesAtMost grammar fuel)

def linesPhrase (grammar : Grammar) : Read Phrase := do
  let attributes ← innerAttributes grammar
  let lines ← linesAtMost grammar (← get).bound
  let layout := attributes ++ lines.flatMap (·.layout)
  match lines with
  | [single] =>
    return ⟨layout, .lines true (if attributes.isEmpty then single.value else none)⟩
  | _ => return ⟨layout, .lines (!(lines.isEmpty && attributes.isEmpty)) none⟩

end SchemaBindings.Source
