import SchemaBindings.Source.Pattern

namespace SchemaBindings.Source

-- The value whose method is called: by itself or by reference, with a type of its own or without.
def receiver (grammar : Grammar) : Read Layout := do
  let referred ← trySign "&"
  let lifetime ← if referred then tryLifetime else pure none
  let changeable ← tryWord "mut"
  takeWord "self"
  let front := (if referred then "&" else "") ++ (lifetime.map (· ++ " ")).getD "" ++
    (if changeable then "mut " else "") ++ "self"
  if ← trySignIf (!referred) ":" then
    return Layout.text (front ++ ": ") ++ (← grammar (.type true)).layout
  else return Layout.text front

inductive Parameter where
  | receiver (layout : Layout)
  | typed (layout : Layout)
  | others (layout : Layout)

def typedParameter (grammar : Grammar) : Read Parameter := do
  let tokens ← ahead
  if tokens.startsName && tokens.skip.startsSign "<" then
    return .typed (Layout.text "_: " ++ (← grammar (.type true)).layout)
  let pattern ← grammar .pattern
  takeSign ":"
  let front := pattern.layout ++ Layout.text ": "
  if ← trySign "..." then return .others (front ++ Layout.text "...")
  return .typed (front ++ (← grammar (.type true)).layout)

def functionParameter (grammar : Grammar) : Read Parameter := do
  let attributes ← outerAttributes grammar
  if ← trySign "..." then return .others (attributes ++ Layout.text "...")
  if let some layout ← attempt (receiver grammar) then return .receiver (attributes ++ layout)
  match ← typedParameter grammar with
  | .receiver layout => return .receiver (attributes ++ layout)
  | .typed layout => return .typed (attributes ++ layout)
  | .others layout => return .others (attributes ++ layout)

-- `received` if a receiver was read, `count` is how many parameters were. Only the last parameter
-- may stand for any number of others.
def parametersAtMost (grammar : Grammar) (received : Bool) (count : Nat) :
    Nat → Read (List Layout × Option Layout)
  | 0 => refuse .unreadable
  | fuel + 1 => do
    if ← isDone then return ([], none)
    let goOn (received : Bool) (layout : Layout) : Read (List Layout × Option Layout) := do
      if ← isDone then return ([layout], none)
      takeSign ","
      let (rest, others) ← parametersAtMost grammar received (count + 1) fuel
      return (layout :: rest, others)
    match ← functionParameter grammar with
    | .others layout =>
      if !(← isDone) then takeSign ","
      return ([], some layout)
    | .receiver layout =>
      if received then refuse .secondReceiver
      if count ≠ 0 then refuse .lateReceiver
      goOn true layout
    | .typed layout => goOn received layout

def parametersLayout (parameters : List Layout) (others : Option Layout) : Layout :=
  let row := match others with
    | none => Layout.commaRow parameters
    | some last =>
      parameters.flatMap (· ++ Layout.text "," ++ Layout.space) ++ last ++ Layout.soft
  Layout.text "(" ++ Layout.measure ++
    Layout.box true 0 (Layout.back (Layout.soft ++ row)) ++ Layout.text ")"

-- Whether a function begins here, after the words that may stand before its own.
def startsSignature (tokens : Stream) : Bool :=
  let past (name : String) (tokens : Stream) : Stream :=
    if tokens.startsWord name then tokens.drop 1 else tokens
  let tokens := past "unsafe" (past "async" (past "const" tokens))
  if tokens.startsWord "extern" then
    match tokens.drop 1 with
    | .literal text :: rest => text.startsWith "\"" && Stream.startsWord "fn" rest
    | rest => Stream.startsWord "fn" rest
  else tokens.startsWord "fn"

structure Signature where
  layout : Layout
  restrictions : List Layout

def signature (grammar : Grammar) : Read Signature := do
  let words ← takeWords ["const", "async", "unsafe"]
  let foreign ← convention
  takeWord "fn"
  let name ← takeName
  let parameters ← generics grammar
  let (inputs, others) ←
    inGroup .round (parametersAtMost grammar false 0 (← get).bound)
  let output ← returned grammar true
  let restricted ← restrictions grammar
  let front := String.join (words.map (· ++ " ")) ++ foreign ++ "fn " ++ name
  return {
    layout := Layout.text front ++ parameters ++ parametersLayout inputs others ++
      Layout.box true (-Layout.indent) output
    restrictions := restricted }

-- A line of its own with a body between braces below it.
def opened (head : Layout) (lines : Layout) : Layout :=
  Layout.box true Layout.indent (head ++ Layout.text "\x7b" ++ Layout.block lines) ++
    Layout.text "\x7d" ++ Layout.hard

def bodyless (front : Layout) (signature : Signature) : Layout :=
  Layout.box true Layout.indent
    (front ++ signature.layout ++ beforeSemicolon signature.restrictions) ++ Layout.hard

def functionWithBody (grammar : Grammar) (front : Layout) (signature : Signature) :
    Read Layout := do
  let lines ← inGroup .curly (grammar .lines)
  return opened (front ++ signature.layout ++ beforeBody signature.restrictions) lines.layout

-- A function, which a semicolon may leave without a body.
def function (grammar : Grammar) (front : String) : Read Layout := do
  let head ← signature grammar
  if ← trySign ";" then return bodyless (Layout.text front) head
  else functionWithBody grammar (Layout.text front) head

def constantName : Read String := do
  if ← sees fun tokens => tokens.startsName || tokens.startsWord "_" then takeAnyWord
  else dueOneOf ["identifier", "`_`"]

-- Behind its word: the name, the type and the value, with what stands in front.
def constantMember (grammar : Grammar) (front : String) : Read Layout := do
  let name ← constantName
  let parameters ← generics grammar
  takeSign ":"
  let type ← grammar (.type true)
  let value ←
    if ← trySign "=" then
      pure (Layout.text " = " ++ Layout.measure ++ (← grammar (.expression true)).layout)
    else pure []
  let _ ← restrictions grammar
  takeSign ";"
  return Layout.box true Layout.indent
    (Layout.text (front ++ "const " ++ name) ++ parameters ++ Layout.text ": " ++
      type.layout ++ value ++ Layout.text ";") ++ Layout.hard

def endsTypeBounds (tokens : Stream) : Bool :=
  tokens.startsWord "where" || tokens.startsSign "=" || tokens.startsSign ";"

def typeBounds (grammar : Grammar) : Read (List Layout) := do
  if !(← trySign ":") then return []
  return (← rowUntil endsTypeBounds "+" (bound grammar)).items

def typeMember (grammar : Grammar) (front : String) : Read Layout := do
  takeWord "type"
  let name ← takeName
  let parameters ← generics grammar
  let bounds ← typeBounds grammar
  let definition ←
    if ← trySign "=" then
      pure (Layout.text " = " ++ Layout.measure ++
        Layout.box false (-Layout.indent) (← grammar (.type true)).layout)
    else pure []
  let restricted ← restrictions grammar
  takeSign ";"
  let bounded := if bounds.isEmpty then [] else
    Layout.text ": " ++ Layout.join (Layout.space ++ Layout.text "+ ") bounds
  return Layout.box true Layout.indent
    (Layout.text (front ++ "type " ++ name) ++ parameters ++ bounded ++ definition ++
      behindDefinition restricted) ++ Layout.hard

-- A function of a trait may be left to those who implement it.
def traitFunction (grammar : Grammar) : Read Layout := do
  let head ← signature grammar
  if ← seesGroup .curly then functionWithBody grammar [] head
  else if ← trySign ";" then return bodyless [] head
  else dueOneOf ["curly braces", "`;`"]

def invocationWords : List String := ["identifier", "`self`", "`super`", "`crate`", "`::`"]

-- What may begin a member, unless words in front of it leave no room for an invocation.
def memberStarts (words : List String) (plain : Bool) : List String :=
  words ++ ["`fn`", "`const`", "`type`"] ++ if plain then invocationWords else []

def traitMember (grammar : Grammar) : Read Layout := do
  let attributes ← outerAttributes grammar
  let seen ← visibility
  let preset ← tryWord "default"
  let plain := decide (seen = .inherited) && !preset
  let tokens ← ahead
  let layout ←
    if startsSignature tokens then traitFunction grammar
    else if tokens.startsWord "const" then
      let next := tokens.skip
      if next.startsName || next.startsWord "_" then
        takeWord "const"
        constantMember grammar ""
      else if next.startsOneOf ["async", "unsafe", "extern", "fn"] then traitFunction grammar
      else
        takeWord "const"
        dueOneOf ["identifier", "`_`", "`async`", "`unsafe`", "`extern`", "`fn`"]
    else if tokens.startsWord "type" then typeMember grammar ""
    else if plain && startsInvocation tokens then takeInvocation false
    else dueOneOf (memberStarts [] plain)
  return attributes ++ layout

def implementedMember (grammar : Grammar) : Read Layout := do
  let attributes ← outerAttributes grammar
  let seen ← visibility
  let tokens ← ahead
  let preset := tokens.startsWord "default" && !tokens.skip.startsSign "!"
  if preset then takeWord "default"
  let plain := decide (seen = .inherited) && !preset
  let front := seen.text ++ if preset then "default " else ""
  let tokens ← ahead
  let layout ←
    if startsSignature tokens then function grammar front
    else if tokens.startsWord "const" then
      takeWord "const"
      constantMember grammar front
    else if tokens.startsWord "type" then typeMember grammar front
    else if plain && startsInvocation tokens then takeInvocation false
    else dueOneOf (memberStarts (if preset then [] else ["`default`"]) plain)
  return attributes ++ layout

def importStarts : List String :=
  ["identifier", "`self`", "`super`", "`crate`", "`try`", "`*`", "curly braces"]

def startsImportName (tokens : Stream) : Bool :=
  tokens.startsName || tokens.startsOneOf ["self", "super", "crate", "try"]

-- `grouped` if the tree ends in a group, `itself` if it is the place it stands in.
structure Import where
  layout : Layout
  grouped : Bool
  itself : Bool

def importRow : List Import → Layout
  | [] => []
  | [last] => last.layout
  | first :: rest =>
    first.layout ++ Layout.text "," ++
      (if first.grouped then Layout.hard else Layout.space) ++ importRow rest

-- A group of one is the one, unless that is the place itself.
def importGroup (trees : List Import) : Import :=
  let whole : Import := {
    layout := Layout.text "\x7b" ++
      Layout.box true Layout.indent
        (Layout.back (Layout.soft ++ Layout.box false 0 (importRow trees) ++
          Layout.lastComma)) ++
      Layout.text "\x7d"
    grouped := true
    itself := false }
  match trees with
  | [single] => if single.itself then whole else single
  | _ => whole

def importName : Read Import := do
  let place ← seesWord "self"
  let name ← takeAnyWord
  if ← tryWord "as" then
    if !(← sees fun tokens => tokens.startsName || tokens.startsWord "_") then
      due "identifier or underscore"
    let other ← takeAnyWord
    return ⟨Layout.text (name ++ " as " ++ other), false, place⟩
  else return ⟨Layout.text name, false, place⟩

def importTree : Nat → Read Import
  | 0 => refuse .unreadable
  | fuel + 1 => do
    let tokens ← ahead
    if startsImportName tokens then
      if tokens.skip.startsSign "::" then
        let name ← takeAnyWord
        takeSign "::"
        let tree ← importTree fuel
        return { tree with layout := Layout.text (name ++ "::") ++ tree.layout, itself := false }
      else importName
    else if tokens.startsSign "*" then
      takeSign "*"
      return ⟨Layout.text "*", false, false⟩
    else if tokens.startsGroup .curly then
      return importGroup (← inGroup .curly (separated (importTree fuel))).items
    else dueOneOf importStarts

-- From the visibility on.
def importItem : Read Layout := do
  let seen ← visibility
  takeWord "use"
  let rooted ← trySign "::"
  let tree ← importTree (← get).bound
  takeSign ";"
  return Layout.text (seen.text ++ "use " ++ if rooted then "::" else "") ++ tree.layout ++
    Layout.text ";" ++ Layout.hard

end SchemaBindings.Source
