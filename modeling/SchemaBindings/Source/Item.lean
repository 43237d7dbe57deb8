import SchemaBindings.Source.Expression
import SchemaBindings.Source.Member

namespace SchemaBindings.Source

def aliasItem (grammar : Grammar) : Read Layout := do
  let seen ← visibility
  takeWord "type"
  let name ← takeName
  let parameters ← generics grammar
  let _ ← typeBounds grammar
  let restricted ← restrictions grammar
  let target ← if ← trySign "=" then pure (← grammar (.type true)).layout else pure []
  takeSign ";"
  return Layout.box true Layout.indent
    (Layout.text (seen.text ++ "type " ++ name) ++ parameters ++ beforeDefinition restricted ++
      Layout.text "= " ++ Layout.measure ++ Layout.box false (-Layout.indent) target ++
      Layout.text ";") ++ Layout.hard

def namedField (grammar : Grammar) : Read Layout := do
  let attributes ← outerAttributes grammar
  let seen ← visibility
  let name ← if ← seesWord "_" then takeAnyWord else takeName
  takeSign ":"
  let type ← grammar (.type true)
  return attributes ++ Layout.text (seen.text ++ name ++ ": ") ++ type.layout

def plainField (grammar : Grammar) : Read Layout := do
  let attributes ← outerAttributes grammar
  let seen ← visibility
  let type ← grammar (.type true)
  return attributes ++ Layout.text seen.text ++ type.layout

def namedFields (grammar : Grammar) : Read (List Layout) := do
  return (← inGroup .curly (separated (namedField grammar))).items

def plainFields (grammar : Grammar) : Read (List Layout) := do
  return (← inGroup .round (separated (plainField grammar))).items

def commaLines (layouts : List Layout) : Layout :=
  layouts.flatMap (· ++ Layout.text "," ++ Layout.hard)

def plainFieldsLayout (fields : List Layout) : Layout :=
  Layout.text "(" ++ Layout.back (Layout.soft ++ Layout.commaRow fields) ++ Layout.text ")"

-- Behind the plain fields, or in their place.
def closedStruct (head : Layout) (restricted : List Layout) : Read Layout := do
  takeSign ";"
  return Layout.box true Layout.indent (head ++ beforeSemicolon restricted) ++ Layout.hard

def structItem (grammar : Grammar) : Read Layout := do
  let seen ← visibility
  takeWord "struct"
  let name ← takeName
  let parameters ← generics grammar
  let head := Layout.text (seen.text ++ "struct " ++ name) ++ parameters
  let restrictable ← seesWord "where"
  let restricted ← restrictions grammar
  if !restrictable && (← seesGroup .round) then
    let fields ← plainFields grammar
    let restrictable ← seesWord "where"
    let restricted ← restrictions grammar
    if ← seesSign ";" then closedStruct (head ++ plainFieldsLayout fields) restricted
    else dueOneOf (if restrictable then ["`;`"] else ["`where`", "`;`"])
  else if ← seesGroup .curly then
    let fields ← namedFields grammar
    return opened (head ++ beforeBody restricted) (commaLines fields)
  else if ← seesSign ";" then closedStruct head restricted
  else if restrictable then dueOneOf ["curly braces", "`;`"]
  else dueOneOf ["`where`", "parentheses", "curly braces", "`;`"]

def unionItem (grammar : Grammar) : Read Layout := do
  let seen ← visibility
  takeWord "union"
  let name ← takeName
  let parameters ← generics grammar
  let restricted ← restrictions grammar
  let fields ← namedFields grammar
  return opened (Layout.text (seen.text ++ "union " ++ name) ++ parameters ++
    beforeBody restricted) (commaLines fields)

-- A variant may hold fields and may be given a number.
def variant (grammar : Grammar) : Read Layout := do
  let attributes ← outerAttributes grammar
  let _ ← visibility
  let name ← takeName
  let fields ←
    if ← seesGroup .curly then
      let row := Layout.back (Layout.space ++ Layout.spacedRow (← namedFields grammar))
      pure (Layout.text " \x7b" ++ Layout.box true Layout.indent row ++ Layout.text "\x7d")
    else if ← seesGroup .round then
      pure (Layout.box true Layout.indent (plainFieldsLayout (← plainFields grammar)))
    else pure []
  let number ←
    if ← trySign "=" then pure (Layout.text " = " ++ (← grammar (.expression true)).layout)
    else pure []
  return attributes ++ Layout.text name ++ fields ++ number

def enumItem (grammar : Grammar) : Read Layout := do
  let seen ← visibility
  takeWord "enum"
  let name ← takeName
  let parameters ← generics grammar
  let restricted ← restrictions grammar
  let variants ← inGroup .curly (separated (variant grammar))
  return opened (Layout.text (seen.text ++ "enum " ++ name) ++ parameters ++
    beforeBody restricted) (commaLines variants.items)

-- Between the braces that open and close an item.
def members (grammar : Grammar) (member : Read Layout) : Read Layout :=
  inGroup .curly do
    let attributes ← innerAttributes grammar
    return attributes ++ (← repeated member).flatten

def endsSupertraits (tokens : Stream) : Bool :=
  tokens.startsWord "where" || tokens.startsGroup .curly

def endsTraitAlias (tokens : Stream) : Bool :=
  tokens.startsWord "where" || tokens.startsSign ";"

def traitBody (grammar : Grammar) (head : Layout) : Read Layout := do
  let bounds ←
    if ← trySign ":" then pure (← rowUntil endsSupertraits "+" (bound grammar)).items
    else pure []
  let restricted ← restrictions grammar
  let lines ← members grammar (traitMember grammar)
  return opened (head ++ boundsBehind ": " bounds ++ beforeBody restricted) lines

def traitItem (grammar : Grammar) : Read Layout := do
  let seen ← visibility
  let words ← takeWords ["unsafe", "auto"]
  takeWord "trait"
  let name ← takeName
  let parameters ← generics grammar
  let front := seen.text ++ String.join (words.map (· ++ " ")) ++ "trait " ++ name
  let head := Layout.text front ++ parameters
  let tokens ← ahead
  if !words.isEmpty || tokens.startsGroup .curly || tokens.startsSign ":" ||
      tokens.startsWord "where" then
    traitBody grammar head
  else if ← trySign "=" then
    let bounds ← rowUntil endsTraitAlias "+" (bound grammar)
    let restricted ← restrictions grammar
    takeSign ";"
    return Layout.box true Layout.indent
      (head ++ Layout.text " = " ++ Layout.measure ++
        Layout.join (Layout.space ++ Layout.text "+ ") bounds.items ++
        beforeSemicolon restricted) ++ Layout.hard
  else dueOneOf ["curly braces", "`:`", "`where`", "`=`"]

-- Angles behind the word are parameters, unless they open a path.
def opensParameters (tokens : Stream) : Bool :=
  let next := tokens.skip
  let third := next.skip
  tokens.startsSign "<" && (next.startsSign ">" || next.startsAttribute ||
    ((next.startsLifetime || next.startsName) && (third.startsSign ">" ||
      third.startsSign "," || (third.startsSign ":" && !third.startsSign "::") ||
      third.startsSign "=")) ||
    next.startsWord "const")

-- The line may break before `for`, which then starts at the left edge.
def implementationHead (front : String) (generics subject : Layout)
    (target : Option Layout) : Layout :=
  Layout.box false (-Layout.indent)
    (Layout.box true Layout.indent (Layout.text (front ++ "impl") ++ generics) ++
      Layout.text " " ++ subject ++
      match target with
      | some type => Layout.space ++ Layout.text "for " ++ type
      | none => [])

def implementationItem (grammar : Grammar) : Read Layout := do
  let _ ← visibility
  let words ← takeWords ["default", "unsafe"]
  takeWord "impl"
  let parameters ← if opensParameters (← ahead) then generics grammar else pure []
  let tokens ← ahead
  if tokens.startsWord "const" || (tokens.startsSign "?" && tokens.skip.startsWord "const") then
    let _ ← trySign "?"
    takeWord "const"
  let tokens ← ahead
  let negative := tokens.startsSign "!" && !tokens.skip.startsGroup .curly
  if negative then takeSign "!"
  let first ← grammar (.type true)
  let target ←
    if ← tryWord "for" then pure (some (← grammar (.type true)).layout)
    else
      if negative then refuse .negativeInherent
      pure none
  let restricted ← restrictions grammar
  let lines ← members grammar (implementedMember grammar)
  let subject := (if negative then Layout.text "!" else []) ++ first.layout
  let head := implementationHead (String.join (words.map (· ++ " "))) parameters subject target
  return opened (head ++ beforeBody restricted) lines

def functionItem (grammar : Grammar) : Read Layout := do
  let seen ← visibility
  function grammar seen.text

def constantItem (grammar : Grammar) : Read Layout := do
  let seen ← visibility
  takeWord "const"
  constantMember grammar seen.text

def staticItem (grammar : Grammar) : Read Layout := do
  let seen ← visibility
  takeWord "static"
  let words ← takeWords ["mut"]
  let name ← takeName
  takeSign ":"
  let type ← grammar (.type true)
  takeSign "="
  let value ← grammar (.expression true)
  takeSign ";"
  let front := seen.text ++ "static " ++ String.join (words.map (· ++ " ")) ++ name ++ ": "
  return Layout.box true 0 (Layout.text front ++ type.layout ++ Layout.text " = " ++
    Layout.measure ++ value.layout ++ Layout.text ";") ++ Layout.hard

def moduleItem (grammar : Grammar) : Read Layout := do
  let seen ← visibility
  let words ← takeWords ["unsafe"]
  takeWord "mod"
  let name ← if ← seesWord "try" then takeAnyWord else takeName
  let front := seen.text ++ String.join (words.map (· ++ " ")) ++ "mod " ++ name
  if ← trySign ";" then
    return Layout.box true Layout.indent (Layout.text (front ++ ";")) ++ Layout.hard
  else if ← seesGroup .curly then
    let lines ← members grammar do return (← grammar .item).layout
    return opened (Layout.text (front ++ " ")) lines
  else dueOneOf ["`;`", "curly braces"]

def foreignMember (grammar : Grammar) : Read Layout := do
  let attributes ← outerAttributes grammar
  let seen ← visibility
  let head ← signature grammar
  takeSign ";"
  return attributes ++ bodyless (Layout.text seen.text) head

def foreignItem (grammar : Grammar) : Read Layout := do
  let words ← takeWords ["unsafe"]
  let foreign ← convention
  let lines ← members grammar (foreignMember grammar)
  return opened (Layout.text (String.join (words.map (· ++ " ")) ++ foreign)) lines

-- A library that is brought in, or functions that another one holds.
def externItem (grammar : Grammar) : Read Layout := do
  let reading ← get
  let seen ← visibility
  takeWord "extern"
  if ← tryWord "crate" then
    let name ← if ← seesWord "self" then takeAnyWord else takeName
    let renamed ← if ← tryWord "as" then pure (" as " ++ (← takeAnyWord)) else pure ""
    takeSign ";"
    return Layout.text (seen.text ++ "extern crate " ++ name ++ renamed ++ ";") ++ Layout.hard
  match ← ahead with
  | .literal text :: rest =>
    if !text.startsWith "\"" then dueOneOf ["`crate`", "curly braces", "string literal"]
    advance rest
    if !(← seesGroup .curly) then dueOneOf ["curly braces"]
  | tokens =>
    if !tokens.startsGroup .curly then dueOneOf ["`crate`", "curly braces", "string literal"]
  set reading
  foreignItem grammar

def unsafeItem (grammar : Grammar) : Read Layout := do
  let reading ← get
  let _ ← visibility
  takeWord "unsafe"
  let tokens ← ahead
  if tokens.startsWord "trait" ||
      (tokens.startsWord "auto" && tokens.skip.startsWord "trait") then
    set reading
    traitItem grammar
  else if tokens.startsWord "impl" then
    set reading
    implementationItem grammar
  else if tokens.startsWord "extern" then
    set reading
    foreignItem grammar
  else if tokens.startsWord "mod" then
    set reading
    moduleItem grammar
  else dueOneOf ["`trait`", "`auto`", "`impl`", "`extern`", "`mod`"]

def itemWords : List String :=
  ["`fn`", "`extern`", "`use`", "`static`", "`const`", "`unsafe`", "`mod`", "`type`", "`struct`",
    "`enum`", "`union`", "`trait`", "`auto`", "`impl`", "`default`", "`macro`"]

-- From the visibility on, which decides whether an invocation may stand in place of an item.
def itemBody (grammar : Grammar) : Read Layout := do
  let reading ← get
  let seen ← visibility
  let tokens ← ahead
  set reading
  if startsSignature tokens then functionItem grammar
  else if tokens.startsWord "extern" then externItem grammar
  else if tokens.startsWord "use" then importItem
  else if tokens.startsWord "static" then staticItem grammar
  else if tokens.startsWord "const" then constantItem grammar
  else if tokens.startsWord "unsafe" then unsafeItem grammar
  else if tokens.startsWord "mod" then moduleItem grammar
  else if tokens.startsWord "type" then aliasItem grammar
  else if tokens.startsWord "struct" then structItem grammar
  else if tokens.startsWord "enum" then enumItem grammar
  else if tokens.startsWord "union" && tokens.skip.startsName then unionItem grammar
  else if tokens.startsWord "trait" ||
      (tokens.startsWord "auto" && tokens.skip.startsWord "trait") then
    traitItem grammar
  else if tokens.startsWord "impl" ||
      (tokens.startsWord "default" && !tokens.skip.startsSign "!") then
    implementationItem grammar
  else if decide (seen = .inherited) && startsInvocation tokens then takeInvocation true
  else
    advance tokens
    dueOneOf (if seen = .inherited then itemWords ++ invocationWords else itemWords)

def itemPhrase (grammar : Grammar) : Read Phrase := do
  let attributes ← outerAttributes grammar
  return { layout := attributes ++ (← itemBody grammar) }

-- Each phrase is read with a grammar for the ones inside it that may nest one level less.
def grammarTo : Nat → Grammar
  | 0 => fun _ => refuse .unreadable
  | depth + 1 => fun kind =>
    let inner := grammarTo depth
    match kind with
    | .type plus => typePhrase inner plus
    | .bound place => boundPhrase inner place
    | .pattern => patternPhrase inner
    | .expression record => expressionPhrase inner record
    | .operand record => operand inner record
    | .line => linePhrase inner
    | .block => blockPhrase inner
    | .lines => linesPhrase inner
    | .item => itemPhrase inner

-- A first line that names an interpreter looks like an attribute, but no bracket follows.
def splitInterpreter (cs : List Char) : Option (List Char) × List Char :=
  match cs with
  | '#' :: '!' :: rest =>
    match skipGap rest with
    | '[' :: _ => (none, cs)
    | _ => (some (cs.takeWhile (· != '\n')), cs.dropWhile (· != '\n'))
  | _ => (none, cs)

def file (grammar : Grammar) : Read Layout := do
  let attributes ← innerAttributes grammar
  let items ← repeated (grammar .item)
  if let some bracket := (← get).leftover then refuse (.surplus (some bracket.closer))
  return attributes ++ items.flatMap (·.layout)

-- No token is passed through more than three levels, and none is made of no character.
def fileLayout (cs : List Char) : Except Fault Layout := do
  let (interpreter, body) := splitInterpreter (Token.dropByteOrderMark cs)
  match Token.read body with
  | none => throw .unreadable
  | some tokens =>
    let reading : Reading := { tokens, bound := body.length + 2, leftover := none }
    let (content, _) ← (file (grammarTo (4 * (body.length + 2)))).run reading
    let head := match interpreter with
      | some line => Layout.text (String.ofList line) ++ Layout.hard
      | none => []
    return Layout.box true 0 (head ++ content)

def canonical (source : String) : Except Fault String := do
  return (← fileLayout source.toList).render

end SchemaBindings.Source
