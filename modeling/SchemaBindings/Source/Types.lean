import SchemaBindings.Source.Attribute

namespace SchemaBindings.Source

-- A lifetime goes before everything else in the angles.
inductive Argument where
  | lifetime (layout : Layout)
  | other (layout : Layout)

def Argument.order (arguments : List Argument) : List Layout :=
  let lifetimes := arguments.filterMap fun
    | .lifetime layout => some layout
    | .other _ => none
  let others := arguments.filterMap fun
    | .lifetime _ => none
    | .other layout => some layout
  lifetimes ++ others

def plusRow (bounds : List Layout) : Layout := Layout.join (Layout.text " + ") bounds

def boundsBehind (sign : String) (bounds : List Layout) : Layout :=
  if bounds.isEmpty then [] else Layout.text sign ++ plusRow bounds

def lifetimeParameter : Read Layout := do
  let name ← takeLifetime
  if ← trySign ":" then
    let ends (tokens : Stream) : Bool :=
      tokens.isEmpty || tokens.startsSign "," || tokens.startsSign ">"
    let bounds ← linked ends "+" takeLifetime
    return Layout.text name ++ boundsBehind ": " (bounds.items.map Layout.text)
  else return Layout.text name

def endsParameter (tokens : Stream) : Bool :=
  tokens.isEmpty || tokens.startsSign "," || tokens.startsSign ">" || tokens.startsSign "="

def bound (grammar : Grammar) : Read Layout := do
  return (← grammar (.bound .clause)).layout

def typeParameter (grammar : Grammar) : Read Layout := do
  let name ← takeName
  let bounds ←
    if ← trySign ":" then pure (← linked endsParameter "+" (bound grammar)).items
    else pure []
  let fallback ←
    if ← trySign "=" then pure (Layout.text " = " ++ (← grammar (.type true)).layout) else pure []
  return Layout.text name ++ boundsBehind ": " bounds ++ fallback

-- A value in the place of a type: a literal, a name or a block.
def constant (grammar : Grammar) : Read Layout := do
  if let some text ← tryLiteral then return Layout.text text
  if ← sees (·.startsName) then return Layout.text (← takeName)
  if ← seesGroup .curly then return (← grammar .block).layout
  refuse (if ← isDone then .ended else .surplus none)

def constantParameter (grammar : Grammar) : Read Layout := do
  takeWord "const"
  let name ← takeName
  takeSign ":"
  let type ← grammar (.type true)
  let fallback ←
    if ← trySign "=" then pure (Layout.text " = " ++ (← constant grammar)) else pure []
  return Layout.text ("const " ++ name ++ ": ") ++ type.layout ++ fallback

-- `starts` says what a parameter may begin with, in the order in which it is told.
def parameterOf (starts : List String) (grammar : Grammar) : Read Argument := do
  let attributes ← outerAttributes grammar
  let tokens ← ahead
  if tokens.startsLifetime then return .lifetime (attributes ++ (← lifetimeParameter))
  else if tokens.startsName then return .other (attributes ++ (← typeParameter grammar))
  else if tokens.startsWord "const" then
    return .other (attributes ++ (← constantParameter grammar))
  else dueOneOf starts

def parameter (grammar : Grammar) : Read Argument := do
  if ← seesWord "_" then return .other (Layout.text (← takeAnyWord))
  parameterOf ["lifetime", "identifier", "`const`"] grammar

def endsAngles (tokens : Stream) : Bool := tokens.startsSign ">"

-- Lifetimes that a type or a bound is about.
def binder (grammar : Grammar) : Read Layout := do
  takeWord "for"
  takeSign "<"
  let names ← rowUntil endsAngles ","
    (parameterOf ["identifier", "lifetime", "`const`"] grammar)
  takeSign ">"
  let layouts := names.items.map fun
    | .lifetime layout => layout
    | .other layout => layout
  return Layout.text "for<" ++ Layout.join (Layout.text ", ") layouts ++ Layout.text "> "

def tryBinder (grammar : Grammar) : Read (Option Layout) := do
  if ← seesWord "for" then return some (← binder grammar) else return none

def generics (grammar : Grammar) : Read Layout := do
  if !(← trySign "<") then return []
  let parameters ← rowUntil endsAngles "," (parameter grammar)
  takeSign ">"
  if parameters.items.isEmpty then return []
  return Layout.text "<" ++
    Layout.box true 0
      (Layout.back (Layout.soft ++ Layout.commaRow (Argument.order parameters.items))) ++
    Layout.text ">"

def endsRestrictions (tokens : Stream) : Bool :=
  tokens.isEmpty || tokens.startsGroup .curly || tokens.startsSign "," ||
    tokens.startsSign ";" || (tokens.startsSign ":" && !tokens.startsSign "::") ||
    tokens.startsSign "="

def restriction (grammar : Grammar) : Read Layout := do
  let tokens ← ahead
  if tokens.startsLifetime && tokens.skip.startsSign ":" then
    let name ← takeLifetime
    takeSign ":"
    let bounds ← linked endsRestrictions "+" takeLifetime
    return Layout.text (name ++ ":") ++
      boundsBehind " " (bounds.items.map Layout.text)
  else
    let lifetimes ← tryBinder grammar
    let type ← grammar (.type true)
    takeSign ":"
    let bounds ← linked endsRestrictions "+" (bound grammar)
    return lifetimes.getD [] ++ type.layout ++ Layout.text ":" ++
      boundsBehind " " bounds.items

def restrictions (grammar : Grammar) : Read (List Layout) := do
  if !(← tryWord "where") then return []
  return (← linked endsRestrictions "," (restriction grammar)).items

-- Each restriction has a line of its own, before the brace that opens a body.
def beforeBody (restrictions : List Layout) : Layout :=
  if restrictions.isEmpty then Layout.text " "
  else Layout.back (Layout.back Layout.hard ++ Layout.text "where" ++ Layout.hard ++
    restrictions.flatMap (· ++ Layout.text "," ++ Layout.hard))

def beforeSemicolon (restrictions : List Layout) : Layout :=
  if restrictions.isEmpty then Layout.text ";"
  else Layout.back Layout.hard ++ Layout.text "where" ++ Layout.hard ++
    Layout.join (Layout.text "," ++ Layout.hard) restrictions ++ Layout.text ";"

-- In line with what they restrict, if all fits.
def beforeDefinition (restrictions : List Layout) : Layout :=
  if restrictions.isEmpty then Layout.text " "
  else Layout.back (Layout.back Layout.space ++ Layout.text "where" ++ Layout.space ++
    Layout.spacedRow restrictions)

def behindDefinition (restrictions : List Layout) : Layout :=
  if restrictions.isEmpty then Layout.text ";"
  else Layout.back Layout.space ++ Layout.text "where" ++ Layout.space ++
    Layout.join (Layout.text "," ++ Layout.space) restrictions ++ Layout.text ";"

-- `bare` if no segment has arguments, `takesRound` if the last one may still get some in
-- parentheses, `single` if it is one segment with nothing in parentheses.
structure Path where
  layout : Layout
  bare : Bool
  takesRound : Bool
  single : Bool

def angled (arguments : List Layout) : Layout :=
  if arguments.isEmpty then []
  else Layout.text "<" ++
    Layout.box true Layout.indent
      (Layout.back (Layout.soft ++ Layout.commaRow arguments)) ++
    Layout.text ">"

def endsConstraint (tokens : Stream) : Bool := tokens.startsSign "," || tokens.startsSign ">"

-- An argument in angles may also be given to a name, or put bounds on one.
def argument (grammar : Grammar) : Read Argument := do
  let tokens ← ahead
  if tokens.startsLifetime && !tokens.skip.startsSign "+" then
    return .lifetime (Layout.text (← takeLifetime))
  if tokens.startsLiteral || tokens.startsGroup .curly then
    return .other (← constant grammar)
  let type ← grammar (.type true)
  if let .name := type.form then
    if ← trySign "=" then
      let given ←
        if ← sees fun tokens => tokens.startsLiteral || tokens.startsGroup .curly then
          constant grammar
        else pure (← grammar (.type true)).layout
      return .other (type.layout ++ Layout.text " = " ++ given)
    if ← trySign ":" then
      let bounds ← rowUntil endsConstraint "+" (bound grammar)
      return .other (type.layout ++ boundsBehind ": " bounds.items)
  return .other type.layout

def arguments (grammar : Grammar) : Read (List Layout) := do
  takeSign "<"
  let row ← rowUntil endsAngles "," (argument grammar)
  takeSign ">"
  return Argument.order row.items

-- A less-than sign opens arguments; inside an expression only behind a double colon.
def opensArguments (inExpression : Bool) (tokens : Stream) : Bool :=
  (!inExpression && tokens.startsSign "<" && !tokens.startsSign "<=" &&
    !tokens.startsSign "<<=") ||
  ((tokens.skipSign? "::").map (·.startsSign "<")).getD false

def segment (grammar : Grammar) (inExpression : Bool) : Read Path := do
  if ← sees (·.startsOneOf ["super", "self", "crate", "try"]) then
    return ⟨Layout.text (← takeAnyWord), true, true, true⟩
  let name ← if ← seesWord "Self" then takeAnyWord else takeName
  if opensArguments inExpression (← ahead) then
    let _ ← trySign "::"
    let given ← arguments grammar
    let colons := if inExpression && !given.isEmpty then "::" else ""
    return ⟨Layout.text (name ++ colons) ++ angled given, false, given.isEmpty, true⟩
  else return ⟨Layout.text name, true, true, true⟩

def startsRound (tokens : Stream) : Bool :=
  tokens.startsGroup .round ||
    ((tokens.skipSign? "::").map (·.startsGroup .round)).getD false

-- A double colon before parentheses is left to them.
def pathRest (grammar : Grammar) (inExpression : Bool) : Nat → Path → Read Path
  | 0, _ => refuse .unreadable
  | fuel + 1, path => do
    let tokens ← ahead
    if tokens.startsSign "::" && !startsRound tokens then
      takeSign "::"
      let next ← segment grammar inExpression
      pathRest grammar inExpression fuel
        { layout := path.layout ++ Layout.text "::" ++ next.layout
          bare := path.bare && next.bare
          takesRound := next.takesRound
          single := false }
    else return path

def path (grammar : Grammar) (inExpression : Bool) : Read Path := do
  let rooted ← trySign "::"
  let first ← segment grammar inExpression
  let front := if rooted then Layout.text "::" else []
  pathRest grammar inExpression (← get).bound
    { first with layout := front ++ first.layout, single := !rooted }

def segmentsBehind (grammar : Grammar) (inExpression : Bool) :
    Nat → Path → Read Path
  | 0, _ => refuse .unreadable
  | fuel + 1, path => do
    takeSign "::"
    let next ← segment grammar inExpression
    let longer :=
      { next with layout := path.layout ++ Layout.text "::" ++ next.layout, single := false }
    if ← seesSign "::" then segmentsBehind grammar inExpression fuel longer else return longer

-- A path within a type, or within a type as it implements a trait.
def qualifiedPath (grammar : Grammar) (inExpression : Bool) : Read Path := do
  takeSign "<"
  let type ← grammar (.type true)
  let role ←
    if ← tryWord "as" then pure (Layout.text " as " ++ (← path grammar false).layout)
    else pure []
  takeSign ">"
  segmentsBehind grammar inExpression (← get).bound
    ⟨Layout.text "<" ++ type.layout ++ role ++ Layout.text ">", false, false, false⟩

-- What a function type gives back, and whether the path may go on behind it.
def roundArguments (grammar : Grammar) : Read (Layout × Bool) := do
  let _ ← trySign "::"
  let inputs ← inGroup .round (separated (grammar (.type true)))
  let row := Layout.text "(" ++
    Layout.back (Layout.soft ++ Layout.commaRow (inputs.items.map (·.layout))) ++
    Layout.text ")"
  if ← trySign "->" then
    let output ← grammar (.type false)
    let goesOn := match output.form with
      | .enclosed => true
      | _ => false
    return (Layout.box true Layout.indent (row ++ Layout.text " -> " ++ output.layout), goesOn)
  else return (Layout.box true Layout.indent row, true)

def roundRest (grammar : Grammar) : Nat → Path → Read Path
  | 0, _ => refuse .unreadable
  | fuel + 1, path => do
    if path.takesRound && startsRound (← ahead) then
      let (given, goesOn) ← roundArguments grammar
      let longer := Path.mk (path.layout ++ given) false false false
      if goesOn then
        roundRest grammar fuel (← pathRest grammar false (← get).bound longer)
      else return longer
    else return path

def startsPath (tokens : Stream) : Bool :=
  tokens.startsName || tokens.startsOneOf ["super", "self", "Self", "crate"] ||
    tokens.startsSign "::" || tokens.startsSign "<"

def inRound (layout : Layout) : Layout := Layout.text "(" ++ layout ++ Layout.text ")"

def startsBound (place : BoundPlace) (tokens : Stream) : Bool :=
  tokens.startsAnyWord || tokens.startsSign "::" || tokens.startsSign "?" ||
    tokens.startsLifetime || tokens.startsGroup .round ||
    (place != .object && tokens.startsGroup .square)

def BoundPlace.marker (place : BoundPlace) (name : String) : Read Unit := do
  if place = .object then refuse (.boundMarker name)

-- The trait of a bound, perhaps marked as optional.
def traitBound (grammar : Grammar) (place : BoundPlace) : Read Layout := do
  let lifetimes ← tryBinder grammar
  if ← seesGroup .square then
    inGroup .square (takeWord "const")
    place.marker "[const]"
  else if ← tryWord "const" then place.marker "const"
  let optional ← trySign "?"
  let lifetimes ←
    if optional && lifetimes.isNone then tryBinder grammar else pure lifetimes
  let named ← path grammar false
  let given ←
    if named.takesRound && startsRound (← ahead) then pure (← roundArguments grammar).1
    else pure []
  if optional && lifetimes.isSome then refuse .optionalBinder
  return Layout.text (if optional then "?" else "") ++ lifetimes.getD [] ++ named.layout ++ given

def capturedAtMost : Nat → Read (List String)
  | 0 => refuse .unreadable
  | fuel + 1 => do
    let tokens ← ahead
    if tokens.startsSign ">" then return []
    let first ←
      if tokens.startsLifetime then takeLifetime
      else if tokens.startsName || tokens.startsWord "Self" then takeAnyWord
      else dueOneOf ["lifetime", "identifier", "`>`"]
    if ← trySign "," then return first :: (← capturedAtMost fuel)
    if ← seesSign ">" then return [first]
    dueOneOf ["`,`", "`>`"]

-- The parameters that a hidden type is about.
def captured (place : BoundPlace) : Read Layout := do
  takeWord "use"
  takeSign "<"
  let names ← capturedAtMost (← get).bound
  takeSign ">"
  if place ≠ .hiddenType then refuse .capture
  return Layout.text ("use<" ++ ", ".intercalate names ++ ">")

def boundPhrase (grammar : Grammar) (place : BoundPlace) : Read Phrase := do
  if let some name ← tryLifetime then return ⟨Layout.text name, .lifetime⟩
  if ← seesWord "use" then return ⟨← captured place, .lifetime⟩
  if ← seesGroup .round then
    return { layout := inRound (← inGroup .round (traitBound grammar place)) }
  return { layout := ← traitBound grammar place }

def isTrait (bound : Phrase) : Bool :=
  match bound.form with
  | .lifetime => false
  | _ => true

-- One bound, and more of them behind plus signs. The last sign may be followed by none.
def boundsAtMost (grammar : Grammar) (plus : Bool) (place : BoundPlace) :
    Nat → Read (Row Phrase)
  | 0 => refuse .unreadable
  | fuel + 1 => do
    let first ← boundPhrase grammar place
    if ← trySignIf plus "+" then
      if startsBound place (← ahead) then
        let others ← boundsAtMost grammar plus place fuel
        return { others with items := first :: others.items }
      return ⟨[first], true⟩
    return ⟨[first], false⟩

def dynamic (bounds : List Layout) : Layout := Layout.text "dyn " ++ plusRow bounds

def single? (bounds : Row Layout) : Option Layout :=
  match bounds.items with
  | [bound] => if bounds.closed then none else some bound
  | _ => none

-- The bounds that stand for a type, not all of which may be lifetimes.
def boundsAsType (grammar : Grammar) (plus : Bool) (place : BoundPlace) (fault : Fault) :
    Read (Row Layout) := do
  let bounds ← boundsAtMost grammar plus place (← get).bound
  if !bounds.items.any isTrait then refuse fault
  return ⟨bounds.items.map (·.layout), bounds.closed⟩

-- Bounds behind a first one, of which one is due behind each plus sign.
def moreBounds (grammar : Grammar) (first : Layout) : Nat → Read (List Layout)
  | 0 => refuse .unreadable
  | fuel + 1 => do
    if ← trySign "+" then
      let next ← boundPhrase grammar .object
      return first :: (← moreBounds grammar next.layout fuel)
    else return [first]

def boundsBehindPath (grammar : Grammar) (first : Layout) : Nat → Read (Row Layout)
  | 0 => refuse .unreadable
  | fuel + 1 => do
    if ← trySign "+" then
      if startsBound .object (← ahead) then
        let next ← boundPhrase grammar .object
        let others ← boundsBehindPath grammar next.layout fuel
        return { others with items := first :: others.items }
      return ⟨[first], true⟩
    return ⟨[first], false⟩

def tupleRow (elements : List Layout) : Layout :=
  Layout.text "(" ++
    Layout.box true Layout.indent (Layout.back (Layout.soft ++ match elements with
      | [single] => single ++ Layout.text "," ++ Layout.soft
      | _ => Layout.commaRow elements)) ++
    Layout.text ")"

-- What stands between parentheses that open a type.
inductive RoundType where
  | tuple (elements : List Layout)
  | optional (bound : Layout)
  | single (type : Phrase)

def roundContent (grammar : Grammar) : Read RoundType := do
  let tokens ← ahead
  if tokens.isEmpty then return .tuple []
  if tokens.startsLifetime then
    let bounds ← boundsAsType grammar true .object .lifetimesOnly
    return .single { layout := dynamic bounds.items }
  if tokens.startsSign "?" then return .optional (← traitBound grammar .object)
  let first ← grammar (.type true)
  if ← trySign "," then
    let others ← separated (grammar (.type true))
    return .tuple (first.layout :: others.items.map (·.layout))
  return .single first

def roundType (grammar : Grammar) (plus : Bool) : Read Phrase := do
  let goOn (first : Layout) : Read Phrase := do
    return { layout := dynamic (← moreBounds grammar (inRound first) (← get).bound) }
  match ← inGroup .round (roundContent grammar) with
  | .tuple elements => return { layout := tupleRow elements }
  | .optional bound => goOn bound
  | .single type =>
    if plus && (← seesSign "+") then
      match type.form with
      | .name | .path => return ← goOn type.layout
      | .bounds (some bound) => return ← goOn bound
      | _ => pure ()
    return ⟨inRound type.layout, .enclosed⟩

-- One input of a function type, which may have a name that says nothing.
def functionInput (grammar : Grammar) : Read Layout := do
  let attributes ← outerAttributes grammar
  let tokens ← ahead
  let name ←
    if (tokens.startsName || tokens.startsOneOf ["_", "self"]) &&
        tokens.skip.startsSign ":" && !tokens.skip.startsSign "::" then do
      let name ← takeAnyWord
      takeSign ":"
      pure (name ++ ": ")
    else pure ""
  return attributes ++ Layout.text name ++ (← grammar (.type true)).layout

-- The foreign convention that a function follows.
def convention : Read String := do
  if ← tryWord "extern" then
    match ← ahead with
    | .literal text :: rest =>
      if text.startsWith "\"" then
        advance rest
        return "extern " ++ text ++ " "
      else return "extern "
    | _ => return "extern "
  else return ""

def returned (grammar : Grammar) (plus : Bool) : Read Layout := do
  if ← trySign "->" then
    return Layout.text " -> " ++ (← grammar (.type plus)).layout
  else return []

def functionType (grammar : Grammar) : Read Phrase := do
  let words ← takeWords ["unsafe"]
  let foreign ← convention
  takeWord "fn"
  let inputs ← inGroup .round (separated (functionInput grammar))
  let output ← returned grammar false
  let front := String.join (words.map (· ++ " ")) ++ foreign ++ "fn("
  let row := Layout.back (Layout.soft ++ Layout.commaRow inputs.items)
  return { layout :=
    Layout.text front ++ Layout.box true Layout.indent row ++ Layout.text ")" ++ output }

def pathType (grammar : Grammar) (plus : Bool) (lifetimes : Option Layout) : Read Phrase := do
  if ← seesSign "<" then
    let qualified ← qualifiedPath grammar false
    return { layout := (← roundRest grammar (← get).bound qualified).layout }
  let named ← roundRest grammar (← get).bound (← path grammar false)
  let tokens ← ahead
  if tokens.startsSign "!" && !tokens.startsSign "!=" && named.bare then
    takeSign "!"
    let invocation ← takeInvoked "!"
    return { layout := named.layout ++ invocation.layout }
  if lifetimes.isSome || (plus && tokens.startsSign "+") then
    let first := lifetimes.getD [] ++ named.layout
    let bounds ←
      if plus then boundsBehindPath grammar first (← get).bound else pure ⟨[first], false⟩
    return ⟨dynamic bounds.items, .bounds (single? bounds)⟩
  return ⟨named.layout, if named.single then .name else .path⟩

def squareType (grammar : Grammar) : Read Layout := do
  let element ← grammar (.type true)
  if ← trySign ";" then
    let count ← grammar (.expression true)
    return Layout.text "[" ++ element.layout ++ Layout.text "; " ++ count.layout ++
      Layout.text "]"
  else return Layout.text "[" ++ element.layout ++ Layout.text "]"

def pointerType (grammar : Grammar) : Read Layout := do
  takeSign "*"
  if !(← sees (·.startsOneOf ["const", "mut"])) then dueOneOf ["`const`", "`mut`"]
  let word ← takeAnyWord
  return Layout.text ("*" ++ word ++ " ") ++ (← grammar (.type false)).layout

def referenceType (grammar : Grammar) : Read Layout := do
  takeSign "&"
  let lifetime := (← tryLifetime).map (· ++ " ")
  let changeable := if ← tryWord "mut" then "mut " else ""
  return Layout.text ("&" ++ lifetime.getD "" ++ changeable) ++
    (← grammar (.type false)).layout

def typeStarts : List String :=
  ["`for`", "parentheses", "`fn`", "`unsafe`", "`extern`", "identifier", "`::`", "`<`",
    "`dyn`", "square brackets", "`*`", "`&`", "`!`", "`impl`", "`_`", "lifetime"]

def boundTypeStarts : List String :=
  ["identifier", "`fn`", "`unsafe`", "`extern`", "`super`", "`self`", "`Self`", "`crate`"]

def typePhrase (grammar : Grammar) (plus : Bool) : Read Phrase := do
  let lifetimes ← tryBinder grammar
  let tokens ← ahead
  if lifetimes.isSome && !(tokens.startsName ||
      tokens.startsOneOf ["fn", "unsafe", "extern", "super", "self", "Self", "crate"]) then
    dueOneOf boundTypeStarts
  if tokens.startsGroup .round then roundType grammar plus
  else if tokens.startsOneOf ["fn", "unsafe", "extern"] then
    let function ← functionType grammar
    return { function with layout := lifetimes.getD [] ++ function.layout }
  else if startsPath tokens then pathType grammar plus lifetimes
  else if tokens.startsWord "dyn" then
    takeWord "dyn"
    let _ ← trySign "*"
    let bounds ← boundsAsType grammar plus .object .lifetimesOnly
    return { layout := dynamic bounds.items }
  else if tokens.startsGroup .square then
    return { layout := ← inGroup .square (squareType grammar) }
  else if tokens.startsSign "*" then return { layout := ← pointerType grammar }
  else if tokens.startsSign "&" then return { layout := ← referenceType grammar }
  else if tokens.startsSign "!" then
    takeSign "!"
    return { layout := Layout.text "!" }
  else if tokens.startsWord "impl" then
    takeWord "impl"
    let bounds ← boundsAsType grammar plus .hiddenType .boundsWithoutTrait
    return { layout := Layout.text "impl " ++ plusRow bounds.items }
  else if tokens.startsWord "_" then return { layout := Layout.text (← takeAnyWord) }
  else if tokens.startsLifetime then
    let bounds ← boundsAsType grammar true .object .lifetimesOnly
    return ⟨dynamic bounds.items, .bounds (single? bounds)⟩
  else dueOneOf typeStarts

end SchemaBindings.Source
