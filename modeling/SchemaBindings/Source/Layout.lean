namespace SchemaBindings.Source

-- `atEnd` if the text, or the group it is about, ends where something else was due.
inductive Fault where
  | unreadable
  | expected (what : String) (atEnd : Bool)
  | keyword (name : String)
  | surplus (closing : Option Char)
  | ended
  | lifetimesOnly
  | boundsWithoutTrait
  | boundMarker (name : String)
  | capture
  | optionalBinder
  | secondReceiver
  | lateReceiver
  | negativeInherent
  | openRangeInSlice
  | chainedComparison
  | behindCast (what : String)
  | attributeInAttribute
  | attributeOnRange
  | labelledValue
  deriving DecidableEq, Repr

def Fault.message : Fault → String
  | .unreadable => "cannot parse string into token stream"
  | .expected what atEnd =>
    (if atEnd then "unexpected end of input, expected " else "expected ") ++ what
  | .keyword name => "expected identifier, found keyword `" ++ name ++ "`"
  | .surplus none => "unexpected token"
  | .surplus (some closing) =>
    "unexpected token, expected `" ++ String.singleton closing ++ "`"
  | .ended => "unexpected end of input"
  | .lifetimesOnly => "at least one trait is required for an object type"
  | .boundsWithoutTrait => "at least one trait must be specified"
  | .boundMarker name => "`" ++ name ++ "` is not allowed here"
  | .capture => "`use<...>` precise capturing syntax is not allowed here"
  | .optionalBinder => "`for<...>` binder not allowed with `?` trait polarity modifier"
  | .secondReceiver => "unexpected second method receiver"
  | .lateReceiver => "unexpected method receiver"
  | .negativeInherent => "inherent impls cannot be negative"
  | .openRangeInSlice => "range pattern is not allowed unparenthesized inside slice pattern"
  | .chainedComparison => "comparison operators cannot be chained"
  | .behindCast what => "casts cannot be followed by " ++ what
  | .attributeInAttribute => "unexpected attribute inside of attribute"
  | .attributeOnRange =>
    "attributes are not allowed on range expressions starting with `..`"
  | .labelledValue => "parentheses required"

-- A break shows as blanks, or as a line end and the indentation moved by `offset`. Some characters
-- show only one of the two ways.
structure Break where
  blank : Nat := 0
  offset : Int := 0
  beforeEnd : Option Char := none
  afterEnd : Option Char := none
  unbroken : Option Char := none
  never : Bool := false
  deriving DecidableEq, Repr

inductive Piece where
  | text (s : String)
  | brk (b : Break)
  | opening (consistent : Bool) (offset : Int)
  | closing
  deriving DecidableEq, Repr

abbrev Layout := List Piece

namespace Layout

-- No line is as wide as a break that always ends the line.
def endless : Nat := 65535

def indent : Int := 4

def text (s : String) : Layout := [.text s]

def soft : Layout := [.brk {}]

def space : Layout := [.brk { blank := 1 }]

def hard : Layout := [.brk { blank := endless }]

-- Ends what a group measures, and shows as nothing.
def measure : Layout := [.brk { never := true }]

-- A comma that shows only where the line ends behind it.
def lastComma : Layout := [.brk { beforeEnd := some ',' }]

-- A group around a single break shows as nothing.
def box (consistent : Bool) (offset : Int) (content : Layout) : Layout :=
  match content with
  | [.brk _] => []
  | _ => .opening consistent offset :: content ++ [.closing]

-- What follows the last break starts one step further left.
def back (layout : Layout) : Layout :=
  match layout.getLast? with
  | some (.brk b) => layout.dropLast ++ [.brk { b with offset := b.offset - indent }]
  | _ => layout

-- The inside of braces: lines that each end in a hard break.
def block (lines : Layout) : Layout :=
  if lines.isEmpty then measure else back (hard ++ lines)

def join (separator : Layout) : List Layout → Layout
  | [] => []
  | [last] => last
  | first :: rest => first ++ separator ++ join separator rest

-- Each phrase has the comma behind it, which the last one shows only at a line end.
def commaRow : List Layout → Layout
  | [] => []
  | [last] => last ++ lastComma
  | first :: rest => first ++ text "," ++ space ++ commaRow rest

-- As above, but with a blank behind the last phrase.
def spacedRow : List Layout → Layout
  | [] => []
  | [last] => last ++ [.brk { blank := 1, beforeEnd := some ',' }]
  | first :: rest => first ++ text "," ++ space ++ spacedRow rest

-- The width up to the next break that belongs to no group opened on the way; `depth` counts the
-- groups that are open.
def extent : Nat → Layout → Nat
  | _, [] => 0
  | depth, .text s :: rest => s.utf8ByteSize + extent depth rest
  | depth, .brk b :: rest => if depth = 0 then 0 else b.blank + extent depth rest
  | depth, .opening _ _ :: rest => extent (depth + 1) rest
  | depth, .closing :: rest => extent (depth - 1) rest

structure Margin where
  width : Int
  least : Int

-- Lines take 89 bytes, and sixty are granted at any indentation.
def margin : Margin := { width := 89, least := 60 }

-- A group that is laid out: whether it fits, how its breaks go, and the indentation around it. If
-- it does not fit on the rest of the line, all of its breaks end the line, or only those behind
-- which the text up to the next one does not fit. Widths count bytes.
structure Frame where
  fits : Bool
  consistent : Bool
  indentation : Int

structure Progress where
  out : String
  -- Blanks that are due before the next text.
  pending : Nat
  -- Bytes left on the line, which may be less than none.
  room : Int
  indentation : Int
  frames : List Frame

namespace Progress

def blank : Progress :=
  { out := "", pending := 0, room := margin.width, indentation := 0, frames := [] }

def put (progress : Progress) (s : String) : Progress :=
  { progress with
    out := progress.out ++ String.ofList (List.replicate progress.pending ' ') ++ s
    pending := 0 }

def putChar (progress : Progress) (c : Option Char) : Progress :=
  match c with
  | some c => progress.put (String.singleton c)
  | none => progress

def write (progress : Progress) (s : String) : Progress :=
  let next := progress.put s
  { next with room := next.room - s.utf8ByteSize }

def stay (progress : Progress) (b : Break) : Progress :=
  let next := { progress with
    pending := progress.pending + b.blank
    room := progress.room - b.blank }
  match b.unbroken with
  | some c => { next with out := next.out.push c, room := next.room - c.utf8Size }
  | none => next

def turn (progress : Progress) (b : Break) : Progress :=
  let column := progress.indentation + b.offset
  let ended := progress.putChar b.beforeEnd
  let next := { ended with
    out := ended.out.push '\n'
    pending := column.toNat
    room := max (margin.width - column) margin.least }
  match b.afterEnd with
  | some c => { (next.putChar b.afterEnd) with room := next.room - c.utf8Size }
  | none => next

def keeps (progress : Progress) (b : Break) (rest : Layout) : Bool :=
  b.never || match progress.frames with
    | [] => b.blank + extent 0 rest ≤ progress.room
    | frame :: _ =>
      frame.fits || (!frame.consistent && b.blank + extent 0 rest ≤ progress.room)

def enter (progress : Progress) (consistent : Bool) (offset : Int) (rest : Layout) : Progress :=
  let fits : Bool := extent 1 rest ≤ progress.room
  { progress with
    frames := { fits, consistent, indentation := progress.indentation } :: progress.frames
    indentation := if fits then progress.indentation else progress.indentation + offset }

def leave (progress : Progress) : Progress :=
  match progress.frames with
  | frame :: outer => { progress with frames := outer, indentation := frame.indentation }
  | [] => progress

end Progress

def renderFrom (progress : Progress) : Layout → Progress
  | [] => progress
  | .text s :: rest => renderFrom (progress.write s) rest
  | .brk b :: rest =>
    renderFrom (if progress.keeps b rest then progress.stay b else progress.turn b) rest
  | .opening consistent offset :: rest =>
    renderFrom (progress.enter consistent offset rest) rest
  | .closing :: rest => renderFrom progress.leave rest

-- Blanks at the very end are never written.
def render (layout : Layout) : String := (renderFrom Progress.blank layout).out

end Layout
end SchemaBindings.Source
