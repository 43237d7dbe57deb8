namespace SchemaBindings.Files

def isAbsolute (path : String) : Bool := path.startsWith "/"

-- A name below a directory. An absolute name stands for itself.
def join (directory name : String) : String :=
  if isAbsolute name || directory.isEmpty then name
  else if directory.endsWith "/" then directory ++ name
  else directory ++ "/" ++ name

inductive Component where
  | here
  | parent
  | name (text : String)
  deriving DecidableEq, Repr

def Component.ofText (text : String) : Component :=
  if text == "." then .here else if text == ".." then .parent else .name text

-- Slashes that follow one another separate like one.
def components (path : String) : List Component :=
  ((path.toList.splitOn '/').filter fun text => !text.isEmpty).map fun text =>
    .ofText (String.ofList text)

def longestName : Nat := 255

def longestPath : Nat := 4095

-- `refused` is for what the files themselves do not show.
inductive Fault where
  | missing
  | notDirectory
  | isDirectory
  | nameTooLong
  | nulInName
  | notText
  | refused (reason : String)
  deriving DecidableEq, Repr

def Fault.message : Fault → String
  | .missing => "No such file or directory (os error 2)"
  | .notDirectory => "Not a directory (os error 20)"
  | .isDirectory => "Is a directory (os error 21)"
  | .nameTooLong => "File name too long (os error 36)"
  | .nulInName => "file name contained an unexpected NUL byte"
  | .notText => "stream did not contain valid UTF-8"
  | .refused reason => reason

-- The names from the root down.
abbrev Location := List String

inductive Entry where
  | file (content : ByteArray)
  | directory

-- The latest entry of a location counts. Relative paths start at the working directory, which is
-- there together with everything above it.
structure Tree where
  workingDirectory : Location := []
  entries : List (Location × Entry) := []

namespace Tree

def entry? (tree : Tree) (location : Location) : Option Entry :=
  if location.isPrefixOf tree.workingDirectory then some .directory
  else tree.entries.lookup location

def put (tree : Tree) (location : Location) (entry : Entry) : Tree :=
  { tree with entries := (location, entry) :: tree.entries }

-- One step down or up from a directory.
def step (tree : Tree) (location : Location) (component : Component) : Except Fault Location :=
  match tree.entry? location with
  | none => .error .missing
  | some (.file _) => .error .notDirectory
  | some .directory =>
    match component with
    | .here => .ok location
    | .parent => .ok location.dropLast
    | .name text =>
      if text.utf8ByteSize > longestName then .error .nameTooLong else .ok (location ++ [text])

def walk (tree : Tree) : Location → List Component → Except Fault Location
  | location, [] => .ok location
  | location, component :: rest => do tree.walk (← tree.step location component) rest

-- Where a path starts.
def origin (tree : Tree) (path : String) : Location :=
  if isAbsolute path then [] else tree.workingDirectory

-- The location that a path leads to. What is there is not looked at.
def locate (tree : Tree) (path : String) : Except Fault Location :=
  if path.contains '\x00' then .error .nulInName
  else if path.utf8ByteSize > longestPath then .error .nameTooLong
  else if path.isEmpty then .error .missing
  else tree.walk (tree.origin path) (components path)

def readBytes (tree : Tree) (path : String) : Except Fault ByteArray := do
  match tree.entry? (← tree.locate path) with
  | none => throw .missing
  | some .directory => throw .isDirectory
  | some (.file content) => if path.endsWith "/" then throw .notDirectory else return content

def readText (tree : Tree) (path : String) : Except Fault String := do
  match String.fromUTF8? (← tree.readBytes path) with
  | some text => return text
  | none => throw .notText

-- Writing to a path that must be a directory fails, whether there is one or not.
def writeText (tree : Tree) (path content : String) : Except Fault Tree := do
  let location ← tree.locate path
  if path.endsWith "/" then throw .isDirectory
  match tree.entry? location with
  | some .directory => throw .isDirectory
  | _ => return tree.put location (.file content.toUTF8)

-- Makes the directories that are missing on the way.
def makeAll (tree : Tree) : Location → List Component → Except Fault Tree
  | _, [] => .ok tree
  | location, component :: rest => do
    let next ← tree.step location component
    if (tree.entry? next).isSome then tree.makeAll next rest
    else (tree.put next .directory).makeAll next rest

def makeDirectory (tree : Tree) (path : String) : Except Fault Tree :=
  tree.makeAll (tree.origin path) (components path)

-- A file with the directories that lead to it.
def plant (tree : Tree) (path : String) (content : ByteArray) : Except Fault Tree := do
  let grown ← tree.makeAll (tree.origin path) (components path).dropLast
  return grown.put (← grown.locate path) (.file content)

-- The files below the working directory, named from there.
def files (tree : Tree) : List (String × ByteArray) :=
  let here := tree.workingDirectory
  ((tree.entries.map Prod.fst).eraseDups.filter here.isPrefixOf).filterMap fun location =>
    match tree.entry? location with
    | some (.file content) => some ("/".intercalate (location.drop here.length), content)
    | _ => none

end Tree

-- What keeps the files. For reasons that they do not show, such as rights or room, it may refuse to
-- give one or to take one, and says why.
structure Medium where
  readRefusal : Tree → String → Option String := fun _ _ => none
  writeRefusal : Tree → String → String → Option String := fun _ _ _ => none

namespace Medium

def readText (medium : Medium) (tree : Tree) (path : String) : Except Fault String :=
  match medium.readRefusal tree path with
  | some reason => .error (.refused reason)
  | none => tree.readText path

def writeText (medium : Medium) (tree : Tree) (path content : String) : Except Fault Tree :=
  match medium.writeRefusal tree path content with
  | some reason => .error (.refused reason)
  | none => tree.writeText path content

end Medium
end SchemaBindings.Files
