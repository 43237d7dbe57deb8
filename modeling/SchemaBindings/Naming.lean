import SchemaBindings.Source.Token

namespace SchemaBindings.Naming

def isSeparator (c : Char) : Bool := c == '_' || c == '-'

-- A capital opens a word behind a small letter or a digit, and behind another capital when a
-- small letter follows: the run of capitals before it is an acronym of its own.
def opensWord (previous c : Char) (next : Option Char) : Bool :=
  Text.isUpper c &&
    (Text.isLower previous || Text.isAsciiDigit previous ||
      (Text.isUpper previous && next.any Text.isLower))

-- `held` is the word so far, last character first.
def wordsFrom (held : List Char) : List Char → List (List Char)
  | [] => if held.isEmpty then [] else [held.reverse]
  | c :: rest =>
    if isSeparator c then
      if held.isEmpty then wordsFrom [] rest else held.reverse :: wordsFrom [] rest
    else match held with
      | [] => wordsFrom [c] rest
      | previous :: _ =>
        if opensWord previous c rest.head? then held.reverse :: wordsFrom [c] rest
        else wordsFrom (c :: held) rest

def words (cs : List Char) : List (List Char) := wordsFrom [] cs

def snakeCase (cs : List Char) : List Char :=
  ['_'].intercalate ((words cs).map Text.lower)

def capitalize : List Char → List Char
  | [] => []
  | c :: rest => Text.upperChar c ++ Text.lower rest

def pascalCase (cs : List Char) : List Char := (words cs).flatMap capitalize

-- These four cannot be written raw.
def unescapable : List String := ["self", "Self", "super", "crate"]

def escapeKeyword (name : List Char) : List Char :=
  if unescapable.contains (String.ofList name) then name ++ ['_']
  else if Source.isIdentifier name then name
  else 'r' :: '#' :: name

-- Underscores in front survive; a name of nothing but separators gets a stand-in.
def fieldIdentifierChars (name : List Char) : List Char :=
  let snake := snakeCase name
  if snake.isEmpty then "field".toList
  else escapeKeyword (name.takeWhile (· == '_') ++ snake)

def fieldIdentifier (name : String) : String :=
  String.ofList (fieldIdentifierChars name.toList)

def enumValueIdentifier (enumName value : String) : String :=
  enumName ++ String.ofList (pascalCase value.toList)

end SchemaBindings.Naming
