import SchemaBindings.Proofs.Binding.Placed
import SchemaBindings.Proofs.Source.Items
import SchemaBindings.Proofs.Source.Pieces

namespace SchemaBindings
open Source

-- No carriage return stays inside a line of the description.
def Tame (description : Option String) : Prop :=
  ∀ text ∈ description, ¬Text.StrayReturn text.toList

def EnumDecl.Tame (decl : EnumDecl) : Prop :=
  SchemaBindings.Tame decl.description ∧
    ∀ value ∈ decl.values, SchemaBindings.Tame value.description

def InputDecl.Tame (decl : InputDecl) : Prop :=
  SchemaBindings.Tame decl.description ∧
    ∀ field ∈ decl.fields, SchemaBindings.Tame field.description

namespace Binding
open Source.Lexeme

-- The lines, each with its end, give the lexemes.
def LexedLines (lines : List String) (lexemes : List Lexeme) : Prop :=
  Solid (joinLines lines).toList lexemes

-- The same if the lines are tame; if not, the reader stops among them.
structure LexedWhen (tame : Prop) (lines : List String) (lexemes : List Lexeme) : Prop where
  lexed : tame → LexedLines lines lexemes
  falters : ¬tame → Falters (joinLines lines).toList

section Lines
variable {lines more : List String} {lexemes others : List Lexeme} {cs : List Char}

theorem LexedLines.nil : LexedLines [] [] := Solid.nil

theorem LexedLines.append (first : LexedLines lines lexemes) (second : LexedLines more others) :
    LexedLines (lines ++ more) (lexemes ++ others) := by
  rw [LexedLines, joinLines_append, String.toList_append]
  exact Solid.append first second

theorem LexedLines.when {tame : Prop} (lexed : LexedLines lines lexemes) (holds : tame) :
    LexedWhen tame lines lexemes :=
  ⟨fun _ => lexed, fun wild => absurd holds wild⟩

section Tame
variable {p q : Prop}

theorem LexedWhen.congr (first : LexedWhen p lines lexemes) (same : p ↔ q) :
    LexedWhen q lines lexemes :=
  propext same ▸ first

theorem LexedWhen.append (first : LexedWhen p lines lexemes) (second : LexedWhen q more others) :
    LexedWhen (p ∧ q) (lines ++ more) (lexemes ++ others) := by
  refine ⟨fun ⟨left, right⟩ => (first.lexed left).append (second.lexed right), fun wild => ?_⟩
  rw [joinLines_append, String.toList_append]
  by_cases left : p
  · exact Solid.falters (first.lexed left) (second.falters fun right => wild ⟨left, right⟩)
  · exact (first.falters left).append _

theorem LexedLines.before (first : LexedLines lines lexemes) (second : LexedWhen p more others) :
    LexedWhen p (lines ++ more) (lexemes ++ others) :=
  ((first.when trivial).append second).congr (Iff.of_eq (true_and p))

theorem LexedWhen.behind (first : LexedWhen p lines lexemes) (second : LexedLines more others) :
    LexedWhen p (lines ++ more) (lexemes ++ others) :=
  (first.append (second.when trivial)).congr (Iff.of_eq (and_true p))

theorem LexedWhen.flatMap {values : List α} {tame : α → Prop} {block : α → List String}
    {given : α → List Lexeme} (each : ∀ a ∈ values, LexedWhen (tame a) (block a) (given a)) :
    LexedWhen (∀ a ∈ values, tame a) (values.flatMap block) (values.flatMap given) := by
  induction values with
  | nil => exact LexedLines.nil.when nofun
  | cons a rest ih =>
    obtain ⟨first, others⟩ := List.forall_mem_cons.mp each
    rw [List.flatMap_cons, List.flatMap_cons]
    exact (first.append (ih others)).congr List.forall_mem_cons.symm

end Tame

theorem LexedLines.flatMap {values : List α} {block : α → List String} {given : α → List Lexeme}
    (each : ∀ a ∈ values, LexedLines (block a) (given a)) :
    LexedLines (values.flatMap block) (values.flatMap given) := by
  induction values with
  | nil => exact .nil
  | cons a rest ih =>
    rw [List.flatMap_cons, List.flatMap_cons]
    exact (each a (List.mem_cons_self ..)).append
      (ih fun b inside => each b (List.mem_cons_of_mem _ inside))

theorem LexedLines.line {line : String} (solid : Solid (line.toList ++ ['\n']) lexemes) :
    LexedLines [line] lexemes := by
  rw [LexedLines, toList_joinLines_cons]
  exact solid

theorem LexedLines.chars (solid : Solid (cs ++ ['\n']) lexemes) :
    LexedLines [String.ofList cs] lexemes := by
  refine .line ?_
  rw [String.toList_ofList]
  exact solid

-- A line that is fixed is read by running the reader.
theorem LexedLines.fixed
    (read : ∀ rest, readSome lexemes.length ((cs ++ ['\n']) ++ rest) = some (lexemes, '\n' :: rest))
    (short : lexemes.length ≤ (cs ++ ['\n']).length) : LexedLines [String.ofList cs] lexemes :=
  .chars (.run _ ['\n'] read (fun _ => rfl) short)

-- Something between two literals that keep it apart from the rest.
theorem LexedLines.around {front behind : List Char} {name : String}
    {between : List Lexeme} (first : Solid front lexemes) (middle : Loose name.toList between)
    (last : Solid (behind ++ ['\n']) others)
    (ends : ∀ rest, endsWord (behind ++ ['\n'] ++ rest) = true) :
    LexedLines [String.ofList front ++ name ++ String.ofList behind]
      (lexemes ++ (between ++ others)) := by
  refine .line ?_
  rw [String.toList_append, String.toList_append, String.toList_ofList, String.toList_ofList,
    List.append_assoc, List.append_assoc]
  exact first.append (middle.solid last ends)

theorem LexedLines.twice {front middle behind : List Char} {name text : String}
    {between : List Lexeme} (first : Loose (front ++ name.toList) lexemes)
    (second : Solid middle between) (last : Solid (text.toList ++ (behind ++ ['\n'])) others)
    (apart : ∀ rest, endsWord (middle ++ rest) = true) :
    LexedLines [String.ofList front ++ name ++ String.ofList middle ++ text ++ String.ofList behind]
      (lexemes ++ (between ++ others)) := by
  refine .line ?_
  have all := first.solid (second.append last) fun rest => by
    rw [List.append_assoc]
    exact apart _
  simpa using all

theorem loose_word {name : String} (known : Naming.IsName name) :
    Loose name.toList [.word false name] := by
  have loose := loose_name known
  rwa [String.ofList_toList] at loose

-- The line that opens the body of something with a name.
theorem lexed_body {front : List Char} {name : String} (first : Solid front lexemes)
    (known : Naming.IsName name) :
    LexedLines [String.ofList front ++ name ++ " \x7b"]
      (lexemes ++ [.word false name, .opening .curly]) :=
  .around first (loose_word known) (.run 1 ['\n'] (fun _ => rfl) (fun _ => rfl) (by decide))
    fun _ => rfl

theorem lexed_empty : LexedLines [""] [] := .fixed (fun _ => rfl) (Nat.zero_le _)

theorem lexed_memberEnd : LexedLines ["    \x7d"] [.closing .curly] :=
  .fixed (fun _ => rfl) (by decide)

theorem lexed_end : LexedLines ["\x7d", ""] [.closing .curly] := by
  have brace : LexedLines ["\x7d"] [.closing .curly] := .fixed (fun _ => rfl) (by decide)
  exact brace.append lexed_empty

end Lines

def plain (name : String) : Token := .word false name

-- A sign of several marks.
def sign : List Char → List Token
  | [] => []
  | [c] => [.mark c false]
  | c :: rest => .mark c true :: sign rest

-- What an attribute says, in its brackets.
def note (content : List Token) : List Token := [.mark '#' false, .group .square content]

def wordRow : List String → List Token
  | [] => []
  | [last] => [plain last]
  | first :: rest => plain first :: comma :: wordRow rest

def deriveNote (traits : List String) : List Token :=
  note [plain "derive", .group .round (wordRow traits)]

def renameNote (name : String) (others : List Token) : List Token :=
  note [plain "serde", .group .round
    (plain "rename" :: .mark '=' false :: .literal (Text.Quoted.encode name) :: others)]

def docToken (line : List Char) : Token :=
  .doc false (String.ofList (if (Text.trimEnd line).isEmpty then [] else ' ' :: Text.trimEnd line))

def docTokens (text : String) : List Token := (Text.lines text.toList).map docToken

def headTokens (name : String) (description : Option String) : List Token :=
  .doc false (" " ++ name) :: match description with
    | some text => .doc false "" :: docTokens text
    | none => []

section Documentation
variable {indent text : String}

theorem lexed_doc {line : String} {cs : List Char} (blank : Solid indent.toList [])
    (shown : line.toList = indent.toList ++ '/' :: '/' :: '/' :: cs) (front : cs.head? ≠ some '/')
    (feed : '\n' ∉ cs) (bare : '\r' ∉ cs) :
    LexedLines [line] [.doc false (String.ofList cs)] := by
  refine .line ?_
  rw [shown, List.append_assoc]
  exact blank.append (solid_doc front feed bare)

-- A comment that ends in no carriage return has none, or is refused for the one inside it.
theorem lexedWhen_doc {line : String} {cs : List Char} (blank : Solid indent.toList [])
    (shown : line.toList = indent.toList ++ '/' :: '/' :: '/' :: cs) (front : cs.head? ≠ some '/')
    (feed : '\n' ∉ cs) (last : cs.getLast? ≠ some '\r') :
    LexedWhen ('\r' ∉ cs) [line] [.doc false (String.ofList cs)] := by
  refine ⟨fun bare => lexed_doc blank shown front feed bare, fun wild => ?_⟩
  rw [toList_joinLines_cons, shown, List.append_assoc]
  exact blank.falters (falters_doc front feed last (not_not.mp wild))

theorem lexed_docLines (blank : Solid indent.toList []) (text : String) :
    LexedWhen (¬Text.StrayReturn text.toList) (docLines indent text)
      (flattenAll (docTokens text)) := by
  rw [Text.stray_iff, docLines, docTokens, List.map_eq_flatMap, List.map_eq_flatMap,
    flattenAll_flatMap]
  simp only [not_exists, not_and]
  refine .flatMap fun line inside => ?_
  have feed : '\n' ∉ Text.trimEnd line := Text.noBreak_trimEnd (Text.noBreak_lines inside)
  have last := Text.getLast?_trimEnd line
  rw [docToken]
  split
  · rename_i empty
    rw [List.isEmpty_iff.mp empty]
    exact lexedWhen_doc blank String.toList_append nofun nofun nofun
  · rename_i some
    have doc : LexedWhen ('\r' ∉ ' ' :: Text.trimEnd line)
        [indent ++ "/// " ++ String.ofList (Text.trimEnd line)]
        [.doc false (String.ofList (' ' :: Text.trimEnd line))] := by
      refine lexedWhen_doc blank ?_ (by simp) (by simpa using feed) ?_
      · simp only [String.toList_append, String.toList_ofList, List.append_assoc]
        rfl
      · rwa [List.getLast?_cons_of_ne_nil (by simpa using some)]
    exact doc.congr (by simp)

theorem solid_margin : Solid "".toList [] := Solid.nil

-- Members of an item are indented.
theorem solid_indent : Solid "    ".toList [] :=
  .run 0 [' ', ' ', ' ', ' '] (fun _ => rfl) (fun _ => rfl) (Nat.zero_le _)

theorem tame_none : Tame none := nofun

theorem tame_some : Tame (some text) ↔ ¬Text.StrayReturn text.toList := by simp [Tame]

theorem tame_of_bare {description : Option String}
    (bare : ∀ text ∈ description, '\r' ∉ text.toList) : Tame description :=
  fun text inside stray => bare text inside stray.mem

theorem lexed_headLines {name : String} (known : Naming.IsName name) (description : Option String) :
    LexedWhen (Tame description) (headLines name description)
      (flattenAll (headTokens name description)) := by
  have feed : '\n' ∉ name.toList := (readable_name known).unbroken
  have first : LexedLines ["/// " ++ name] [.doc false (" " ++ name)] := by
    have parts : '\r' ∉ name.toList := fun there =>
      absurd (List.all_eq_true.mp (Naming.parts_of_name known) _ there) (by decide +kernel)
    have line : LexedLines ["/// " ++ name] [.doc false (String.ofList (' ' :: name.toList))] :=
      lexed_doc solid_margin String.toList_append (by simp) (by simpa using feed) (by simpa using parts)
    rwa [show String.ofList (' ' :: name.toList) = " " ++ name from
      String.toList_injective (by simp)] at line
  unfold headLines headTokens
  rw [flattenAll]
  refine LexedLines.before first ?_
  cases description with
  | none => exact LexedLines.nil.when tame_none
  | some text =>
    have blank : LexedLines ["///"] [.doc false ""] := lexed_doc solid_margin rfl nofun nofun nofun
    exact (blank.before (lexed_docLines solid_margin text)).congr tame_some.symm

def documentation (description : Option String) : List Token :=
  match description with
  | some text => docTokens text
  | none => []

theorem lexed_documentation (description : Option String) :
    LexedWhen (Tame description) (match description with
      | some text => docLines "    " text
      | none => []) (flattenAll (documentation description)) := by
  cases description with
  | none => exact LexedLines.nil.when tame_none
  | some text => exact (lexed_docLines solid_indent text).congr tame_some.symm

theorem lexed_rename (name : String) :
    LexedLines ["    #[serde(rename = " ++ Text.Quoted.encode name ++ ")]"]
      (flattenAll (renameNote name [])) := by
  have line : LexedLines ["    #[serde(rename = " ++ Text.Quoted.encode name ++ ")]"]
      ([.mark '#' false, .opening .square, .word false "serde", .opening .round,
        .word false "rename", .mark '=' false] ++
        ([.literal (Text.Quoted.encode name)] ++ [.closing .round, .closing .square])) :=
    .around (.run 6 [' '] (fun _ => rfl) (fun _ => rfl) (by decide)) (loose_encode name)
      (.run 2 ['\n'] (fun _ => rfl) (fun _ => rfl) (by decide)) fun _ => rfl
  exact line

theorem notes_docTokens (text : String) : Notes (docTokens text) := by
  rw [docTokens]
  induction Text.lines text.toList with
  | nil => exact .nil
  | cons line rest ih => exact .doc _ ih

theorem notes_headTokens (name : String) (description : Option String) :
    Notes (headTokens name description) := by
  refine .doc _ ?_
  cases description with
  | none => exact .nil
  | some text => exact .doc _ (notes_docTokens text)

theorem notes_documentation (description : Option String) : Notes (documentation description) := by
  cases description with
  | none => exact .nil
  | some text => exact notes_docTokens text

theorem notes_derive (traits : List String) : Notes (deriveNote traits) :=
  .said (fun _ _ => ⟨_, rfl⟩) .nil

theorem notes_rename (name : String) (others : List Token) : Notes (renameNote name others) :=
  .said (fun _ _ => ⟨_, rfl⟩) .nil

end Documentation

section Items
variable {lines more : List String}

-- The item is read wherever there is room for its tokens. Nine levels are enough for what is fixed
-- in an item, and a type has no more layers than tokens.
def Reads (item : List Token) : Prop :=
  ∀ depth room, (flattenAll item).length ≤ room + 29 → room + 29 ≤ depth →
    ReadsItem (depth + 9) (room + 30) item

-- What stands between the braces of an item is no longer than the item.
theorem parts_fit {values : List α} {part : α → List Token} {item : List Token}
    (inside : Token.group .curly (values.flatMap (part · ++ [comma])) ∈ item)
    (enough : (flattenAll item).length ≤ room) :
    values.length ≤ room ∧ ∀ a ∈ values, (part a).length < room := by
  have fits : (values.flatMap (part · ++ [comma])).length ≤ room :=
    (length_le_flattenAll _).trans ((flattenAll_content_le inside).trans enough)
  refine ⟨(length_values_le fun a _ => by simp).trans fits, fun a there => ?_⟩
  have own := length_part_le (part · ++ [comma]) there
  rw [List.length_append] at own
  exact Nat.lt_of_lt_of_le (Nat.lt_of_succ_le own) fits

-- The lines are a row of items, and each of these is read by itself.
def OfItems (lines : List String) : Prop :=
  ∃ items : List (List Token), LexedLines lines (flattenAll items.flatten) ∧ ∀ item ∈ items, Reads item

theorem OfItems.nil : OfItems [] := ⟨[], .nil, nofun⟩

theorem OfItems.one {item : List Token} (lexed : LexedLines lines (flattenAll item))
    (reads : Reads item) : OfItems lines := by
  refine ⟨[item], ?_, List.forall_mem_singleton.mpr reads⟩
  rwa [List.flatten_singleton]

theorem OfItems.append (first : OfItems lines) (second : OfItems more) : OfItems (lines ++ more) := by
  obtain ⟨items, lexed, reads⟩ := first
  obtain ⟨others, behind, each⟩ := second
  refine ⟨items ++ others, ?_, List.forall_mem_append.mpr ⟨reads, each⟩⟩
  rw [List.flatten_append, flattenAll_append]
  exact lexed.append behind

-- A row of items if the lines are tame.
def OfItemsWhen (tame : Prop) (lines : List String) : Prop :=
  ∃ items : List (List Token), LexedWhen tame lines (flattenAll items.flatten) ∧
    ∀ item ∈ items, Reads item

section Tame
variable {p q : Prop}

theorem OfItemsWhen.one {item : List Token} (lexed : LexedWhen p lines (flattenAll item))
    (reads : Reads item) : OfItemsWhen p lines := by
  refine ⟨[item], ?_, List.forall_mem_singleton.mpr reads⟩
  rwa [List.flatten_singleton]

theorem OfItemsWhen.congr (first : OfItemsWhen p lines) (same : p ↔ q) : OfItemsWhen q lines :=
  propext same ▸ first

theorem OfItemsWhen.append (first : OfItemsWhen p lines) (second : OfItemsWhen q more) :
    OfItemsWhen (p ∧ q) (lines ++ more) := by
  obtain ⟨items, lexed, reads⟩ := first
  obtain ⟨others, behind, each⟩ := second
  refine ⟨items ++ others, ?_, List.forall_mem_append.mpr ⟨reads, each⟩⟩
  rw [List.flatten_append, flattenAll_append]
  exact lexed.append behind

theorem OfItems.when (made : OfItems lines) (holds : p) : OfItemsWhen p lines := by
  obtain ⟨items, lexed, reads⟩ := made
  exact ⟨items, lexed.when holds, reads⟩

theorem OfItems.before (first : OfItems lines) (second : OfItemsWhen p more) :
    OfItemsWhen p (lines ++ more) :=
  ((first.when trivial).append second).congr (Iff.of_eq (true_and p))

theorem OfItemsWhen.flatMap {values : List α} {tame : α → Prop} {block : α → List String}
    (each : ∀ a ∈ values, OfItemsWhen (tame a) (block a)) :
    OfItemsWhen (∀ a ∈ values, tame a) (values.flatMap block) := by
  induction values with
  | nil => exact OfItems.nil.when nofun
  | cons a rest ih =>
    obtain ⟨first, others⟩ := List.forall_mem_cons.mp each
    exact (first.append (ih others)).congr List.forall_mem_cons.symm

end Tame

end Items

end Binding
end SchemaBindings
