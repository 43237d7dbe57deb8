import SchemaBindings.Proofs.Binding.Declared
import SchemaBindings.Proofs.Naming.Legal

namespace SchemaBindings
namespace Binding

inductive Place where
  | imported
  | trait
  | type
  | variant
  | field
  deriving DecidableEq, Repr

structure Placed where
  place : Place
  name : String
  deriving DecidableEq, Repr

-- A name that is written raw has a hash in it.
def isNameChar (c : Char) : Bool := Text.isIdentifierPart c || c == '#'

def wordOf (cs : List Char) : String := String.ofList (cs.takeWhile isNameChar)

def behindWord (cs : List Char) : List Char := cs.dropWhile isNameChar

-- The names between the braces of an import. An import of all there is brings in none of its own.
def importedIn (cs : List Char) : List Placed :=
  let inside := ((cs.dropWhile (· != '\x7b')).drop 1).takeWhile (· != '\x7d')
  ((inside.splitOn ',').map fun name => wordOf (name.dropWhile (· == ' '))).filterMap fun name =>
    if name = "" then none else some ⟨.imported, name⟩

def placeOf : String → Option Place
  | "trait" => some .trait
  | "enum" => some .type
  | "struct" => some .type
  | "type" => some .type
  | _ => none

def itemIn (cs : List Char) : List Placed :=
  if wordOf cs = "use" then importedIn (behindWord cs)
  else if wordOf cs = "pub" then
    let kind := (behindWord cs).drop 1
    match placeOf (wordOf kind) with
    | some place => [⟨place, wordOf ((behindWord kind).drop 1)⟩]
    | none => []
  else []

-- A variant stands alone before its comma, and a field stands between `pub` and a colon.
def memberIn (cs : List Char) : List Placed :=
  match behindWord cs with
  | [','] => if wordOf cs = "" then [] else [⟨.variant, wordOf cs⟩]
  | ' ' :: rest =>
    if wordOf cs = "pub" ∧ (behindWord rest).head? = some ':' then [⟨.field, wordOf rest⟩] else []
  | _ => []

-- Members are indented by four blanks.
def placedIn : List Char → List Placed
  | ' ' :: ' ' :: ' ' :: ' ' :: rest => memberIn rest
  | line => itemIn line

def placed (text : String) : List Placed := (text.toList.splitOn '\n').flatMap placedIn

-- What the lines bring in, if none of them is broken.
structure Brings (lines : List String) (entries : List Placed) : Prop where
  unbroken : ∀ line ∈ lines, Unbroken line
  reads : lines.flatMap (placedIn ·.toList) = entries

section Lines
variable {lines others : List String} {entries more : List Placed}

theorem Brings.nil : Brings [] [] := ⟨nofun, rfl⟩

theorem Brings.append (first : Brings lines entries) (second : Brings others more) :
    Brings (lines ++ others) (entries ++ more) :=
  ⟨List.forall_mem_append.mpr ⟨first.unbroken, second.unbroken⟩, by
    rw [List.flatMap_append, first.reads, second.reads]⟩

theorem Brings.cons {line : String} (unbroken : Unbroken line)
    (reads : placedIn line.toList = entries) (rest : Brings lines more) :
    Brings (line :: lines) (entries ++ more) :=
  ⟨List.forall_mem_cons.mpr ⟨unbroken, rest.unbroken⟩, by
    rw [List.flatMap_cons, reads, rest.reads]⟩

-- A line that is fixed is read by running the reader.
theorem Brings.fixed {cs : List Char} (brings : '\n' ∉ cs ∧ placedIn cs = entries) :
    Brings [String.ofList cs] entries := by
  have line := Brings.cons (unbroken_ofList brings.1)
    (show placedIn (String.ofList cs).toList = entries by rw [String.toList_ofList, brings.2]) .nil
  rwa [List.append_nil] at line

theorem Brings.skip {cs : List Char} (silent : '\n' ∉ cs ∧ placedIn cs = [])
    (rest : Brings lines more) : Brings (String.ofList cs :: lines) more :=
  (Brings.fixed silent).append rest

theorem Brings.flatMap {values : List α} {block : α → List String} {brought : α → List Placed}
    (each : ∀ a ∈ values, Brings (block a) (brought a)) :
    Brings (values.flatMap block) (values.flatMap brought) := by
  induction values with
  | nil => exact .nil
  | cons a rest ih =>
    rw [List.flatMap_cons, List.flatMap_cons]
    exact (each a (List.mem_cons_self ..)).append
      (ih fun b inside => each b (List.mem_cons_of_mem _ inside))

theorem Brings.quiet (each : ∀ line ∈ lines, Unbroken line ∧ placedIn line.toList = []) :
    Brings lines [] :=
  ⟨fun line inside => (each line inside).1,
    List.flatMap_eq_nil_iff.mpr fun line inside => (each line inside).2⟩

theorem placed_joinLines (brings : Brings lines entries) : placed (joinLines lines) = entries := by
  obtain ⟨unbroken, reads⟩ := brings
  subst reads
  induction lines with
  | nil => decide
  | cons line rest ih =>
    rw [List.forall_mem_cons] at unbroken
    rw [placed, toList_joinLines_cons, List.splitOn_append_cons_self, List.flatMap_append,
      List.splitOn_eq_singleton unbroken.1, List.flatMap_singleton, List.flatMap_cons, ← ih unbroken.2]
    rfl

end Lines

section Words
variable {after : List Char}

theorem wordOf_append (name after : List Char) (chars : name.all isNameChar = true)
    (ends : after.head?.all (!isNameChar ·) = true) :
    wordOf (name ++ after) = String.ofList name ∧ behindWord (name ++ after) = after := by
  have known := List.all_eq_true.mp chars
  have stops : ∀ c ∈ after.head?, isNameChar c = false := by simpa [Option.all_eq_true] using ends
  rw [wordOf, behindWord, takeWhile_front known stops, dropWhile_front known stops]
  exact ⟨rfl, rfl⟩

theorem isNameChar_of_part {c : Char} (part : Naming.isNamePart c = true) : isNameChar c = true := by
  rw [isNameChar, Naming.isIdentifierPart_of_part part, Bool.true_or]

-- An identifier is read as far as it goes.
structure Readable (identifier : String) : Prop where
  chars : identifier.toList.all isNameChar = true
  some : identifier ≠ ""

theorem readable_name (name : Naming.IsName identifier) : Readable identifier := by
  refine ⟨List.all_eq_true.mpr fun c inside =>
    isNameChar_of_part (List.all_eq_true.mp (Naming.parts_of_name name) c inside), ?_⟩
  rintro rfl
  cases name

theorem readable_legal (legal : Naming.Legal identifier) : Readable identifier := by
  have words : ∀ keyword ∈ Source.keywords, ("r#" ++ keyword).toList.all isNameChar = true := by
    decide +kernel
  rcases legal with ⟨name, _⟩ | ⟨known, _, written⟩
  · exact readable_name name
  · refine ⟨written ▸ words _ known, ?_⟩
    rintro rfl
    have chars := congrArg String.toList written
    simp at chars

theorem Readable.unbroken (readable : Readable identifier) : Unbroken identifier := by
  intro there
  have char := List.all_eq_true.mp readable.chars _ there
  revert char
  decide +kernel

theorem Readable.word (readable : Readable identifier) (after : List Char)
    (ends : after.head?.all (!isNameChar ·) = true) :
    wordOf (identifier.toList ++ after) = identifier ∧
      behindWord (identifier.toList ++ after) = after := by
  have read := wordOf_append _ after readable.chars ends
  rwa [String.ofList_toList] at read

end Words

section Shapes
variable {identifier name : String} {front behind : List Char} {entries : List Placed}

theorem regroup (a b c d e : String) : a ++ b ++ c ++ d ++ e = a ++ b ++ (c ++ (d ++ e)) := by
  simp only [String.append_assoc]

-- Something between two literals, and perhaps more behind them.
theorem brings_line {rest : String} (first : '\n' ∉ front) (unbroken : Unbroken name)
    (last : '\n' ∉ behind) (others : Unbroken rest)
    (reads : placedIn (front ++ (name.toList ++ (behind ++ rest.toList))) = entries) :
    Brings [String.ofList front ++ name ++ (String.ofList behind ++ rest)] entries := by
  have whole : Unbroken (String.ofList front ++ name ++ (String.ofList behind ++ rest)) :=
    ((unbroken_ofList first).append unbroken).append ((unbroken_ofList last).append others)
  have read : placedIn (String.ofList front ++ name ++ (String.ofList behind ++ rest)).toList =
      entries := by
    rw [String.toList_append, String.toList_append, String.toList_append, String.toList_ofList,
      String.toList_ofList, List.append_assoc, reads]
  have line := Brings.cons whole read .nil
  rwa [List.append_nil] at line

theorem brings_around (first : '\n' ∉ front) (unbroken : Unbroken name) (last : '\n' ∉ behind)
    (reads : placedIn (front ++ (name.toList ++ behind)) = entries) :
    Brings [String.ofList front ++ name ++ String.ofList behind] entries := by
  have empty : Unbroken "" := nofun
  have read : placedIn (front ++ (name.toList ++ (behind ++ "".toList))) = entries := by
    rw [String.toList_empty, List.append_nil, reads]
  have line := brings_line first unbroken last empty read
  rwa [String.append_empty] at line

theorem placedIn_item (readable : Readable identifier) (kind : List Char)
    (known : kind.all isNameChar = true ∧ placeOf (String.ofList kind) = some place)
    (ends : behind.head?.all (!isNameChar ·) = true) :
    placedIn ('p' :: 'u' :: 'b' :: ' ' :: (kind ++ ' ' :: (identifier.toList ++ behind))) =
      [⟨place, identifier⟩] := by
  have blank : isNameChar ' ' = false := by decide +kernel
  have opening := wordOf_append ['p', 'u', 'b']
    (' ' :: (kind ++ ' ' :: (identifier.toList ++ behind))) (by decide +kernel) (by simp [blank])
  have sort := wordOf_append kind (' ' :: (identifier.toList ++ behind)) known.1 (by simp [blank])
  change itemIn (['p', 'u', 'b'] ++ _) = _
  rw [itemIn, opening.1, opening.2, if_neg (by decide), if_pos rfl]
  simp only [List.drop_succ_cons, List.drop_zero, sort, known.2, (readable.word behind ends).1]

theorem placedIn_variant (readable : Readable identifier) :
    placedIn (' ' :: ' ' :: ' ' :: ' ' :: (identifier.toList ++ [','])) =
      [⟨.variant, identifier⟩] := by
  have read := readable.word [','] (by decide +kernel)
  rw [placedIn, memberIn, read.2]
  simp only [read.1, if_neg readable.some]

theorem placedIn_field (readable : Readable identifier) (behind : List Char) :
    placedIn (' ' :: ' ' :: ' ' :: ' ' :: 'p' :: 'u' :: 'b' :: ' ' ::
      (identifier.toList ++ ':' :: behind)) = [⟨.field, identifier⟩] := by
  have blank : isNameChar ' ' = false := by decide +kernel
  have colon : isNameChar ':' = false := by decide +kernel
  have read := readable.word (':' :: behind) (by simp [colon])
  have opening := wordOf_append ['p', 'u', 'b']
    (' ' :: (identifier.toList ++ ':' :: behind)) (by decide +kernel) (by simp [blank])
  rw [placedIn]
  change memberIn (['p', 'u', 'b'] ++ _) = _
  rw [memberIn, opening.1, opening.2]
  simp only [read]
  rfl

theorem memberIn_sign {c : Char} (sign : isNameChar c = false) (others : c ≠ ' ' ∧ c ≠ ',')
    (rest : List Char) : memberIn (c :: rest) = [] := by
  have word : behindWord (c :: rest) = c :: rest := by simp [behindWord, sign]
  rw [memberIn, word]
  split
  · rename_i same
    cases same
    exact (others.2 rfl).elim
  · rename_i same
    cases same
    exact (others.1 rfl).elim
  · rfl

-- Documentation, attributes of members, what is indented further, and implementations.
def silentFronts : List (List Char) :=
  [['/'], [' ', ' ', ' ', ' ', '/'], [' ', ' ', ' ', ' ', '#', '['], [' ', ' ', ' ', ' ', ' '],
    ['i', 'm', 'p', 'l', ' ']]

theorem placedIn_silent (known : front ∈ silentFronts) (rest : List Char) :
    placedIn (front ++ rest) = [] := by
  have blank : isNameChar ' ' = false := by decide +kernel
  have slash : isNameChar '/' = false := by decide +kernel
  have bracket : isNameChar '[' = false := by decide +kernel
  simp only [silentFronts, List.mem_cons, List.not_mem_nil, or_false] at known
  rcases known with rfl | rfl | rfl | rfl | rfl
  · change itemIn ('/' :: rest) = []
    have word : wordOf ('/' :: rest) = "" := by simp [wordOf, slash]
    rw [itemIn, word]
    rfl
  · change memberIn ('/' :: rest) = []
    exact memberIn_sign slash (by decide) rest
  · change memberIn (['#'] ++ '[' :: rest) = []
    have opening := wordOf_append ['#'] ('[' :: rest) (by decide +kernel)
      (by simp [bracket])
    rw [memberIn, opening.2]
    rfl
  · change memberIn (' ' :: rest) = []
    have word : wordOf (' ' :: rest) = "" ∧ behindWord (' ' :: rest) = ' ' :: rest := by
      simp [wordOf, behindWord, blank]
    rw [memberIn, word.2]
    simp only [word.1]
    rfl
  · change itemIn (['i', 'm', 'p', 'l'] ++ ' ' :: rest) = []
    have opening := wordOf_append ['i', 'm', 'p', 'l'] (' ' :: rest)
      (by decide +kernel) (by simp [blank])
    rw [itemIn, opening.1]
    rfl

-- Whatever follows on the line, it brings nothing in.
structure Silent (front : String) : Prop where
  unbroken : Unbroken front
  reads : ∀ rest, placedIn (front.toList ++ rest) = []

theorem silent_ofList {cs : List Char}
    (plain : '\n' ∉ cs ∧ silentFronts.any (·.isPrefixOf cs) = true) : Silent (String.ofList cs) := by
  obtain ⟨front, known, starts⟩ := List.any_eq_true.mp plain.2
  obtain ⟨others, rfl⟩ := List.isPrefixOf_iff_prefix.mp starts
  refine ⟨unbroken_ofList plain.1, fun rest => ?_⟩
  rw [String.toList_ofList, List.append_assoc]
  exact placedIn_silent known _

theorem Silent.append {line rest : String} (silent : Silent line) (unbroken : Unbroken rest) :
    Silent (line ++ rest) := by
  refine ⟨silent.unbroken.append unbroken, fun more => ?_⟩
  rw [String.toList_append, List.append_assoc]
  exact silent.reads _

theorem Silent.placedIn {line : String} (silent : Silent line) : placedIn line.toList = [] := by
  simpa using silent.reads []

theorem Silent.brings {line : String} (silent : Silent line) : Brings [line] [] :=
  .quiet (List.forall_mem_singleton.mpr ⟨silent.unbroken, silent.placedIn⟩)

theorem silent_around {front : List Char}
    (plain : '\n' ∉ front ∧ silentFronts.any (·.isPrefixOf front) = true)
    (unbroken : Unbroken name) (last : '\n' ∉ behind) :
    Brings [String.ofList front ++ name ++ String.ofList behind] [] :=
  (((silent_ofList plain).append unbroken).append (unbroken_ofList last)).brings

end Shapes

section Blocks

theorem brings_docLines (indent : String) (text : String) (silent : Silent (indent ++ "///")) :
    Brings (docLines indent text) [] := by
  refine .quiet fun line inside => ?_
  obtain ⟨chars, there, rfl⟩ := List.mem_map.mp inside
  have kept : Unbroken (String.ofList (Text.trimEnd chars)) :=
    unbroken_ofList (Text.noBreak_trimEnd (Text.noBreak_lines there))
  have spaced : Silent (indent ++ "/// ") := by
    rw [← show indent ++ "///" ++ " " = indent ++ "/// " from String.append_assoc]
    exact silent.append (unbroken_ofList (by decide))
  dsimp only
  split
  · exact ⟨silent.unbroken, silent.placedIn⟩
  · exact ⟨(spaced.append kept).unbroken, (spaced.append kept).placedIn⟩

theorem brings_headLines (unbroken : Unbroken name) (description : Option String) :
    Brings (headLines name description) [] := by
  have named : Silent ("/// " ++ name) := (silent_ofList (by decide)).append unbroken
  refine named.brings.append ?_
  cases description with
  | none => exact .nil
  | some text =>
    have slashes : Silent ("" ++ "///") := by
      rw [String.empty_append]
      exact silent_ofList (by decide)
    exact .skip (by decide) (brings_docLines "" text slashes)

theorem brings_documentation (description : Option String) :
    Brings (match description with
      | some text => docLines "    " text
      | none => []) [] := by
  cases description with
  | none => exact .nil
  | some text =>
    have slashes : Silent ("    " ++ "///") := by
      rw [show "    " ++ "///" = "    ///" from rfl]
      exact silent_ofList (by decide)
    exact brings_docLines "    " text slashes

theorem brings_variantLines {variant : String} (value : EnumValue) (readable : Readable variant) :
    Brings (variantLines value variant) [⟨.variant, variant⟩] := by
  have deprecated : Brings (if value.isDeprecated then ["    /// Deprecated."] else []) [] := by
    split
    · exact .skip (by decide) .nil
    · exact .nil
  have renamed : Brings ["    #[serde(rename = " ++ Text.Quoted.encode value.name ++ ")]"] [] :=
    silent_around (by decide) (Text.Quoted.noBreak_encode _) (by decide)
  have own : Brings ["    " ++ variant ++ ","] [⟨.variant, variant⟩] :=
    brings_around (by decide) readable.unbroken (by decide) (placedIn_variant readable)
  exact ((brings_documentation value.description).append deprecated).append (renamed.append own)

theorem silent_armLine {variant : String} (value : EnumValue) (unbroken : Unbroken variant) :
    Silent (armLine value variant) := by
  have arm : Silent ("            Self::" ++ variant ++ " => ") :=
    ((silent_ofList (by decide)).append unbroken).append (unbroken_ofList (by decide))
  have whole := arm.append (Text.Quoted.noBreak_encode value.name)
  exact whole.append (unbroken_ofList (by decide))

theorem brings_enumBlock {decl : EnumDecl} (name : Naming.IsName decl.name)
    (values : ∀ value ∈ decl.values, Naming.IsName value.name) :
    Brings (enumBlock decl) (⟨.type, decl.name⟩ ::
      decl.identifiers.map (⟨.variant, ·⟩)) := by
  have readable := readable_name name
  have variant : ∀ value ∈ decl.values,
      Readable (Naming.enumValueIdentifier decl.name value.name) := fun value inside =>
    readable_name (Naming.isName_enumValueIdentifier name (values value inside))
  have head : Brings (headLines decl.name decl.description ++
      ["#[derive(Debug, Clone, Copy, PartialEq, Eq, Hash, Serialize, Deserialize)]"]) [] :=
    (brings_headLines readable.unbroken decl.description).append (.skip (by decide +kernel) .nil)
  have opening : Brings ["pub enum " ++ decl.name ++ " \x7b"] [⟨.type, decl.name⟩] :=
    brings_around (by decide) readable.unbroken (by decide)
      (placedIn_item readable ['e', 'n', 'u', 'm'] (by decide +kernel) (by decide +kernel))
  have variants : Brings (decl.values.flatMap (variantBlock decl.name))
      (decl.identifiers.map (⟨.variant, ·⟩)) := by
    rw [EnumDecl.identifiers, List.map_map, List.map_eq_flatMap]
    exact .flatMap fun value inside => brings_variantLines value (variant value inside)
  have own : Brings ["impl " ++ decl.name ++ " \x7b"] [] :=
    silent_around (by decide) readable.unbroken (by decide)
  have display : Brings ["impl std::fmt::Display for " ++ decl.name ++ " \x7b"] [] :=
    silent_around (by decide) readable.unbroken (by decide)
  have between : Brings (["\x7d", ""] ++ ["impl " ++ decl.name ++ " \x7b"] ++
      ["    /// Returns the value as sent on the wire.",
       "    #[must_use]",
       "    pub const fn as_str(&self) -> &'static str \x7b",
       "        match *self \x7b"]) [] := by
    refine (Brings.append (.skip ?_ (.skip ?_ .nil)) own).append
      (.skip ?_ (.skip ?_ (.skip ?_ (.skip ?_ .nil))))
    all_goals decide +kernel
  have arms : Brings (decl.values.map (valueArm decl.name)) [] := .quiet fun line inside => by
    obtain ⟨value, there, rfl⟩ := List.mem_map.mp inside
    have arm := silent_armLine value (variant value there).unbroken
    exact ⟨arm.unbroken, arm.placedIn⟩
  have behind : Brings (["        \x7d", "    \x7d", "\x7d", ""] ++
      ["impl std::fmt::Display for " ++ decl.name ++ " \x7b"] ++
      ["    fn fmt(&self, f: &mut std::fmt::Formatter<'_>) -> std::fmt::Result \x7b",
       "        f.write_str(self.as_str())",
       "    \x7d",
       "\x7d",
       ""]) [] := by
    refine (Brings.append (.skip ?_ (.skip ?_ (.skip ?_ (.skip ?_ .nil)))) display).append
      (.skip ?_ (.skip ?_ (.skip ?_ (.skip ?_ (.skip ?_ .nil)))))
    all_goals decide +kernel
  rw [enumBlock_eq]
  have all := ((((head.append opening).append variants).append between).append arms).append behind
  simpa using all

theorem brings_fieldBlock (name : Naming.IsName field.name) (leaf : Unbroken field.type.leaf.2) :
    Brings (fieldBlock field) [⟨.field, Naming.fieldIdentifier field.name⟩] := by
  have readable := readable_legal (Naming.legal_fieldIdentifier name)
  have type : Unbroken (boundField field).expr.text := by
    apply unbroken_text
    rw [leafName_boundField]
    exact unbroken_boundName leaf
  have tier : Brings [if (boundField field).required then "    /// (Required.)"
      else "    /// (Optional.)"] [] := by
    split
    · exact .skip (by decide) .nil
    · exact .skip (by decide) .nil
  have documented : Brings (match field.description with
      | some text => "    ///" :: docLines "    " text
      | none => []) [] := by
    cases described : field.description with
    | none => exact .nil
    | some text => exact .skip (by decide) (brings_documentation (some text))
  have renamed : Brings [renameLine field.name (boundField field).required] [] := by
    have quoted : Unbroken (Text.Quoted.encode field.name) := Text.Quoted.noBreak_encode field.name
    rw [renameLine]
    split
    · exact silent_around (by decide) quoted (by decide)
    · exact silent_around (by decide) quoted (by decide)
  have own : Brings ["    pub " ++ Naming.fieldIdentifier field.name ++ ": " ++
      (boundField field).expr.text ++ ","] [⟨.field, Naming.fieldIdentifier field.name⟩] := by
    rw [regroup]
    refine brings_line (by decide) readable.unbroken (by decide)
      (type.append (unbroken_ofList (by decide))) ?_
    simp only [List.cons_append, List.nil_append]
    exact placedIn_field readable _
  exact (tier.append documented).append (renamed.append own)

theorem brings_inputBlock {decl : InputDecl} (name : Naming.IsName decl.name)
    (fields : ∀ field ∈ decl.fields, Naming.IsName field.name ∧ Unbroken field.type.leaf.2) :
    Brings (inputBlock decl) (⟨.type, decl.name⟩ :: decl.identifiers.map (⟨.field, ·⟩)) := by
  have readable := readable_name name
  have head : Brings (headLines decl.name decl.description ++ [deriveLine decl]) [] := by
    refine (brings_headLines readable.unbroken decl.description).append ?_
    rw [deriveLine]
    split
    · exact .skip (by decide +kernel) .nil
    · exact .skip (by decide +kernel) .nil
  have opening : Brings ["pub struct " ++ decl.name ++ " \x7b"] [⟨.type, decl.name⟩] :=
    brings_around (by decide) readable.unbroken (by decide)
      (placedIn_item readable ['s', 't', 'r', 'u', 'c', 't'] (by decide +kernel) (by decide +kernel))
  have members : Brings (decl.fields.flatMap fieldBlock) (decl.identifiers.map (⟨.field, ·⟩)) := by
    rw [InputDecl.identifiers, List.map_map, List.map_eq_flatMap]
    exact .flatMap fun field inside =>
      brings_fieldBlock (fields field inside).1 (fields field inside).2
  have marked : Brings ["impl Input for " ++ decl.name ++ " \x7b\x7d"] [] :=
    silent_around (by decide) readable.unbroken (by decide)
  have behind : Brings (["\x7d", ""] ++ ["impl Input for " ++ decl.name ++ " \x7b\x7d"] ++ [""]) [] :=
    (Brings.append (.skip (by decide +kernel) (.skip (by decide +kernel) .nil)) marked).append
      (.skip (by decide +kernel) .nil)
  rw [inputBlock_eq]
  have all := ((head.append opening).append members).append behind
  simpa using all

theorem brings_wrapperLines (name : Naming.IsName typeName) :
    Brings (wrapperLines typeName) [⟨.type, typeName⟩] := by
  have readable := readable_name name
  have own : Brings ["impl " ++ typeName ++ " \x7b"] [] :=
    silent_around (by decide) readable.unbroken (by decide)
  have made : Brings ["impl From<String> for " ++ typeName ++ " \x7b"] [] :=
    silent_around (by decide) readable.unbroken (by decide)
  have opening : Brings ["pub struct " ++ typeName ++ "(pub String);"] [⟨.type, typeName⟩] :=
    brings_around (by decide) readable.unbroken (by decide)
      (placedIn_item readable ['s', 't', 'r', 'u', 'c', 't'] (by decide +kernel) (by decide +kernel))
  have accessor : Brings ["    /// Returns the encoded text.",
      "    #[must_use]",
      "    pub fn as_str(&self) -> &str \x7b",
      "        &self.0",
      "    \x7d",
      "\x7d",
      ""] [] := by
    refine .skip ?_ (.skip ?_ (.skip ?_ (.skip ?_ (.skip ?_ (.skip ?_ (.skip ?_ .nil))))))
    all_goals decide +kernel
  have conversion : Brings ["    fn from(value: String) -> Self \x7b",
      "        Self(value)",
      "    \x7d",
      "\x7d",
      ""] [] := by
    refine .skip ?_ (.skip ?_ (.skip ?_ (.skip ?_ (.skip ?_ .nil))))
    all_goals decide +kernel
  have head : Brings [
      "#[derive(Debug, Clone, Default, PartialEq, Eq, Hash, PartialOrd, Ord, Serialize, Deserialize)]",
      "#[serde(transparent)]"] [] := .skip (by decide +kernel) (.skip (by decide +kernel) .nil)
  have blank : Brings [""] [] := .skip (by decide +kernel) .nil
  rw [wrapperLines_eq]
  exact (head.append opening).append
    ((((blank.append own).append accessor).append made).append conversion)

theorem brings_scalarLines {decl : ScalarDecl} (name : Naming.IsName decl.name) :
    Brings (scalarLines decl) [⟨.type, decl.name⟩] := by
  have readable := readable_name name
  refine (brings_headLines readable.unbroken _).append ?_
  cases represented : representation decl.name with
  | wrapped => exact brings_wrapperLines name
  | «alias» target =>
    have line : Brings ["pub type " ++ decl.name ++ (" = " ++ (target ++ ";"))]
        [⟨.type, decl.name⟩] :=
      brings_line (by decide) readable.unbroken (by decide)
        ((unbroken_target represented).append (unbroken_ofList (by decide)))
        (placedIn_item readable ['t', 'y', 'p', 'e'] (by decide +kernel) (by
          simp [show isNameChar ' ' = false by decide +kernel]))
    have blank : Brings [""] [] := .skip (by decide +kernel) .nil
    dsimp only
    rw [regroup]
    exact line.append blank

end Blocks
end Binding

-- The declarations have names as the language of schemas asks for.
structure Declarations.Named (decls : Declarations) : Prop where
  enums : ∀ decl ∈ decls.enums, Naming.IsName decl.name ∧
    ∀ value ∈ decl.values, Naming.IsName value.name
  inputs : ∀ decl ∈ decls.inputs, Naming.IsName decl.name ∧
    ∀ field ∈ decl.fields, Naming.IsName field.name ∧ Naming.IsName field.type.leaf.2
  scalars : ∀ decl ∈ decls.scalars, Naming.IsName decl.name

instance (decls : Declarations) : Decidable decls.Named :=
  decidable_of_iff ((∀ decl ∈ decls.enums, Naming.IsName decl.name ∧
        ∀ value ∈ decl.values, Naming.IsName value.name) ∧
      (∀ decl ∈ decls.inputs, Naming.IsName decl.name ∧
        ∀ field ∈ decl.fields, Naming.IsName field.name ∧ Naming.IsName field.type.leaf.2) ∧
      ∀ decl ∈ decls.scalars, Naming.IsName decl.name)
    ⟨fun ⟨enums, inputs, scalars⟩ => ⟨enums, inputs, scalars⟩,
      fun ⟨enums, inputs, scalars⟩ => ⟨enums, inputs, scalars⟩⟩

namespace Binding
section Texts
variable {decls : Declarations}

-- What every text imports.
def imports : List Placed := [⟨.imported, "Deserialize"⟩, ⟨.imported, "Serialize"⟩]

theorem brings_imports : Brings ["use serde::\x7bDeserialize, Serialize\x7d;"] imports :=
  .fixed (by decide +kernel)

theorem placed_enumsText (named : decls.Named) (made : enumsText decls = .ok text) :
    placed text = imports ++ decls.enums.flatMap fun decl =>
      ⟨.type, decl.name⟩ :: decl.identifiers.map (⟨.variant, ·⟩) := by
  have head : Brings enumsHead imports :=
    .skip (by decide +kernel) (.skip (by decide +kernel)
      (brings_imports.append (.skip (by decide +kernel) .nil)))
  rw [enumsText_sound ((enumsText_decided decls).ok_iff.mp ⟨text, made⟩)] at made
  cases made
  exact placed_joinLines (head.append (.flatMap fun decl declared =>
    brings_enumBlock (named.enums decl declared).1 (named.enums decl declared).2))

theorem brings_markerLines (names : ∀ decl ∈ decls.inputs, Naming.IsName decl.name) :
    Brings (markerLines decls) [⟨.trait, "Input"⟩] := by
  have joined : Unbroken (", ".intercalate decls.inputNames) := by
    refine unbroken_intercalate (unbroken_ofList (by decide)) fun name inside => ?_
    obtain ⟨decl, declared, rfl⟩ := List.mem_map.mp inside
    exact (readable_name (names decl declared)).unbroken
  have listed : Brings ["/// " ++ ", ".intercalate decls.inputNames ++ "."] [] :=
    silent_around (by decide) joined (by decide)
  have marker : Brings ["pub trait Input: Serialize \x7b\x7d"] [⟨.trait, "Input"⟩] :=
    .fixed (by decide +kernel)
  exact .skip (by decide +kernel) (.skip (by decide +kernel)
    (listed.append (marker.append (.skip (by decide +kernel) .nil))))

theorem placed_inputsText (named : decls.Named) (made : inputsText decls = .ok text) :
    placed text = imports ++ ⟨.trait, "Input"⟩ :: decls.inputs.flatMap fun decl =>
      ⟨.type, decl.name⟩ :: decl.identifiers.map (⟨.field, ·⟩) := by
  have head : Brings ["#![allow(unused_imports)]", "", "use serde::\x7bDeserialize, Serialize\x7d;", "",
      "use super::*;", ""] imports := by
    refine .skip ?_ (.skip ?_ (brings_imports.append (.skip ?_ (.skip ?_ (.skip ?_ .nil)))))
    all_goals decide +kernel
  have marker := brings_markerLines fun decl declared => (named.inputs decl declared).1
  have blocks := Brings.flatMap fun decl declared =>
    brings_inputBlock (named.inputs decl declared).1 fun field there =>
      ⟨((named.inputs decl declared).2 field there).1,
        (readable_name ((named.inputs decl declared).2 field there).2).unbroken⟩
  rw [inputsText_sound ((inputsText_decided decls).ok_iff.mp ⟨text, made⟩)] at made
  cases made
  have all := placed_joinLines ((head.append marker).append blocks)
  rwa [List.append_assoc] at all

theorem placed_scalarsText (named : decls.Named) :
    placed (scalarsText decls) = imports ++
      (decls.scalars.filter fun decl => !isBuiltinScalar decl.name).map (⟨.type, ·.name⟩) := by
  have head : Brings ["#![allow(unused_imports)]", "",
      "use serde::\x7bDeserialize, Serialize\x7d;", ""] imports :=
    .skip (by decide +kernel) (.skip (by decide +kernel)
      (brings_imports.append (.skip (by decide +kernel) .nil)))
  rw [List.map_eq_flatMap]
  exact placed_joinLines (head.append (.flatMap fun decl there =>
    brings_scalarLines (named.scalars decl (List.mem_of_mem_filter there))))

end Texts
end Binding
end SchemaBindings
