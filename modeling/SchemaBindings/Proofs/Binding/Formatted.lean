import SchemaBindings.Proofs.Binding.EnumItems
import SchemaBindings.Proofs.Binding.InputItems
import SchemaBindings.Proofs.Binding.ScalarItems

namespace SchemaBindings
open Source

namespace Declarations

-- The types that are declared, and those that the fields refer to.
def typeNames (decls : Declarations) : List String :=
  decls.enums.map (·.name) ++ decls.inputs.map (·.name) ++ decls.scalars.map (·.name) ++
  decls.inputs.flatMap fun decl => decl.fields.map (·.type.leaf.2)

def descriptions (decls : Declarations) : List String :=
  (decls.enums.flatMap fun decl =>
    decl.description.toList ++ decl.values.flatMap (·.description.toList)) ++
  (decls.inputs.flatMap fun decl =>
    decl.description.toList ++ decl.fields.flatMap (·.description.toList)) ++
  decls.scalars.flatMap (·.description.toList)

end Declarations

namespace Binding
open Source.Lexeme

-- The reason why a text could not be laid out stands below the preamble.
def GeneratedFile.TellsFault (file : GeneratedFile) : Prop :=
  (preamble ++ "\n// format error: ").toList <+: file.content.toList

section Texts
variable {lines : List String}

theorem ofItems_imports : OfItems ["", "use serde::\x7bDeserialize, Serialize\x7d;", ""] := by
  let item : List Token := plain "use" :: plain "serde" :: (sign [':', ':'] ++
    [.group .curly [plain "Deserialize", comma, plain "Serialize"], semicolon])
  have line : LexedLines ["use serde::\x7bDeserialize, Serialize\x7d;"] (flattenAll item) :=
    .fixed (fun _ => rfl) (by decide)
  have lexed := lexed_empty.append (line.append lexed_empty)
  rw [List.append_nil] at lexed
  exact .one lexed fun _ _ _ _ => readsItem_word fun _ => ⟨_, rfl⟩

theorem ofItems_siblings : OfItems ["use super::*;", ""] := by
  let item : List Token := plain "use" :: plain "super" :: sign [':', ':', '*', ';']
  have line : LexedLines ["use super::*;"] (flattenAll item) := .fixed (fun _ => rfl) (by decide)
  have lexed := line.append lexed_empty
  rw [List.append_nil] at lexed
  exact .one lexed fun _ _ _ _ => readsItem_word fun _ => ⟨_, rfl⟩

-- A text of one attribute and items is long enough for what its items need.
theorem canonical_items {source : String} {content : List Token} {items : List (List Token)}
    (starts : source.toList = '#' :: '!' :: '[' :: rest) (long : 25 ≤ rest.length)
    (lexed : Solid source.toList
      (flattenAll ([.mark '#' true, .mark '!' false, .group .square content] ++ items.flatten)))
    (said : ∀ grammar room, Passes (attributeContent grammar) content (room + 1) [])
    (reads : ∀ item ∈ items, Reads item) :
    ∃ text, canonical source = .ok text ∧ "#![".toList <+: text.toList := by
  have read : Token.read source.toList =
      some (.mark '#' true :: .mark '!' false :: .group .square content :: items.flatten) := by
    have all := lexed.reads []
    rw [List.append_nil] at all
    refine Token.read_eq all lexed.short ?_
    rw [starts]
    rfl
  have short : (flattenAll items.flatten).length ≤ source.toList.length := by
    have whole := lexed.short
    rw [flattenAll_append, List.length_append] at whole
    omega
  obtain ⟨spare, same⟩ : ∃ spare, source.toList.length = spare + 28 := by
    rw [starts]
    simp only [List.length_cons]
    exact ⟨rest.length - 25, by omega⟩
  have each : ∀ item ∈ items,
      ReadsItem (4 * (source.toList.length + 2)) (source.toList.length + 2) item := by
    intro item inside
    have room := (flattenAll_item_le inside).trans short
    rw [same] at room ⊢
    rw [show 4 * (spare + 28 + 2) = (4 * spare + 111) + 9 by omega]
    exact reads item inside _ _ (by omega) (by omega)
  have count : items.length ≤ source.toList.length :=
    (length_items_le fun item inside => (each item inside).some).trans short
  exact canonical_made starts read said each (by omega)

-- What every text begins with.
def fileTokens (lint : List Token) : List Token :=
  [.mark '#' true, .mark '!' false, .group .square [plain "allow", .group .round lint]]

-- A text that begins with an attribute names no interpreter, and begins with no byte order mark.
theorem canonical_stuck {source : String} (starts : source.toList = '#' :: '!' :: '[' :: rest)
    (stuck : Stuck source.toList) : canonical source = .error .unreadable := by
  have split : splitInterpreter (Token.dropByteOrderMark source.toList) = (none, source.toList) := by
    rw [starts]
    rfl
  have unread : Token.read source.toList = none := by
    have whole : Token.dropByteOrderMark source.toList = source.toList := by
      rw [starts]
      rfl
    rw [Token.read, whole, scan, stuck, Option.bind_none]
  simp only [canonical, fileLayout, split, unread]
  rfl

-- The text is laid out if it is tame, and otherwise cannot even be taken apart.
structure LaidOutWhen (tame : Prop) (source : String) : Prop where
  made : tame → ∃ text, canonical source = .ok text ∧ "#![".toList <+: text.toList
  refused : ¬tame → canonical source = .error .unreadable

theorem laidOut_lines {tame : Prop} {first : List Char} {lint : List Token}
    (opening : LexedLines [String.ofList ('#' :: '!' :: '[' :: first)] (flattenAll (fileTokens lint)))
    (made : OfItemsWhen tame lines) :
    LaidOutWhen tame (joinLines (String.ofList ('#' :: '!' :: '[' :: first) ::
      (["", "use serde::\x7bDeserialize, Serialize\x7d;", ""] ++ lines))) := by
  obtain ⟨items, others, reads⟩ := ofItems_imports.before made
  have lexed := opening.before others
  rw [← flattenAll_append] at lexed
  have starts := toList_joinLines_cons (String.ofList ('#' :: '!' :: '[' :: first))
    (["", "use serde::\x7bDeserialize, Serialize\x7d;", ""] ++ lines)
  simp only [String.toList_ofList, List.cons_append] at starts
  refine ⟨fun holds => ?_, fun wild => ?_⟩
  · refine canonical_items starts ?_ (lexed.lexed holds) (fun _ _ => ⟨_, rfl⟩) reads
    have long : 25 ≤ "use serde::\x7bDeserialize, Serialize\x7d;".toList.length := by decide
    simp only [toList_joinLines_cons, List.length_append, List.length_cons]
    omega
  · have stuck := lexed.falters wild []
    rw [List.append_nil] at stuck
    exact canonical_stuck starts stuck

theorem laidOut_enums {decls : Declarations} (named : decls.Named)
    (free : ∀ decl ∈ decls.enums, isKeyword decl.name = false) :
    LaidOutWhen (∀ decl ∈ decls.enums, decl.Tame)
      (joinLines (enumsHead ++ decls.enums.flatMap enumBlock)) := by
  have opening : LexedLines ["#![allow(clippy::enum_variant_names)]"]
      (flattenAll (fileTokens
        (plain "clippy" :: (sign [':', ':'] ++ [plain "enum_variant_names"])))) :=
    .fixed (fun _ => rfl) (by decide)
  refine laidOut_lines opening (.flatMap fun decl declared => ?_)
  obtain ⟨name, values⟩ := named.enums decl declared
  exact ofItems_enumBlock name (free decl declared) values

theorem canonical_enums {decls : Declarations} (named : decls.Named)
    (free : ∀ decl ∈ decls.enums, isKeyword decl.name = false)
    (bare : ∀ decl ∈ decls.enums, (∀ text ∈ decl.description, '\r' ∉ text.toList) ∧
      ∀ value ∈ decl.values, ∀ text ∈ value.description, '\r' ∉ text.toList) :
    ∃ text, canonical (joinLines (enumsHead ++ decls.enums.flatMap enumBlock)) = .ok text ∧
      "#![".toList <+: text.toList := by
  refine (laidOut_enums named free).made fun decl declared => ?_
  obtain ⟨described, documented⟩ := bare decl declared
  exact ⟨tame_of_bare described, fun value inside => tame_of_bare (documented value inside)⟩

theorem lexed_unusedImports : LexedLines ["#![allow(unused_imports)]"]
    (flattenAll (fileTokens [plain "unused_imports"])) := .fixed (fun _ => rfl) (by decide)

theorem laidOut_inputs {decls : Declarations} (named : decls.Named)
    (free : ∀ decl ∈ decls.inputs, isKeyword decl.name = false)
    (leaves : ∀ decl ∈ decls.inputs, ∀ field ∈ decl.fields, isKeyword field.type.leaf.2 = false) :
    LaidOutWhen (∀ decl ∈ decls.inputs, decl.Tame)
      (joinLines (inputsHead decls ++ decls.inputs.flatMap inputBlock)) := by
  have blocks : OfItemsWhen (∀ decl ∈ decls.inputs, decl.Tame)
      (decls.inputs.flatMap inputBlock) := by
    refine .flatMap fun decl declared => ?_
    obtain ⟨name, fields⟩ := named.inputs decl declared
    exact ofItems_inputBlock name (free decl declared)
      (fun field there => (fields field there).1)
      (fun field there => ⟨(fields field there).2, leaves decl declared field there⟩)
  have marker := ofItems_markerLines fun decl declared => (named.inputs decl declared).1
  exact laidOut_lines lexed_unusedImports ((ofItems_siblings.append marker).before blocks)

theorem canonical_inputs {decls : Declarations} (named : decls.Named)
    (free : ∀ decl ∈ decls.inputs, isKeyword decl.name = false)
    (leaves : ∀ decl ∈ decls.inputs, ∀ field ∈ decl.fields, isKeyword field.type.leaf.2 = false)
    (bare : ∀ decl ∈ decls.inputs, (∀ text ∈ decl.description, '\r' ∉ text.toList) ∧
      ∀ field ∈ decl.fields, ∀ text ∈ field.description, '\r' ∉ text.toList) :
    ∃ text, canonical (joinLines (inputsHead decls ++ decls.inputs.flatMap inputBlock)) = .ok text ∧
      "#![".toList <+: text.toList := by
  refine (laidOut_inputs named free leaves).made fun decl declared => ?_
  obtain ⟨described, documented⟩ := bare decl declared
  exact ⟨tame_of_bare described, fun field inside => tame_of_bare (documented field inside)⟩

-- Only the scalars that are no builtin ones are written.
theorem laidOut_scalars {decls : Declarations} (named : decls.Named)
    (free : ∀ decl ∈ decls.scalars, isKeyword decl.name = false) :
    LaidOutWhen (∀ decl ∈ decls.scalars.filter fun decl => !isBuiltinScalar decl.name,
      Tame decl.description) (scalarsText decls) := by
  refine laidOut_lines lexed_unusedImports (.flatMap fun decl there => ?_)
  have declared := List.mem_of_mem_filter there
  exact ofItems_scalarLines (named.scalars decl declared) (free decl declared)

theorem canonical_scalars {decls : Declarations} (named : decls.Named)
    (free : ∀ decl ∈ decls.scalars, isKeyword decl.name = false)
    (bare : ∀ decl ∈ decls.scalars, ∀ text ∈ decl.description, '\r' ∉ text.toList) :
    ∃ text, canonical (scalarsText decls) = .ok text ∧ "#![".toList <+: text.toList :=
  (laidOut_scalars named free).made fun decl there =>
    tame_of_bare (bare decl (List.mem_of_mem_filter there))

theorem render_canonical {name body text : String} (laid : canonical body = .ok text) :
    GeneratedFile.render name body = ⟨name, preamble ++ "\n" ++ text, none⟩ := by
  rw [GeneratedFile.render, laid]

-- A text that begins with an attribute does not begin with a comment.
theorem not_tellsFault {name text : String} (front : "#![".toList <+: text.toList) :
    ¬GeneratedFile.TellsFault ⟨name, preamble ++ "\n" ++ text, none⟩ := by
  obtain ⟨others, same⟩ := front
  intro told
  rw [GeneratedFile.TellsFault] at told
  simp only [String.append_assoc, String.toList_append, List.prefix_append_right_inj, ← same] at told
  exact absurd (List.cons_prefix_cons.mp (List.cons_prefix_cons.mp told).2).1 (by decide)

end Texts

-- Whatever is generated can be laid out, so no file has a reason below its preamble.
theorem generate_formatted (named : decls.Named)
    (free : ∀ name ∈ decls.typeNames, isKeyword name = false)
    (bare : ∀ text ∈ decls.descriptions, '\r' ∉ text.toList) (made : generate decls = .ok files) :
    ∃ enumsBody inputsBody enums inputs scalars,
      enumsText decls = .ok enumsBody ∧ inputsText decls = .ok inputsBody ∧
      canonical enumsBody = .ok enums ∧ canonical inputsBody = .ok inputs ∧
      canonical (scalarsText decls) = .ok scalars ∧
      files = [⟨enumsFile, preamble ++ "\n" ++ enums, none⟩,
        ⟨inputsFile, preamble ++ "\n" ++ inputs, none⟩,
        ⟨scalarsFile, preamble ++ "\n" ++ scalars, none⟩] ∧
      ∀ file ∈ files, file.formatted = true ∧ ¬file.TellsFault := by
  simp only [Declarations.typeNames, Declarations.descriptions, List.forall_mem_append,
    List.forall_mem_map, List.forall_mem_flatMap, Option.mem_toList] at free bare
  obtain ⟨⟨⟨enumNames, inputNames⟩, scalarNames⟩, leaves⟩ := free
  obtain ⟨⟨enumTexts, inputTexts⟩, scalarTexts⟩ := bare
  obtain ⟨enums, laidEnums, frontEnums⟩ := canonical_enums named enumNames enumTexts
  obtain ⟨inputs, laidInputs, frontInputs⟩ := canonical_inputs named inputNames leaves inputTexts
  obtain ⟨scalars, laidScalars, frontScalars⟩ := canonical_scalars named scalarNames scalarTexts
  have sound := (generate_decided decls).ok_iff.mp ⟨files, made⟩
  rw [generate_sound sound, render_canonical laidEnums, render_canonical laidInputs,
    render_canonical laidScalars] at made
  cases made
  refine ⟨_, _, enums, inputs, scalars, enumsText_sound sound.enums, inputsText_sound sound.inputs,
    laidEnums, laidInputs, laidScalars, rfl, ?_⟩
  simp only [List.forall_mem_cons]
  exact ⟨⟨rfl, not_tellsFault frontEnums⟩, ⟨rfl, not_tellsFault frontInputs⟩,
    ⟨rfl, not_tellsFault frontScalars⟩, nofun⟩

-- No values, no fields, words that fields share with the language, and types in types.
def corners : Declarations where
  enums := [⟨"Hue", some "line\n\n// format error", []⟩,
    ⟨"Shade", none, [⟨"_", some "dark", true⟩]⟩]
  inputs := [⟨"Blank", none, [], []⟩,
    ⟨"Filter", some "with \"quotes\"",
      [⟨"type", some "kept raw", .nonNull (.named .inputObject "Filter")⟩],
      [⟨"_", none, .list (.list (.nonNull (.named .enumeration "Hue")))⟩]⟩]
  scalars := [⟨"Date", none⟩, ⟨"Int", none⟩, ⟨"Map", none⟩, ⟨"Upload", some ""⟩]

theorem generate_formatted_corners :
    ∃ files, generate corners = .ok files ∧ files.length = 3 ∧
      ∀ file ∈ files, file.formatted = true ∧ ¬file.TellsFault := by
  have sound : corners.Sound := by decide +kernel
  obtain ⟨files, made⟩ := (generate_decided corners).ok_iff.mpr sound
  obtain ⟨_, _, _, _, _, _, _, _, _, _, same, formatted⟩ :=
    generate_formatted (by decide +kernel) (by decide +kernel) (by decide +kernel) made
  exact ⟨files, made, same ▸ rfl, formatted⟩

end Binding

instance (cs : List Char) : Decidable (Text.StrayReturn cs) :=
  decidable_of_iff _ (Text.stray_iff cs).symm

instance (description : Option String) : Decidable (Tame description) :=
  match description with
  | none => isTrue Binding.tame_none
  | some _ => decidable_of_iff _ Binding.tame_some.symm

instance (decl : EnumDecl) : Decidable decl.Tame :=
  inferInstanceAs (Decidable (_ ∧ ∀ value ∈ decl.values, SchemaBindings.Tame value.description))

instance (decl : InputDecl) : Decidable decl.Tame :=
  inferInstanceAs (Decidable (_ ∧ ∀ field ∈ decl.fields, SchemaBindings.Tame field.description))

namespace Binding

-- How a line of a description is written.
inductive Documented (indent : String) : List Char → String → Prop where
  | blank {line : List Char} (gap : ∀ c ∈ line, Text.isBlank c = true) :
      Documented indent line (indent ++ "///")
  | said (solid : Text.isBlank c = false) (gap : ∀ d ∈ behind, Text.isBlank d = true) :
      Documented indent (front ++ c :: behind) (indent ++ "/// " ++ String.ofList (front ++ [c]))

-- A row for each line of the text, each of them one line of what is written, with its end.
structure DocumentedBy (indent text : String) (rows : List String) : Prop where
  lines : ∃ all, (∀ others, Text.Broken text.toList others ↔ others = all) ∧
    List.Forall₂ (Documented indent) all rows
  written : Text.Broken (joinLines rows).toList (rows.map (·.toList))
  ended : rows ≠ [] → (joinLines rows).toList.getLast? = some '\n'
  returns : (∃ row ∈ rows, '\r' ∈ row.toList) ↔ Text.StrayReturn text.toList

section Rows
variable {indent text row : String} {line : List Char} {rows : List String}

def docRow (indent : String) (line : List Char) : String :=
  if (Text.trimEnd line).isEmpty then indent ++ "///"
  else indent ++ "/// " ++ String.ofList (Text.trimEnd line)

theorem docLines_eq (indent text : String) :
    docLines indent text = (Text.lines text.toList).map (docRow indent) := rfl

theorem documented_docRow (indent : String) (line : List Char) :
    Documented indent line (docRow indent line) := by
  unfold docRow
  rcases Text.blank_or_solid line with ⟨gap, none⟩ | ⟨front, c, behind, rfl, solid, gap, kept⟩
  · rw [none]
    exact .blank gap
  · rw [kept, if_neg (by simp)]
    exact .said solid gap

-- No row is more than one line, and none ends in what would belong to the end of its line.
theorem Documented.single (documented : Documented indent line row) (margin : '\n' ∉ indent.toList)
    (unbroken : '\n' ∉ line) : '\n' ∉ row.toList ∧ row.toList.getLast? ≠ some '\r' := by
  cases documented with
  | blank =>
    rw [String.toList_append]
    refine ⟨List.not_mem_append margin (by decide), ?_⟩
    simp [List.getLast?_append]
  | @said c behind front solid gap =>
    simp only [String.toList_append, String.toList_ofList]
    refine ⟨List.not_mem_append (List.not_mem_append margin (by decide)) fun there => ?_, ?_⟩
    · apply unbroken
      rcases List.mem_append.mp there with before | here
      · exact List.mem_append_left _ before
      · rw [List.mem_singleton.mp here]
        simp
    · rw [← List.append_assoc, List.getLast?_concat]
      intro same
      cases same
      cases solid

theorem return_docRow_iff (margin : '\r' ∉ indent.toList) (line : List Char) :
    '\r' ∈ (docRow indent line).toList ↔ '\r' ∈ Text.trimEnd line := by
  unfold docRow
  split
  · rename_i empty
    rw [List.isEmpty_iff.mp empty]
    simp [margin]
  · simp [margin]

theorem broken_joinLines (single : ∀ row ∈ rows, '\n' ∉ row.toList ∧
    row.toList.getLast? ≠ some '\r') : Text.Broken (joinLines rows).toList (rows.map (·.toList)) := by
  induction rows with
  | nil => exact .nil
  | cons row rest ih =>
    obtain ⟨⟨unbroken, bare⟩, others⟩ := List.forall_mem_cons.mp single
    rw [toList_joinLines_cons]
    exact .feed unbroken bare (ih others)

theorem getLast?_joinLines (some : rows ≠ []) : (joinLines rows).toList.getLast? = .some '\n' := by
  have last := List.dropLast_concat_getLast some
  rw [← last, joinLines_append, String.toList_append, toList_joinLines_cons, ← List.append_assoc]
  exact List.getLast?_concat

theorem docLines_documented (blank : ∀ c ∈ indent.toList, c = ' ') (text : String) :
    DocumentedBy indent text (docLines indent text) := by
  have apart : ∀ c : Char, c ≠ ' ' → c ∉ indent.toList := fun c other there => other (blank c there)
  rw [docLines_eq]
  refine ⟨⟨_, fun _ => Text.broken_iff, ?_⟩, broken_joinLines ?_, getLast?_joinLines, ?_⟩
  · rw [List.forall₂_map_right_iff, List.forall₂_same]
    exact fun line _ => documented_docRow indent line
  · intro row inside
    obtain ⟨line, there, rfl⟩ := List.mem_map.mp inside
    exact (documented_docRow indent line).single (apart _ (by decide)) (Text.noBreak_lines there)
  · rw [Text.stray_iff]
    simp [return_docRow_iff (apart '\r' (by decide))]

end Rows

section Files
variable {decls : Declarations} {files : List GeneratedFile}

-- The file can be taken apart if and only if the condition holds.
structure GeneratedFile.ReadWhen (tame : Prop) (file : GeneratedFile) : Prop where
  formatted : file.formatted = true ↔ tame
  refused : ¬tame → file.fault = some .unreadable

-- Each of the three files depends on the descriptions that are written into it, and on no others.
inductive FilesRead (decls : Declarations) : List GeneratedFile → Prop where
  | mk (first : enums.ReadWhen (∀ decl ∈ decls.enums, decl.Tame))
      (second : inputs.ReadWhen (∀ decl ∈ decls.inputs, decl.Tame))
      (third : scalars.ReadWhen (∀ decl ∈ decls.scalars.filter fun decl =>
        !isBuiltinScalar decl.name, Tame decl.description)) :
      FilesRead decls [enums, inputs, scalars]

theorem LaidOutWhen.render {tame : Prop} {name body : String} (laid : LaidOutWhen tame body) :
    (GeneratedFile.render name body).ReadWhen tame := by
  by_cases holds : tame
  · obtain ⟨text, made, _⟩ := laid.made holds
    rw [render_canonical made]
    exact ⟨iff_of_true rfl holds, fun wild => absurd holds wild⟩
  · have refused := laid.refused holds
    rw [GeneratedFile.render, refused]
    exact ⟨iff_of_false Bool.false_ne_true holds, fun _ => rfl⟩

theorem generate_read (named : decls.Named) (free : ∀ name ∈ decls.typeNames, isKeyword name = false)
    (made : generate decls = .ok files) : FilesRead decls files := by
  simp only [Declarations.typeNames, List.forall_mem_append, List.forall_mem_map,
    List.forall_mem_flatMap] at free
  obtain ⟨⟨⟨enums, inputs⟩, scalars⟩, leaves⟩ := free
  have sound := (generate_decided decls).ok_iff.mp ⟨files, made⟩
  rw [generate_sound sound] at made
  cases made
  exact .mk (laidOut_enums named enums).render (laidOut_inputs named inputs leaves).render
    (laidOut_scalars named scalars).render

end Files

-- What becomes of a description, alone and in its file: a carriage return inside one of its lines
-- is all that can be wrong with it.
theorem descriptions_exact (indent text : String) (decls : Declarations)
    (files : List GeneratedFile) :
    ((∀ c ∈ indent.toList, c = ' ') → DocumentedBy indent text (docLines indent text)) ∧
    (decls.Named → (∀ name ∈ decls.typeNames, isKeyword name = false) →
      generate decls = .ok files → FilesRead decls files) :=
  ⟨fun blank => docLines_documented blank text,
    fun named free made => generate_read named free made⟩

-- Line ends of both sorts, one inside a line, and one that is not written at all.
def lineEnds : Declarations where
  enums := [⟨"Color", some "What is  \r\n\nmixed.\r", [⟨"RED", some "\r\n\r", false⟩]⟩]
  inputs := [⟨"Paint", none, [⟨"color", some "dull\rbright", .named .enumeration "Color"⟩], []⟩]
  scalars := [⟨"Int", some "whole\rnumbers"⟩, ⟨"Date", none⟩]

theorem descriptions_exact_lineEnds :
    DocumentedBy "    " "dull\rbright\r\n" (docLines "    " "dull\rbright\r\n") ∧
    ∃ enums inputs scalars, generate lineEnds = .ok [enums, inputs, scalars] ∧
      enums.formatted = true ∧ inputs.fault = some .unreadable ∧ scalars.formatted = true := by
  have sound : lineEnds.Sound := by decide +kernel
  obtain ⟨files, made⟩ := (generate_decided lineEnds).ok_iff.mpr sound
  obtain ⟨rows, read⟩ := descriptions_exact "    " "dull\rbright\r\n" lineEnds files
  obtain ⟨first, second, third⟩ := read (by decide +kernel) (by decide +kernel) made
  exact ⟨rows (by simp), _, _, _, made, first.formatted.mpr (by decide +kernel),
    second.refused (by decide +kernel), third.formatted.mpr (by decide +kernel)⟩

-- One enum with a carriage return in the line that describes it.
def returnInside : Declarations where
  enums := [⟨"Color", some "dull\rbright", [⟨"RED", none, false⟩]⟩]
  inputs := []
  scalars := []

theorem stray_return_refused :
    docLines "" "dull\rbright" = ["/// dull\rbright"] ∧
    ∃ enums inputs scalars, generate returnInside = .ok [enums, inputs, scalars] ∧
      enums.formatted = false := by
  refine ⟨by decide +kernel, ?_⟩
  have sound : returnInside.Sound := by decide +kernel
  obtain ⟨files, made⟩ := (generate_decided returnInside).ok_iff.mpr sound
  obtain ⟨first, _, _⟩ := generate_read (by decide +kernel) (by decide +kernel) made
  refine ⟨_, _, _, made, ?_⟩
  have wild : ¬∀ decl ∈ returnInside.enums, decl.Tame := by decide +kernel
  rw [Bool.eq_false_iff, ne_eq, first.formatted]
  exact wild

end Binding
end SchemaBindings
