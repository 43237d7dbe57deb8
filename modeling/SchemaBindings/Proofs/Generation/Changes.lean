import SchemaBindings.Generation
import SchemaBindings.Proofs.Generation.Closure
import SchemaBindings.Proofs.Introspection.Reordering

namespace SchemaBindings

open Introspection

namespace Generation

theorem ofSchema_eq_of_collect {schema other : Schema} (same : schema.collect = other.collect) :
    ofSchema schema = ofSchema other := by
  rw [ofSchema, ofSchema, same]

-- What is reported of a document are its errors and the number of its types.
theorem parseEvents_eq (first : Json.Spelled text a) (second : Json.Spelled other b)
    (alike : Wire.DocumentsAlike a b) (parsed : parse text = .ok schema)
    (again : parse other = .ok moved) (same : Wire.SameTypes schema moved) :
    parseEvents text = parseEvents other := by
  have decoded := Wire.agree_ofText first second alike
  rw [parse] at parsed again
  rw [parseEvents, parseEvents]
  generalize Wire.Document.ofText text = left at decoded parsed ⊢
  generalize Wire.Document.ofText other = right at decoded again ⊢
  cases decoded with
  | failed => cases parsed
  | @done document another related =>
    have resolved : document.resolve = .ok schema := parsed
    have reresolved : another.resolve = .ok moved := again
    have size : schema.size = moved.size := same.types.length_eq
    have present : document.schema?.isSome = another.schema?.isSome := by
      have schemas := related.schema?
      generalize document.schema? = chosen at schemas ⊢
      generalize another.schema? = other at schemas ⊢
      cases schemas <;> rfl
    simp only [resolved, reresolved, completion, partialErrors, size, present, related.errors]

end Generation

-- Two documents with the same types in another order: one is parsed exactly if the other is, the
-- same declarations are collected, and the same files or the same error come out of them.
theorem generation_of_moved_types (first : Json.Spelled text a) (second : Json.Spelled other b)
    (alike : Wire.DocumentsAlike a b) :
    ((∃ schema, parse text = .ok schema) ↔ ∃ schema, parse other = .ok schema) ∧
    ∀ schema moved, parse text = .ok schema → parse other = .ok moved →
      schema.collect = moved.collect ∧
      Binding.generate schema.collect = Binding.generate moved.collect ∧
      Generation.ofSchema schema = Generation.ofSchema moved ∧
      Generation.ofText text = Generation.ofText other := by
  have both := agree_parse first second alike
  refine ⟨both.ok_exact, fun schema moved parsed again => ?_⟩
  have same := both.related parsed again
  have collected := Schema.collect_eq_of_perm same.types same.distinct
  have generated := Generation.ofSchema_eq_of_collect collected
  have events := Generation.parseEvents_eq first second alike parsed again same
  refine ⟨collected, by rw [collected], generated, ?_⟩
  rw [Generation.ofText, Generation.ofText, events, parsed, again]
  simp only [generated]

def red : TypeDescriptor :=
  { kind := .scalar, name := "Red", description := none, fields := [], inputFields := []
    enumValues := [] }

def blue : TypeDescriptor := { red with name := "Blue" }

def redBlue : Schema := .assemble none none none [red, blue]

def blueRed : Schema := .assemble none none none [blue, red]

theorem documentsAlike_redBlue :
    Wire.DocumentsAlike (redBlue.document []).tree (blueRed.document []).tree := by
  have shuffled : Json.Shuffled
      (Json.Value.list ([red, blue].map TypeDescriptor.value)).tree
      (Json.Value.list ([blue, red].map TypeDescriptor.value)).tree := by
    refine ⟨_, _, by rw [Json.Value.tree], by rw [Json.Value.tree], ?_⟩
    rw [Json.Value.toItems_itemsTree, Json.Value.toItems_itemsTree]
    exact .swap _ _ []
  have schemas : Wire.SchemasAlike redBlue.value.tree blueRed.value.tree := by
    rw [Schema.value, Schema.value, Json.Value.tree, Json.Value.tree]
    exact .object (.member (.inl rfl) (.member (.inl rfl) (.member (.inl rfl)
      (.member (.inr ⟨rfl, shuffled⟩) .noMembers))))
  have data : Wire.DataAlike (Json.Value.object [("__schema", redBlue.value)]).tree
      (Json.Value.object [("__schema", blueRed.value)]).tree := by
    rw [Json.Value.tree, Json.Value.tree]
    exact .object (.member (.inr ⟨rfl, schemas⟩) .noMembers)
  rw [Schema.document, Schema.document, Json.Value.tree, Json.Value.tree]
  exact .object (.member (.inr ⟨rfl, data⟩) (.member (.inl (.inl rfl)) .noMembers))

theorem parse_redBlue : parse (redBlue.document []).text = .ok redBlue := by
  have complete : ∀ type ∈ [red, blue], type.Complete := by
    simp [red, blue, TypeDescriptor.Complete]
  have read := Wire.parse_of_documented (redBlue.documentedAs_document [])
    (redBlue.document []).spelled (by decide)
  rw [read, redBlue]
  exact Wire.resolve_assembled (by decide) complete

theorem generation_of_moved_types_redBlue :
    Wire.DocumentsAlike (redBlue.document []).tree (blueRed.document []).tree ∧
    parse (redBlue.document []).text = .ok redBlue ∧
    ((∃ schema, parse (redBlue.document []).text = .ok schema) ↔
      ∃ schema, parse (blueRed.document []).text = .ok schema) ∧
    ∀ schema moved, parse (redBlue.document []).text = .ok schema →
      parse (blueRed.document []).text = .ok moved →
      schema.collect = moved.collect ∧
      Binding.generate schema.collect = Binding.generate moved.collect ∧
      Generation.ofSchema schema = Generation.ofSchema moved ∧
      Generation.ofText (redBlue.document []).text = Generation.ofText (blueRed.document []).text :=
  ⟨documentsAlike_redBlue, parse_redBlue, generation_of_moved_types
    (redBlue.document []).spelled (blueRed.document []).spelled documentsAlike_redBlue⟩

-- The types of a schema, with one more put in somewhere under a name of its own.
structure Schema.Gains (schema grown : Schema) (type : TypeDescriptor) : Prop where
  added : ∃ front behind, schema.types.toList = front ++ behind ∧
    grown.types.toList = front ++ type :: behind
  distinct : (grown.types.toList.map (·.name)).Nodup

namespace Schema.Gains
variable {schema grown : Schema} {type : TypeDescriptor} {name : α → String}
  {pick : TypeDescriptor → Option α}

theorem perm (gains : schema.Gains grown type) :
    grown.types.toList.Perm (type :: schema.types.toList) := by
  obtain ⟨front, behind, before, after⟩ := gains.added
  rw [before, after]
  exact List.perm_middle

theorem perm_ownTypes (gains : schema.Gains grown type) (own : isInternal type.name = false) :
    grown.ownTypes.Perm (type :: schema.ownTypes) := by
  have kept := gains.perm.filter fun type => !isInternal type.name
  rwa [List.filter_cons_of_pos (by simp [own])] at kept

theorem perm_ownTypes_of_internal (gains : schema.Gains grown type)
    (internal : isInternal type.name = true) : grown.ownTypes.Perm schema.ownTypes := by
  have kept := gains.perm.filter fun type => !isInternal type.name
  rwa [List.filter_cons_of_neg (by simp [internal])] at kept

-- What is not picked leaves no trace in the order of the others.
theorem sorted_of_none (gains : schema.Gains grown type)
    (keeps : ∀ type decl, pick type = some decl → name decl = type.name)
    (skipped : isInternal type.name = true ∨ pick type = none) :
    sortByName name (grown.ownTypes.filterMap pick) =
      sortByName name (schema.ownTypes.filterMap pick) := by
  have picked : (grown.ownTypes.filterMap pick).Perm (schema.ownTypes.filterMap pick) := by
    cases internal : isInternal type.name with
    | true => exact (gains.perm_ownTypes_of_internal internal).filterMap pick
    | false =>
      have unpicked : pick type = none := skipped.resolve_left (by simp [internal])
      have same := (gains.perm_ownTypes internal).filterMap pick
      rwa [List.filterMap_cons_none unpicked] at same
  exact sortByName_eq_of_perm picked
    (nodup_names_filterMap keeps (Schema.nodup_names_ownTypes gains.distinct))

theorem inserted_of_some (gains : schema.Gains grown type)
    (keeps : ∀ type decl, pick type = some decl → name decl = type.name)
    (own : isInternal type.name = false) (picked : pick type = some decl) :
    Inserted name decl (sortByName name (schema.ownTypes.filterMap pick))
      (sortByName name (grown.ownTypes.filterMap pick)) := by
  have one := (gains.perm_ownTypes own).filterMap pick
  rw [List.filterMap_cons_some picked] at one
  exact inserted_sortByName one
    (nodup_names_filterMap keeps (Schema.nodup_names_ownTypes gains.distinct))

theorem enums_eq (gains : schema.Gains grown type)
    (skipped : isInternal type.name = true ∨ type.kind ≠ .enumeration) :
    grown.collect.enums = schema.collect.enums :=
  gains.sorted_of_none (fun _ _ => TypeDescriptor.name_of_toEnum?)
    (skipped.imp_right fun other => if_neg other)

theorem inputs_eq (gains : schema.Gains grown type)
    (skipped : isInternal type.name = true ∨ type.kind ≠ .inputObject) :
    grown.collect.inputs = schema.collect.inputs :=
  gains.sorted_of_none (fun _ _ => TypeDescriptor.name_of_toInput?)
    (skipped.imp_right fun other => if_neg other)

theorem scalars_eq (gains : schema.Gains grown type)
    (skipped : isInternal type.name = true ∨ type.kind ≠ .scalar) :
    grown.collect.scalars = schema.collect.scalars :=
  gains.sorted_of_none (fun _ _ => TypeDescriptor.name_of_toScalar?)
    (skipped.imp_right fun other => if_neg other)

end Schema.Gains

theorem inputNames_of_sorted {schema : Schema}
    (sorted : (schema.namesOf .inputObject).Pairwise (· ≤ ·)) :
    schema.collect.inputNames = schema.namesOf .inputObject :=
  (schema.perm_names_inputs).eq_of_pairwise (fun _ _ _ _ => String.le_antisymm)
    (List.pairwise_map.mpr (pairwise_sortByName InputDecl.name _)) sorted

namespace Binding

-- The three texts before they are laid out.
structure RawTexts where
  enums : String
  inputs : String
  scalars : String

def rawTexts (decls : Declarations) : Except Error RawTexts := do
  return { enums := ← enumsText decls, inputs := ← inputsText decls, scalars := scalarsText decls }

def RawTexts.files (texts : RawTexts) : List GeneratedFile :=
  [.render enumsFile texts.enums, .render inputsFile texts.inputs,
    .render scalarsFile texts.scalars]

theorem generate_eq_rawTexts (decls : Declarations) :
    generate decls = (rawTexts decls).map RawTexts.files := by
  rw [generate, rawTexts]
  cases enumsText decls with
  | error _ => rfl
  | ok enums => cases inputsText decls with
    | error _ => rfl
    | ok inputs => rfl

-- The lines above the records go by the names of the records alone.
def recordsHead (names : List String) : List String :=
  ["#![allow(unused_imports)]", "",
   "use serde::\x7bDeserialize, Serialize\x7d;", "",
   "use super::*;", "",
   "/// Input represents one of the Input structs:",
   "///",
   "/// " ++ ", ".intercalate names ++ ".",
   "pub trait Input: Serialize \x7b\x7d",
   ""]

def scalarsHead : List String :=
  ["#![allow(unused_imports)]", "",
   "use serde::\x7bDeserialize, Serialize\x7d;", ""]

def customScalars (scalars : List ScalarDecl) : List ScalarDecl :=
  scalars.filter fun decl => !isBuiltinScalar decl.name

theorem rawTexts_sound (made : rawTexts decls = .ok texts) :
    texts.enums = joinLines (enumsHead ++ decls.enums.flatMap enumBlock) ∧
    texts.inputs =
      joinLines (recordsHead decls.inputNames ++ decls.inputs.flatMap inputBlock) ∧
    texts.scalars = joinLines (scalarsHead ++ (customScalars decls.scalars).flatMap scalarLines) := by
  have sound : decls.Sound :=
    (generate_decided decls).ok_iff.mp ⟨texts.files, by rw [generate_eq_rawTexts, made]; rfl⟩
  rw [rawTexts, enumsText_sound sound.enums, inputsText_sound sound.inputs] at made
  cases made
  exact ⟨rfl, rfl, rfl⟩

theorem rawTexts_exists (sound : decls.Sound) : ∃ texts, rawTexts decls = .ok texts := by
  rw [rawTexts, enumsText_sound sound.enums, inputsText_sound sound.inputs]
  exact ⟨_, rfl⟩

-- Below its head a text has a block of lines more than the other one, all in one place.
def Grows (head more block : List String) (text grown : String) : Prop :=
  ∃ above below, text = joinLines (head ++ above ++ below) ∧
    grown = joinLines (more ++ above ++ block ++ below)

theorem grows_of_inserted {block : α → List String} (head more : List String)
    (inserted : Inserted name decl decls grown) :
    Grows head more (block decl) (joinLines (head ++ decls.flatMap block))
      (joinLines (more ++ grown.flatMap block)) := by
  obtain ⟨front, behind, rfl, rfl, _⟩ := inserted
  refine ⟨front.flatMap block, behind.flatMap block, ?_, ?_⟩
  · rw [List.flatMap_append, List.append_assoc]
  · rw [List.flatMap_append, List.flatMap_cons, List.append_assoc, List.append_assoc]

end Binding

namespace Generation
open Binding

section Added
variable {schema grown : Schema} {type : TypeDescriptor} {texts others : RawTexts}

theorem enums_text_eq (gains : schema.Gains grown type)
    (skipped : isInternal type.name = true ∨ type.kind ≠ .enumeration)
    (made : rawTexts schema.collect = .ok texts) (remade : rawTexts grown.collect = .ok others) :
    others.enums = texts.enums := by
  rw [(rawTexts_sound remade).1, (rawTexts_sound made).1, gains.enums_eq skipped]

theorem inputs_text_eq (gains : schema.Gains grown type)
    (skipped : isInternal type.name = true ∨ type.kind ≠ .inputObject)
    (made : rawTexts schema.collect = .ok texts) (remade : rawTexts grown.collect = .ok others) :
    others.inputs = texts.inputs := by
  have same := gains.inputs_eq skipped
  rw [(rawTexts_sound remade).2.1, (rawTexts_sound made).2.1, Declarations.inputNames,
    Declarations.inputNames, same]

theorem scalars_text_eq (gains : schema.Gains grown type)
    (skipped : isInternal type.name = true ∨ type.kind ≠ .scalar ∨
      isBuiltinScalar type.name = true)
    (made : rawTexts schema.collect = .ok texts) (remade : rawTexts grown.collect = .ok others) :
    others.scalars = texts.scalars := by
  have same : customScalars grown.collect.scalars = customScalars schema.collect.scalars := by
    by_cases collected : isInternal type.name = false ∧ type.kind = .scalar
    · obtain ⟨own, scalar⟩ := collected
      have builtin : isBuiltinScalar type.name = true :=
        (skipped.resolve_left (by simp [own])).resolve_left (not_not_intro scalar)
      have picked : type.toScalar? = some _ := if_pos scalar
      have inserted := gains.inserted_of_some (fun _ _ => TypeDescriptor.name_of_toScalar?) own picked
      exact inserted.filter_eq (by simp [builtin])
    · have other : isInternal type.name = true ∨ type.kind ≠ .scalar := by
        rwa [not_and_or, Bool.not_eq_false] at collected
      rw [gains.scalars_eq other]
  rw [(rawTexts_sound remade).2.2, (rawTexts_sound made).2.2, same]

-- A type that is not declared changes no text. A type that is changes only the text of its kind,
-- by the block of its declaration and, for a record, by its name at its place in the list of names.
theorem texts_of_added_type (gains : schema.Gains grown type)
    (made : rawTexts schema.collect = .ok texts) (remade : rawTexts grown.collect = .ok others) :
    (isInternal type.name = true ∨ (type.kind = .scalar ∧ isBuiltinScalar type.name = true) ∨
        (type.kind ≠ .enumeration ∧ type.kind ≠ .inputObject ∧ type.kind ≠ .scalar) →
      others = texts) ∧
    (isInternal type.name = false → type.kind = .enumeration →
      ∃ decl, type.toEnum? = some decl ∧
        Grows enumsHead enumsHead (enumBlock decl) texts.enums others.enums ∧
        others.inputs = texts.inputs ∧ others.scalars = texts.scalars) ∧
    (isInternal type.name = false → type.kind = .scalar → isBuiltinScalar type.name = false →
      ∃ decl, type.toScalar? = some decl ∧
        Grows scalarsHead scalarsHead (scalarLines decl) texts.scalars others.scalars ∧
        others.enums = texts.enums ∧ others.inputs = texts.inputs) ∧
    (isInternal type.name = false → type.kind = .inputObject →
      ∃ decl, type.toInput? = some decl ∧
        Inserted id type.name schema.collect.inputNames grown.collect.inputNames ∧
        Grows (recordsHead schema.collect.inputNames) (recordsHead grown.collect.inputNames)
          (inputBlock decl) texts.inputs others.inputs ∧
        others.enums = texts.enums ∧ others.scalars = texts.scalars) := by
  obtain ⟨enums, inputs, scalars⟩ := rawTexts_sound made
  obtain ⟨moreEnums, moreInputs, moreScalars⟩ := rawTexts_sound remade
  refine ⟨fun undeclared => ?_, fun own enumeration => ?_, fun own scalar custom => ?_,
    fun own record => ?_⟩
  · have first := enums_text_eq gains (by grind) made remade
    have second := inputs_text_eq gains (by grind) made remade
    have third := scalars_text_eq gains (by grind) made remade
    cases texts
    cases others
    cases first
    cases second
    cases third
    rfl
  · have picked : type.toEnum? = some _ := if_pos enumeration
    have inserted := gains.inserted_of_some (fun _ _ => TypeDescriptor.name_of_toEnum?) own picked
    refine ⟨_, picked, ?_, inputs_text_eq gains (.inr ?_) made remade,
      scalars_text_eq gains (.inr (.inl ?_)) made remade⟩
    · rw [enums, moreEnums]
      exact grows_of_inserted _ _ inserted
    · simp [enumeration]
    · simp [enumeration]
  · have picked : type.toScalar? = some _ := if_pos scalar
    have inserted := gains.inserted_of_some (fun _ _ => TypeDescriptor.name_of_toScalar?) own picked
    refine ⟨_, picked, ?_, enums_text_eq gains (.inr ?_) made remade,
      inputs_text_eq gains (.inr ?_) made remade⟩
    · rw [scalars, moreScalars]
      exact grows_of_inserted _ _ (inserted.filter (by simp [custom]))
    · simp [scalar]
    · simp [scalar]
  · have picked : type.toInput? = some _ := if_pos record
    have inserted := gains.inserted_of_some (fun _ _ => TypeDescriptor.name_of_toInput?) own picked
    refine ⟨_, picked, inserted.map id fun _ => rfl, ?_,
      enums_text_eq gains (.inr ?_) made remade, scalars_text_eq gains (.inr (.inl ?_)) made remade⟩
    · rw [inputs, moreInputs]
      exact grows_of_inserted _ _ inserted
    · simp [record]
    · simp [record]

end Added

def labelType : TypeDescriptor :=
  { kind := .inputObject, name := "Label", description := none, fields := []
    inputFields := [⟨"text", none, .nonNull (.named .scalar "String")⟩], enumValues := [] }

-- The catalog with one record more behind the first of its types.
def labelled : Schema :=
  .assemble none none none (itemType :: labelType :: catalog.types.toList.tail)

theorem texts_of_added_type_label :
    catalog.Gains labelled labelType ∧
    catalog.collect.inputNames = ["Item", "Owner"] ∧
    labelled.collect.inputNames = ["Item", "Label", "Owner"] ∧
    ∃ texts others, rawTexts catalog.collect = .ok texts ∧
      rawTexts labelled.collect = .ok others ∧
      Grows (recordsHead ["Item", "Owner"]) (recordsHead ["Item", "Label", "Owner"])
        (inputBlock ⟨"Label", none, labelType.inputFields, []⟩) texts.inputs others.inputs ∧
      others.enums = texts.enums ∧ others.scalars = texts.scalars := by
  have types : labelled.types.toList = [itemType] ++ labelType :: catalog.types.toList.tail :=
    Schema.types_assemble ..
  have gains : catalog.Gains labelled labelType :=
    ⟨⟨[itemType], _, by decide +kernel, types⟩, by decide +kernel⟩
  have before : catalog.collect.inputNames = ["Item", "Owner"] := by
    rw [inputNames_of_sorted (by decide +kernel)]
    decide +kernel
  have after : labelled.collect.inputNames = ["Item", "Label", "Owner"] := by
    rw [inputNames_of_sorted (by decide +kernel)]
    decide +kernel
  have sound : catalog.collect.Sound := sound_collect (by decide +kernel) (by decide +kernel)
  have resound : labelled.collect.Sound := sound_collect (by decide +kernel) (by decide +kernel)
  obtain ⟨texts, made⟩ := rawTexts_exists sound
  obtain ⟨others, remade⟩ := rawTexts_exists resound
  obtain ⟨decl, picked, _, inputs, enums, scalars⟩ :=
    (texts_of_added_type gains made remade).2.2.2 (by decide +kernel) rfl
  cases picked
  rw [before, after] at inputs
  exact ⟨gains, before, after, texts, others, made, remade, inputs, enums, scalars⟩

end Generation
end SchemaBindings
