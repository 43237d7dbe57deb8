import Mathlib.Data.List.Basic
import SchemaBindings.Proofs.Binding.Identifiers
import SchemaBindings.Proofs.Binding.Resolving

namespace SchemaBindings

def EnumDecl.identifiers (decl : EnumDecl) : List String :=
  decl.values.map fun value => Naming.enumValueIdentifier decl.name value.name

def InputDecl.identifiers (decl : InputDecl) : List String :=
  decl.fields.map fun field => Naming.fieldIdentifier field.name

def EnumDecl.Sound (decl : EnumDecl) : Prop := decl.identifiers.Nodup

structure InputDecl.Sound (decl : InputDecl) : Prop where
  distinct : decl.identifiers.Nodup
  bindable : ∀ field ∈ decl.fields, field.Bindable

instance (decl : EnumDecl) : Decidable decl.Sound :=
  inferInstanceAs (Decidable decl.identifiers.Nodup)

instance (decl : InputDecl) : Decidable decl.Sound :=
  decidable_of_iff (decl.identifiers.Nodup ∧ ∀ field ∈ decl.fields, field.Bindable)
    ⟨fun ⟨distinct, bindable⟩ => ⟨distinct, bindable⟩,
      fun ⟨distinct, bindable⟩ => ⟨distinct, bindable⟩⟩

namespace Binding

def EnumFault (decl : EnumDecl) : Error → Prop :=
  Clash decl.name (Naming.enumValueIdentifier decl.name) (decl.values.map (·.name))

-- Names are compared before any type is looked at, and the fields come required ones first.
inductive InputFault (decl : InputDecl) : Error → Prop where
  | names (clash : Clash decl.name Naming.fieldIdentifier (decl.fields.map (·.name)) error) :
      InputFault decl error
  | field (distinct : decl.identifiers.Nodup)
      (first : FirstOf Field.Bindable (FieldFault decl.name) decl.fields error) :
      InputFault decl error

-- The lines of a text that stand in it one after the other.
def Contains (text : String) (lines : List String) : Prop :=
  ∃ before behind, text = before ++ joinLines lines ++ behind

theorem joinLines_append (lines others : List String) :
    joinLines (lines ++ others) = joinLines lines ++ joinLines others := by
  rw [joinLines, List.map_append, String.join_append]
  rfl

theorem contains_of_infix (inside : lines <:+: all) : Contains (joinLines all) lines := by
  obtain ⟨before, behind, rfl⟩ := inside
  exact ⟨joinLines before, joinLines behind, by rw [joinLines_append, joinLines_append]⟩

theorem infix_flatMap {values : List α} {block : α → List String} (inside : a ∈ values) :
    block a <:+: values.flatMap block :=
  List.infix_of_mem_flatten (List.mem_map_of_mem inside)

section Enums
variable {decl : EnumDecl}

theorem enumIdentifiers_decided (decl : EnumDecl) :
    Decided (enumIdentifiers decl) decl.Sound (EnumFault decl) := by
  have names := uniqueIdentifiers_decided decl.name (decl.values.map (·.name))
    (Naming.enumValueIdentifier decl.name)
  rw [List.map_map] at names
  exact names

theorem enumIdentifiers_sound (sound : decl.Sound) :
    enumIdentifiers decl = .ok decl.identifiers := by
  rw [enumIdentifiers, uniqueIdentifiers_ok (by rwa [List.map_map]), List.map_map]
  rfl

theorem enumsText_decided (decls : Declarations) :
    Decided (enumsText decls) (∀ decl ∈ decls.enums, decl.Sound)
      (FirstOf EnumDecl.Sound EnumFault decls.enums) :=
  (Decided.mapM fun decl _ => (enumIdentifiers_decided decl).map (enumLines decl)).map _

def enumBlock (decl : EnumDecl) : List String := enumLines decl decl.identifiers

def enumsHead : List String :=
  ["#![allow(clippy::enum_variant_names)]", "",
   "use serde::\x7bDeserialize, Serialize\x7d;", ""]

theorem enumsText_sound (sound : ∀ decl ∈ decls.enums, decl.Sound) :
    enumsText decls = .ok (joinLines (enumsHead ++ decls.enums.flatMap enumBlock)) := by
  have blocks : decls.enums.mapM (fun decl => do return enumLines decl (← enumIdentifiers decl)) =
      .ok (decls.enums.map enumBlock) := by
    apply mapM_ok
    rw [List.forall₂_map_right_iff, List.forall₂_same]
    intro decl inside
    rw [enumIdentifiers_sound (sound decl inside)]
    rfl
  rw [enumsText, blocks, List.flatMap_def]
  rfl

theorem blocks_enumsText {Written : EnumDecl → List String → Prop}
    (each : ∀ decl ∈ decls.enums, Written decl (enumBlock decl)) (made : enumsText decls = .ok text) :
    ∃ blocks, text = joinLines (enumsHead ++ blocks.flatten) ∧
      List.Forall₂ Written decls.enums blocks := by
  have sound := (enumsText_decided decls).ok_iff.mp ⟨text, made⟩
  rw [enumsText_sound sound] at made
  refine ⟨decls.enums.map enumBlock, ?_, ?_⟩
  · rw [← Except.ok.inj made, List.flatMap_def]
  · rw [List.forall₂_map_right_iff, List.forall₂_same]
    exact each

end Enums

section Inputs
variable {decl : InputDecl}

theorem inputIdentifiers_decided (decl : InputDecl) :
    Decided (inputIdentifiers decl) decl.identifiers.Nodup
      (Clash decl.name Naming.fieldIdentifier (decl.fields.map (·.name))) := by
  have names := uniqueIdentifiers_decided decl.name (decl.fields.map (·.name)) Naming.fieldIdentifier
  rw [List.map_map] at names
  exact names

theorem inputIdentifiers_distinct (distinct : decl.identifiers.Nodup) :
    inputIdentifiers decl = .ok decl.identifiers := by
  rw [inputIdentifiers, uniqueIdentifiers_ok (by rwa [List.map_map]), List.map_map]
  rfl

-- Each field stands beside its own identifier.
theorem zip_identifiers (decl : InputDecl) :
    decl.fields.zip decl.identifiers =
      decl.fields.map fun field => (field, Naming.fieldIdentifier field.name) := by
  rw [InputDecl.identifiers, List.zip_eq_zipWith, List.zipWith_map_right, List.zipWith_self]

theorem fields_decided (decl : InputDecl) :
    Decided ((decl.fields.zip decl.identifiers).mapM fun (field, identifier) => do
        return inputFieldLines field identifier (← fieldType decl.name field))
      (∀ field ∈ decl.fields, field.Bindable)
      (FirstOf Field.Bindable (FieldFault decl.name) decl.fields) := by
  rw [zip_identifiers, List.mapM_map]
  exact .mapM fun field _ => (fieldType_decided decl.name field).map _

theorem inputLines_decided (decl : InputDecl) :
    Decided (inputLines decl) decl.Sound (InputFault decl) := by
  have steps : Decided (inputLines decl)
      (decl.identifiers.Nodup ∧ ∀ field ∈ decl.fields, field.Bindable) fun error =>
        Clash decl.name Naming.fieldIdentifier (decl.fields.map (·.name)) error ∨
          decl.identifiers.Nodup ∧
            FirstOf Field.Bindable (FieldFault decl.name) decl.fields error := by
    refine (inputIdentifiers_decided decl).bind fun identifiers made => ?_
    have distinct := (inputIdentifiers_decided decl).ok_iff.mp ⟨identifiers, made⟩
    rw [inputIdentifiers_distinct distinct] at made
    cases made
    exact (fields_decided decl).map _
  refine steps.congr ⟨fun ⟨distinct, bindable⟩ => ⟨distinct, bindable⟩,
    fun ⟨distinct, bindable⟩ => ⟨distinct, bindable⟩⟩ fun error => ?_
  constructor
  · rintro (clash | ⟨distinct, first⟩)
    · exact .names clash
    · exact .field distinct first
  · rintro (clash | ⟨distinct, first⟩)
    · exact .inl clash
    · exact .inr ⟨distinct, first⟩

-- What is wrong with the type of a field is never reported as a clash of names.
theorem InputFault.repeated (fault : InputFault decl (.collision owner identifier first second)) :
    ¬decl.identifiers.Nodup := by
  intro distinct
  cases fault with
  | names clash =>
    have refused := clash.uniqueIdentifiers
    have made := inputIdentifiers_distinct distinct
    rw [inputIdentifiers, refused] at made
    cases made
  | field _ faulty =>
    obtain ⟨_, _, _, _, _, fault⟩ := faulty
    cases fault with
    | doubled _ doubled => cases doubled.internal

theorem inputsText_decided (decls : Declarations) :
    Decided (inputsText decls) (∀ decl ∈ decls.inputs, decl.Sound)
      (FirstOf InputDecl.Sound InputFault decls.inputs) :=
  (Decided.mapM fun decl _ => inputLines_decided decl).map _

def fieldBlock (field : Field) : List String :=
  inputFieldLines field (Naming.fieldIdentifier field.name) (boundField field)

def inputBlock (decl : InputDecl) : List String :=
  headLines decl.name decl.description ++
  [deriveLine decl, "pub struct " ++ decl.name ++ " \x7b"] ++
  decl.fields.flatMap fieldBlock ++
  ["\x7d", "", "impl Input for " ++ decl.name ++ " \x7b\x7d", ""]

def inputsHead (decls : Declarations) : List String :=
  ["#![allow(unused_imports)]", "",
   "use serde::\x7bDeserialize, Serialize\x7d;", "",
   "use super::*;", ""] ++ markerLines decls

theorem inputLines_sound (sound : decl.Sound) : inputLines decl = .ok (inputBlock decl) := by
  have fields : (decl.fields.zip decl.identifiers).mapM (fun (field, identifier) => do
        return inputFieldLines field identifier (← fieldType decl.name field)) =
      .ok (decl.fields.map fieldBlock) := by
    rw [zip_identifiers, List.mapM_map]
    apply mapM_ok
    rw [List.forall₂_map_right_iff, List.forall₂_same]
    intro field inside
    simp only [Function.comp, fieldType_bindable (sound.bindable field inside)]
    rfl
  rw [inputLines, inputIdentifiers_distinct sound.distinct]
  simp only [bind, Except.bind] at fields ⊢
  rw [fields, inputBlock, List.flatMap_def]
  rfl

theorem inputsText_sound (sound : ∀ decl ∈ decls.inputs, decl.Sound) :
    inputsText decls = .ok (joinLines (inputsHead decls ++ decls.inputs.flatMap inputBlock)) := by
  have blocks : decls.inputs.mapM inputLines = .ok (decls.inputs.map inputBlock) := by
    apply mapM_ok
    rw [List.forall₂_map_right_iff, List.forall₂_same]
    exact fun decl inside => inputLines_sound (sound decl inside)
  rw [inputsText, blocks, List.flatMap_def]
  rfl

theorem blocks_inputsText {Written : InputDecl → List String → Prop}
    (each : ∀ decl ∈ decls.inputs, Written decl (inputBlock decl))
    (made : inputsText decls = .ok text) :
    ∃ blocks, text = joinLines (inputsHead decls ++ blocks.flatten) ∧
      List.Forall₂ Written decls.inputs blocks := by
  have sound := (inputsText_decided decls).ok_iff.mp ⟨text, made⟩
  rw [inputsText_sound sound] at made
  refine ⟨decls.inputs.map inputBlock, ?_, ?_⟩
  · rw [← Except.ok.inj made, List.flatMap_def]
  · rw [List.forall₂_map_right_iff, List.forall₂_same]
    exact each

theorem contains_fieldBlock (made : inputsText decls = .ok text) (declared : decl ∈ decls.inputs)
    (inside : field ∈ decl.fields) : Contains text (fieldBlock field) := by
  have sound := (inputsText_decided decls).ok_iff.mp ⟨text, made⟩
  rw [inputsText_sound sound] at made
  cases made
  have here : fieldBlock field <:+: inputBlock decl :=
    (infix_flatMap inside).trans (List.infix_append _ _ _)
  exact contains_of_infix ((here.trans (infix_flatMap declared)).trans (List.suffix_append _ _).isInfix)

end Inputs

end Binding

structure Declarations.Sound (decls : Declarations) : Prop where
  enums : ∀ decl ∈ decls.enums, decl.Sound
  inputs : ∀ decl ∈ decls.inputs, decl.Sound

instance (decls : Declarations) : Decidable decls.Sound :=
  decidable_of_iff ((∀ decl ∈ decls.enums, decl.Sound) ∧ ∀ decl ∈ decls.inputs, decl.Sound)
    ⟨fun ⟨enums, inputs⟩ => ⟨enums, inputs⟩, fun ⟨enums, inputs⟩ => ⟨enums, inputs⟩⟩

namespace Binding

inductive FirstFault (decls : Declarations) : Error → Prop where
  | inEnums (first : FirstOf EnumDecl.Sound EnumFault decls.enums error) : FirstFault decls error
  | inInputs (enums : ∀ decl ∈ decls.enums, decl.Sound)
      (first : FirstOf InputDecl.Sound InputFault decls.inputs error) : FirstFault decls error

theorem name_render (name body : String) : (GeneratedFile.render name body).name = name := by
  rw [GeneratedFile.render]
  split
  · rfl
  · rfl

theorem generate_decided (decls : Declarations) :
    Decided (generate decls) decls.Sound (FirstFault decls) := by
  have steps := (enumsText_decided decls).bind fun enums _ =>
    (inputsText_decided decls).map fun inputs =>
      [GeneratedFile.render enumsFile enums, .render inputsFile inputs,
        .render scalarsFile (scalarsText decls)]
  refine steps.congr ⟨fun ⟨enums, inputs⟩ => ⟨enums, inputs⟩,
    fun ⟨enums, inputs⟩ => ⟨enums, inputs⟩⟩ fun error => ?_
  constructor
  · rintro (first | ⟨enums, first⟩)
    · exact .inEnums first
    · exact .inInputs enums first
  · rintro (first | ⟨enums, first⟩)
    · exact .inl first
    · exact .inr ⟨enums, first⟩

theorem generate_sound (sound : decls.Sound) :
    generate decls = .ok
      [.render enumsFile (joinLines (enumsHead ++ decls.enums.flatMap enumBlock)),
       .render inputsFile (joinLines (inputsHead decls ++ decls.inputs.flatMap inputBlock)),
       .render scalarsFile (scalarsText decls)] := by
  rw [generate, enumsText_sound sound.enums, inputsText_sound sound.inputs]
  rfl

-- Files come out exactly of sound declarations, and they are these three; otherwise what is
-- reported is the first fault.
theorem generate_exact (decls : Declarations) :
    ((∃ files, generate decls = .ok files) ↔ decls.Sound) ∧
    (∀ files, generate decls = .ok files →
      files.map (·.name) = ["enums.rs", "inputs.rs", "scalars.rs"]) ∧
    ∀ error, generate decls = .error error ↔ FirstFault decls error := by
  refine ⟨(generate_decided decls).ok_iff, fun files made => ?_,
    fun _ => (generate_decided decls).error_iff⟩
  have sound := (generate_decided decls).ok_iff.mp ⟨files, made⟩
  rw [generate_sound sound] at made
  cases made
  simp only [List.map_cons, List.map_nil, name_render]
  rfl

-- One record with one field, whose type has two non-null wrappers, one around the other.
def doubledInt (owner field : String) : Declarations :=
  { inputs := [{ name := owner
                 description := none
                 required := [⟨field, none, .nonNull (.nonNull (.named .scalar "Int"))⟩]
                 optional := [] }] }

theorem firstFault_doubledInt (owner field : String) :
    FirstFault (doubledInt owner field)
      (.invariant "non-null wrapper applied to non-nullable type `i32` (from `Int!!`)") := by
  have doubled : Doubled false (.nonNull (.nonNull (.named .scalar "Int"))) _ := .here ⟨rfl, trivial⟩
  have fault : FieldFault owner ⟨field, none, .nonNull (.nonNull (.named .scalar "Int"))⟩ _ :=
    .doubled rfl doubled
  refine .inInputs nofun ⟨[], _, [], rfl, nofun, .field (List.nodup_singleton _) ?_⟩
  exact ⟨[], _, [], rfl, nofun, fault⟩

theorem not_infix_append {c : Char} {name front behind : List Char} (inside : c ∈ name)
    (first : c ∉ front) (second : c ∉ behind) :
    ¬name <:+: (String.ofList front ++ String.ofList behind).toList := by
  intro there
  rw [String.toList_append, String.toList_ofList, String.toList_ofList] at there
  exact List.not_mem_append first second (there.subset inside)

-- Such a violation says which reference is at fault, but not where the reference stands: records
-- and fields of other names have the same one, and its message has neither name in it.
theorem violation_without_owner :
    generate (doubledInt "Grid" "cells") = generate (doubledInt "Board" "rows") ∧
    ∃ error, generate (doubledInt "Grid" "cells") = .error error ∧
      ¬"Grid".toList <:+: error.message.toList ∧ ¬"cells".toList <:+: error.message.toList := by
  have first := (generate_decided _).blamed _ (firstFault_doubledInt "Grid" "cells")
  have second := (generate_decided _).blamed _ (firstFault_doubledInt "Board" "rows")
  refine ⟨first.trans second.symm, _, first, ?_, ?_⟩
  · have letter : 'G' ∈ "Grid".toList := by decide +kernel
    exact not_infix_append letter (by decide) (by decide)
  · have letter : 'c' ∈ "cells".toList := by decide +kernel
    exact not_infix_append letter (by decide) (by decide)

end Binding
end SchemaBindings
