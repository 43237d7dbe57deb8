import SchemaBindings.Proofs.Generation.Closure

namespace SchemaBindings
namespace Binding

-- The lines of one field, by what each of them says.
structure Rendering where
  tier : String
  description : List String
  marking : String
  identifier : String
  type : TypeExpr

def Rendering.lines (rendering : Rendering) : List String :=
  rendering.tier :: rendering.description ++
    [rendering.marking,
     "    pub " ++ rendering.identifier ++ ": " ++ rendering.type.text ++ ","]

def tierOf (required : Bool) : String :=
  if required then "    /// (Required.)" else "    /// (Optional.)"

def rendering (field : Field) : Rendering where
  tier := tierOf field.type.isNonNull
  description := match field.description with
    | some text => "    ///" :: docLines "    " text
    | none => []
  marking := renameLine field.name field.type.isNonNull
  identifier := Naming.fieldIdentifier field.name
  type := (boundField field).expr

-- The group, the documentation, the type and the attribute of a field say the same.
structure Agrees (decl : InputDecl) (field : Field) (rendering : Rendering) : Prop where
  resolved : fieldType decl.name field =
    .ok { expr := rendering.type, required := field.type.isNonNull }
  inRequired : field ∈ decl.required ↔ field.type.isNonNull = true
  inOptional : field ∈ decl.optional ↔ field.type.isNonNull = false
  toldRequired : rendering.tier = "    /// (Required.)" ↔ field.type.isNonNull = true
  toldOptional : rendering.tier = "    /// (Optional.)" ↔ field.type.isNonNull = false
  plain : rendering.type.isOptional = false ↔ field.type.isNonNull = true
  spelled : '<' ∉ field.type.leaf.2.toList →
    ("Option<".toList <+: rendering.type.text.toList ↔ field.type.isNonNull = false)
  sent : rendering.marking = "    #[serde(rename = " ++ Text.Quoted.encode field.name ++ ")]" ↔
    field.type.isNonNull = true
  skipped : rendering.marking = "    #[serde(rename = " ++ Text.Quoted.encode field.name ++
    ", skip_serializing_if = \"Option::is_none\")]" ↔ field.type.isNonNull = false

theorem isOptional_boundField (field : Field) :
    (boundField field).expr.isOptional = !field.type.isNonNull :=
  isOptional_boundType false field.type

-- A name without an angle does not look like any other type.
theorem option_text_iff {expr : TypeExpr} (plain : '<' ∉ expr.leafName.toList) :
    "Option<".toList <+: expr.text.toList ↔ expr.isOptional = true := by
  cases expr with
  | named name =>
    refine ⟨fun starts => (plain (starts.subset ?_)).elim, nofun⟩
    simp
  | boxed inner => simp [TypeExpr.text, TypeExpr.isOptional]
  | list inner => simp [TypeExpr.text, TypeExpr.isOptional]
  | optional inner => simp [TypeExpr.text, TypeExpr.isOptional]

-- Two strings of different length differ.
theorem renameLine_ne (name : String) : renameLine name true ≠ renameLine name false := by
  intro same
  have lengths := congrArg String.length same
  simp only [renameLine, String.length_append, if_true, Bool.false_eq_true, if_false,
    Nat.add_left_cancel_iff] at lengths
  exact absurd lengths (by decide)

theorem agrees_rendering {decl : InputDecl} {field : Field} (bindable : field.Bindable)
    (required : field ∈ decl.required ↔ field.type.isNonNull = true)
    (optional : field ∈ decl.optional ↔ field.type.isNonNull = false) :
    Agrees decl field (rendering field) where
  resolved := fieldType_bindable bindable decl.name
  inRequired := required
  inOptional := optional
  toldRequired := by cases nonNull : field.type.isNonNull <;> simp [rendering, tierOf, nonNull]
  toldOptional := by cases nonNull : field.type.isNonNull <;> simp [rendering, tierOf, nonNull]
  plain := by simp [rendering, isOptional_boundField]
  spelled := by
    intro plain
    have leaf : '<' ∉ (boundField field).expr.leafName.toList := plain_boundType plain false
    rw [rendering, option_text_iff leaf, isOptional_boundField, Bool.not_eq_true']
  sent := by
    change renameLine field.name field.type.isNonNull = renameLine field.name true ↔ _
    cases field.type.isNonNull with
    | true => exact iff_of_true rfl rfl
    | false => exact iff_of_false (renameLine_ne field.name).symm Bool.false_ne_true
  skipped := by
    change renameLine field.name field.type.isNonNull = renameLine field.name false ↔ _
    cases field.type.isNonNull with
    | true => exact iff_of_false (renameLine_ne field.name) (Bool.false_ne_true ·.symm)
    | false => exact iff_of_true rfl rfl

-- The declaration of a record, without the line that makes it an input.
theorem contains_record (made : inputsText decls = .ok text) (declared : decl ∈ decls.inputs) :
    Contains text (headLines decl.name decl.description ++
      [deriveLine decl, "pub struct " ++ decl.name ++ " \x7b"] ++
      (decl.required.map rendering ++ decl.optional.map rendering).flatMap Rendering.lines ++
      ["\x7d"]) := by
  have sound := (inputsText_decided decls).ok_iff.mp ⟨text, made⟩
  rw [inputsText_sound sound] at made
  cases made
  have fields : (decl.required.map rendering ++ decl.optional.map rendering).flatMap
      Rendering.lines = decl.fields.flatMap fieldBlock := by
    rw [← List.map_append, List.flatMap_map]
    rfl
  rw [fields]
  have here : headLines decl.name decl.description ++
      [deriveLine decl, "pub struct " ++ decl.name ++ " \x7b"] ++ decl.fields.flatMap fieldBlock ++
      ["\x7d"] <:+: inputBlock decl := by
    refine (List.prefix_iff_exists_append_eq.mpr
      ⟨["", "impl Input for " ++ decl.name ++ " \x7b\x7d", ""], ?_⟩).isInfix
    rw [inputBlock, List.append_assoc]
    rfl
  exact contains_of_infix
    ((here.trans (infix_flatMap declared)).trans (List.suffix_append _ _).isInfix)

section Groups
variable {decl : InputDecl} {fields : List Field}

-- The groups are parts of one list, so that no field is in both.
theorem agrees_of_groups (required : decl.required = fields.filter (·.type.isNonNull))
    (optional : decl.optional = fields.filter (!·.type.isNonNull))
    (bindable : ∀ field ∈ decl.fields, field.Bindable) (inside : field ∈ decl.fields) :
    Agrees decl field (rendering field) := by
  have listed : field ∈ fields := by
    rcases List.mem_append.mp inside with first | second
    · exact List.mem_of_mem_filter (required ▸ first)
    · exact List.mem_of_mem_filter (optional ▸ second)
  apply agrees_rendering (bindable field inside)
  · rw [required, List.mem_filter]
    exact and_iff_right listed
  · rw [optional, List.mem_filter, Bool.not_eq_true']
    exact and_iff_right listed

theorem forall_isOptional_iff (required : decl.required = fields.filter (·.type.isNonNull))
    (optional : decl.optional = fields.filter (!·.type.isNonNull)) :
    (∀ shown ∈ decl.required.map rendering ++ decl.optional.map rendering,
      shown.type.isOptional = true) ↔ decl.required = [] := by
  rw [← List.map_append, List.forall_mem_map]
  simp only [rendering, isOptional_boundField, Bool.not_eq_true']
  constructor
  · intro nullable
    refine List.eq_nil_iff_forall_not_mem.mpr fun field there => ?_
    have solid := List.of_mem_filter (required ▸ there)
    rw [nullable field (List.mem_append_left _ there)] at solid
    cases solid
  · intro none field there
    rw [none, List.nil_append, optional] at there
    simpa using List.of_mem_filter there

end Groups

theorem deriveLine_iff (decl : InputDecl) :
    deriveLine decl = "#[derive(Debug, Clone, Default, PartialEq, Serialize, Deserialize)]" ↔
      decl.required = [] := by
  rw [deriveLine, InputDecl.allOptional]
  cases decl.required with
  | nil => simp
  | cons field rest => simp

theorem deriveLine_ne_iff (decl : InputDecl) :
    deriveLine decl = "#[derive(Debug, Clone, PartialEq, Serialize, Deserialize)]" ↔
      decl.required ≠ [] := by
  rw [deriveLine, InputDecl.allOptional]
  cases decl.required with
  | nil => simp
  | cons field rest => simp

end Binding

-- The two groups of a record are those of its type, in the order in which the type has its fields.
theorem Schema.exists_groups {schema : Schema} (declared : decl ∈ schema.collect.inputs) :
    ∃ type ∈ schema.ownTypes, type.kind = .inputObject ∧ decl.name = type.name ∧
      decl.required = type.inputFields.filter (·.type.isNonNull) ∧
      decl.optional = type.inputFields.filter (!·.type.isNonNull) := by
  obtain ⟨type, inside, picked⟩ := List.mem_filterMap.mp (mem_sortByName.mp declared)
  rw [TypeDescriptor.toInput?] at picked
  split at picked
  · rename_i record
    cases picked
    exact ⟨type, inside, record, rfl, rfl, rfl⟩
  · cases picked

namespace Generation
open Binding

-- Required fields are those that are not nullable outermost, they come first and each group is in
-- the order of the type; and every text about a field or its record says the same of it.
theorem tiers_agree {schema : Schema} (made : Binding.generate schema.collect = .ok files) :
    ∃ text, inputsText schema.collect = .ok text ∧ .render inputsFile text ∈ files ∧
      ∀ decl ∈ schema.collect.inputs,
        (∃ type ∈ schema.ownTypes, type.kind = .inputObject ∧ decl.name = type.name ∧
          decl.required = type.inputFields.filter (·.type.isNonNull) ∧
          decl.optional = type.inputFields.filter (!·.type.isNonNull)) ∧
        ∃ derived required optional,
          Contains text (headLines decl.name decl.description ++
            [derived, "pub struct " ++ decl.name ++ " \x7b"] ++
            (required ++ optional).flatMap Rendering.lines ++ ["\x7d"]) ∧
          List.Forall₂ (Agrees decl) decl.required required ∧
          List.Forall₂ (Agrees decl) decl.optional optional ∧
          (derived = "#[derive(Debug, Clone, Default, PartialEq, Serialize, Deserialize)]" ↔
            ∀ shown ∈ required ++ optional, shown.type.isOptional = true) ∧
          (derived = "#[derive(Debug, Clone, PartialEq, Serialize, Deserialize)]" ↔
            ∃ shown ∈ required ++ optional, shown.type.isOptional = false) := by
  have sound := (generate_decided schema.collect).ok_iff.mp ⟨files, made⟩
  have inputsMade := inputsText_sound sound.inputs
  rw [generate_sound sound] at made
  cases made
  refine ⟨_, inputsMade, List.mem_cons_of_mem _ (List.mem_cons_self ..), fun decl declared => ?_⟩
  obtain ⟨type, inside, record, name, required, optional⟩ := Schema.exists_groups declared
  have agrees : ∀ field ∈ decl.fields, Agrees decl field (rendering field) := fun field =>
    agrees_of_groups required optional (sound.inputs decl declared).bindable
  refine ⟨⟨type, inside, record, name, required, optional⟩, deriveLine decl,
    decl.required.map rendering, decl.optional.map rendering, ?_, ?_, ?_, ?_, ?_⟩
  · exact contains_record inputsMade declared
  · rw [List.forall₂_map_right_iff, List.forall₂_same]
    exact fun field there => agrees field (List.mem_append_left _ there)
  · rw [List.forall₂_map_right_iff, List.forall₂_same]
    exact fun field there => agrees field (List.mem_append_right _ there)
  · rw [deriveLine_iff, forall_isOptional_iff required optional]
  · rw [deriveLine_ne_iff, ne_eq, ← forall_isOptional_iff required optional]
    simp only [not_forall, Bool.not_eq_true, exists_prop]

theorem tiers_agree_catalog :
    ∃ files text, Binding.generate catalog.collect = .ok files ∧ .render inputsFile text ∈ files ∧
      ∃ decl ∈ catalog.collect.inputs, decl.required.map (·.name) = ["price"] ∧
        decl.optional.map (·.name) = ["madeOn", "color", "owner"] ∧
        ∃ fields : List Rendering, fields.length = 4 ∧ Contains text (headLines "Item" none ++
          ["#[derive(Debug, Clone, PartialEq, Serialize, Deserialize)]", "pub struct Item \x7b"] ++
          fields.flatMap Rendering.lines ++ ["\x7d"]) := by
  have sound : catalog.collect.Sound := sound_collect (by decide +kernel) (by decide +kernel)
  obtain ⟨files, made⟩ := (generate_decided catalog.collect).ok_iff.mpr sound
  obtain ⟨text, _, rendered, records⟩ := tiers_agree made
  have picked : ∀ decl ∈ itemType.toInput?, decl ∈ catalog.collect.inputs := fun decl picked =>
    mem_sortByName.mpr (List.mem_filterMap.mpr ⟨itemType, by decide +kernel, picked⟩)
  have declared := picked _ rfl
  obtain ⟨_, derived, required, optional, inside, first, second, _, plain⟩ := records _ declared
  have count : required.length = 1 ∧ optional.length = 3 := ⟨first.length_eq.symm, second.length_eq.symm⟩
  obtain ⟨shown, rfl⟩ := List.length_eq_one_iff.mp count.1
  have agrees := (List.forall₂_cons.mp first).1
  have solid : shown.type.isOptional = false := agrees.plain.mpr rfl
  rw [plain.mpr ⟨shown, List.mem_append_left _ (List.mem_singleton_self _), solid⟩] at inside
  refine ⟨files, text, made, rendered, _, declared, rfl, rfl, _, ?_, inside⟩
  rw [List.length_append, count.2]
  rfl

end Generation
end SchemaBindings
