import SchemaBindings.Proofs.Binding.Descriptions
import SchemaBindings.Proofs.Source.Pieces

namespace SchemaBindings

-- What a member is called in the bindings, and what it is called on the wire.
structure Member where
  identifier : String
  wire : String
  deriving DecidableEq, Repr

def EnumDecl.members (decl : EnumDecl) : List Member :=
  decl.values.map fun value => ⟨Naming.enumValueIdentifier decl.name value.name, value.name⟩

def InputDecl.members (decl : InputDecl) : List Member :=
  decl.fields.map fun field => ⟨Naming.fieldIdentifier field.name, field.name⟩

namespace Binding

-- A literal that stands for the name, whatever follows it.
def Spells (literal name : String) : Prop :=
  ∀ after, Text.Quoted.read (literal.toList ++ after) = some (name, after)

def Documents (lines : List String) : Prop := ∀ line ∈ lines, isDocumentation line.toList = true

inductive VariantWritten : Member → List String → Prop where
  | mk (notes : Documents front) (spelled : Spells literal wire) :
      VariantWritten ⟨identifier, wire⟩
        (front ++ ["    #[serde(rename = " ++ literal ++ ")]", "    " ++ identifier ++ ","])

inductive ArmWritten : Member → String → Prop where
  | mk (spelled : Spells literal wire) :
      ArmWritten ⟨identifier, wire⟩ ("            Self::" ++ identifier ++ " => " ++ literal ++ ",")

inductive FieldWritten : Member → List String → Prop where
  | mk (notes : Documents front) (spelled : Spells literal wire)
      (rest : closing = ")]" ∨ closing = ", skip_serializing_if = \"Option::is_none\")]") :
      FieldWritten ⟨identifier, wire⟩
        (front ++ ["    #[serde(rename = " ++ literal ++ closing,
          "    pub " ++ identifier ++ ": " ++ type ++ ","])

def variantsFront (name : String) : List String :=
  ["#[derive(Debug, Clone, Copy, PartialEq, Eq, Hash, Serialize, Deserialize)]",
   "pub enum " ++ name ++ " \x7b"]

def armsFront (name : String) : List String :=
  ["\x7d",
   "",
   "impl " ++ name ++ " \x7b",
   "    /// Returns the value as sent on the wire.",
   "    #[must_use]",
   "    pub const fn as_str(&self) -> &'static str \x7b",
   "        match *self \x7b"]

def armsBehind (name : String) : List String :=
  ["        \x7d",
   "    \x7d",
   "\x7d",
   "",
   "impl std::fmt::Display for " ++ name ++ " \x7b",
   "    fn fmt(&self, f: &mut std::fmt::Formatter<'_>) -> std::fmt::Result \x7b",
   "        f.write_str(self.as_str())",
   "    \x7d",
   "\x7d",
   ""]

-- The variants in the body of an enum, and the arms of the match that gives their names.
inductive EnumLists (name : String) (variants arms : List Member) : List String → Prop where
  | mk (notes : Documents front) (body : List.Forall₂ VariantWritten variants bodies)
      (cases : List.Forall₂ ArmWritten arms patterns) :
      EnumLists name variants arms (front ++ variantsFront name ++ bodies.flatten ++
        armsFront name ++ patterns ++ armsBehind name)

inductive RecordLists (name : String) (fields : List Member) : List String → Prop where
  | mk (notes : Documents front) (derived : ['#', '['].isPrefixOf derive.toList = true)
      (body : List.Forall₂ FieldWritten fields bodies) :
      RecordLists name fields (front ++ [derive, "pub struct " ++ name ++ " \x7b"] ++
        bodies.flatten ++ ["\x7d", "", "impl Input for " ++ name ++ " \x7b\x7d", ""])

section Lookup
variable {members : List Member}

-- The name in the first arm that has the variant for its pattern.
def wireOf (arms : List Member) (identifier : String) : Option String :=
  (arms.find? (·.identifier == identifier)).map (·.wire)

-- The variant with that name on the wire.
def identifierOf (variants : List Member) (wire : String) : Option String :=
  (variants.find? (·.wire == wire)).map (·.identifier)

structure OneToOne (members : List Member) : Prop where
  identifiers : (members.map (·.identifier)).Nodup
  wires : (members.map (·.wire)).Nodup

theorem find?_of_nodup {key : α → String} {values : List α} (distinct : (values.map key).Nodup)
    (inside : a ∈ values) : values.find? (key · == key a) = some a := by
  induction values with
  | nil => cases inside
  | cons b rest ih =>
    rw [List.map_cons, List.nodup_cons] at distinct
    rcases List.mem_cons.mp inside with rfl | there
    · exact List.find?_cons_of_pos (beq_self_eq_true _)
    · have other : key b ≠ key a := fun same => distinct.1 (same ▸ List.mem_map_of_mem there)
      rw [List.find?_cons_of_neg (by simpa using other), ih distinct.2 there]

theorem find?_map_iff {key look : α → String} {values : List α}
    (distinct : (values.map key).Nodup) :
    (values.find? (key · == k)).map look = some v ↔ ∃ a ∈ values, key a = k ∧ look a = v := by
  constructor
  · intro found
    obtain ⟨a, first, same⟩ := Option.map_eq_some_iff.mp found
    exact ⟨a, List.mem_of_find?_eq_some first, by simpa using List.find?_some first, same⟩
  · rintro ⟨a, inside, rfl, rfl⟩
    rw [find?_of_nodup distinct inside]
    rfl

theorem OneToOne.wireOf_iff (members : OneToOne all) :
    wireOf all identifier = some wire ↔ ⟨identifier, wire⟩ ∈ all := by
  rw [wireOf, find?_map_iff members.identifiers]
  constructor
  · rintro ⟨member, inside, rfl, rfl⟩
    exact inside
  · exact fun inside => ⟨_, inside, rfl, rfl⟩

theorem OneToOne.identifierOf_iff (members : OneToOne all) :
    identifierOf all wire = some identifier ↔ ⟨identifier, wire⟩ ∈ all := by
  rw [identifierOf, find?_map_iff members.wires]
  constructor
  · rintro ⟨member, inside, rfl, rfl⟩
    exact inside
  · exact fun inside => ⟨_, inside, rfl, rfl⟩

theorem OneToOne.back (members : OneToOne all) :
    wireOf all identifier = some wire ↔ identifierOf all wire = some identifier := by
  rw [members.wireOf_iff, members.identifierOf_iff]

theorem OneToOne.wireOf_injective (members : OneToOne all) (first : wireOf all a = some wire)
    (second : wireOf all b = some wire) : a = b := by
  rw [members.back] at first second
  exact Option.some.inj (first.symm.trans second)

end Lookup

section Lines

theorem spells_encode (name : String) : Spells (Text.Quoted.encode name) name :=
  Text.Quoted.read_encode name

theorem documents_headLines (name : String) (description : Option String) :
    Documents (headLines name description) := by
  have slashes : ("/// " : String) = String.ofList ['/', '/', '/', ' '] := rfl
  have named : isDocumentation ("/// " ++ name).toList = true := by
    rw [slashes, String.toList_append, String.toList_ofList]
    exact isDocumentation_append (List.forall_mem_nil _) (' ' :: name.toList)
  refine List.forall_mem_cons.mpr ⟨named, ?_⟩
  cases description with
  | none => exact nofun
  | some text =>
    exact List.forall_mem_cons.mpr ⟨by decide +kernel, isDocumentation_docLines (by simp) text⟩

theorem documents_indented (description : Option String) :
    Documents (match description with
      | some text => docLines "    " text
      | none => []) := by
  cases description with
  | none => exact nofun
  | some text => exact isDocumentation_docLines (by simp) text

-- The text of documentation is all that stands in front of the name of a value.
theorem variantLines_eq (value : EnumValue) (variant : String) : ∃ front, Documents front ∧
    variantLines value variant =
      front ++ ["    #[serde(rename = " ++ Text.Quoted.encode value.name ++ ")]",
        "    " ++ variant ++ ","] := by
  have deprecated : Documents (if value.isDeprecated then ["    /// Deprecated."] else []) := by
    split
    · exact List.forall_mem_singleton.mpr (by decide +kernel)
    · exact nofun
  exact ⟨_, List.forall_mem_append.mpr ⟨documents_indented _, deprecated⟩, rfl⟩

def renameClosing (required : Bool) : String :=
  if required then ")]" else ", skip_serializing_if = \"Option::is_none\")]"

theorem renameLine_eq (name : String) (required : Bool) : renameLine name required =
    "    #[serde(rename = " ++ Text.Quoted.encode name ++ renameClosing required := by
  rw [renameLine, renameClosing]
  split
  · rfl
  · rfl

theorem inputFieldLines_eq (field : Field) (identifier : String) (type : FieldType) :
    ∃ front, Documents front ∧ inputFieldLines field identifier type =
      front ++ ["    #[serde(rename = " ++ Text.Quoted.encode field.name ++
          renameClosing type.required,
        "    pub " ++ identifier ++ ": " ++ type.expr.text ++ ","] := by
  have tier : Documents [if type.required then "    /// (Required.)" else "    /// (Optional.)"] := by
    refine List.forall_mem_singleton.mpr ?_
    split
    · decide +kernel
    · decide +kernel
  have described : Documents (match field.description with
      | some text => "    ///" :: docLines "    " text
      | none => []) := by
    cases field.description with
    | none => exact nofun
    | some text =>
      exact List.forall_mem_cons.mpr ⟨by decide +kernel, documents_indented (some text)⟩
  rw [inputFieldLines, renameLine_eq]
  exact ⟨_, List.forall_mem_append.mpr ⟨tier, described⟩, rfl⟩

theorem written_variant (value : EnumValue) (variant : String) :
    VariantWritten ⟨variant, value.name⟩ (variantLines value variant) := by
  obtain ⟨front, notes, same⟩ := variantLines_eq value variant
  rw [same]
  exact .mk notes (spells_encode _)

theorem written_field (field : Field) (identifier : String) (type : FieldType) :
    FieldWritten ⟨identifier, field.name⟩ (inputFieldLines field identifier type) := by
  obtain ⟨front, notes, same⟩ := inputFieldLines_eq field identifier type
  rw [same]
  refine .mk notes (spells_encode _) ?_
  unfold renameClosing
  split
  · exact .inl rfl
  · exact .inr rfl

end Lines

section Declarations

theorem lists_enumBlock (decl : EnumDecl) :
    EnumLists decl.name decl.members decl.members (enumBlock decl) := by
  have body : List.Forall₂ VariantWritten decl.members
      (decl.values.map (variantBlock decl.name)) := by
    rw [EnumDecl.members, List.forall₂_map_left_iff, List.forall₂_map_right_iff, List.forall₂_same]
    exact fun value _ => written_variant value _
  have cases : List.Forall₂ ArmWritten decl.members (decl.values.map (valueArm decl.name)) := by
    rw [EnumDecl.members, List.forall₂_map_left_iff, List.forall₂_map_right_iff, List.forall₂_same]
    exact fun value _ => .mk (spells_encode _)
  have lists : EnumLists decl.name decl.members decl.members _ :=
    .mk (documents_headLines decl.name decl.description) body cases
  rw [enumBlock_eq, List.flatMap_def]
  simpa only [variantsFront, armsFront, armsBehind, List.append_assoc, List.cons_append,
    List.nil_append] using lists

theorem lists_inputBlock (decl : InputDecl) :
    RecordLists decl.name decl.members (inputBlock decl) := by
  have body : List.Forall₂ FieldWritten decl.members (decl.fields.map fieldBlock) := by
    rw [InputDecl.members, List.forall₂_map_left_iff, List.forall₂_map_right_iff, List.forall₂_same]
    exact fun field _ => written_field field _ _
  have derived : ['#', '['].isPrefixOf (deriveLine decl).toList = true := by
    rw [deriveLine]
    split
    · decide +kernel
    · decide +kernel
  rw [inputBlock, List.flatMap_def]
  exact .mk (documents_headLines decl.name decl.description) derived body

-- Names that are the same give identifiers that are the same.
theorem oneToOne_map {values : List α} {wire : α → String} {normalize : String → String}
    (distinct : (values.map fun a => normalize (wire a)).Nodup) :
    OneToOne (values.map fun a => ⟨normalize (wire a), wire a⟩) := by
  constructor
  · rwa [List.map_map]
  · rw [List.map_map]
    refine List.Nodup.of_map normalize ?_
    rwa [List.map_map]

end Declarations
open Source

-- A line with a literal in it that stands for the name.
inductive Carries (front behind name : String) : String → Prop where
  | mk (its : IsLiteral literal name) : Carries front behind name (front ++ literal ++ behind)

-- The lines of a member: documentation, the attribute with its name, and its own line.
inductive MemberQuoted (behind name own : String) : List String → Prop where
  | mk (notes : Documents front)
      (renamed : Carries "    #[serde(rename = " behind name label) :
      MemberQuoted behind name own (front ++ [label, own])

def ArmQuoted (owner : String) (value : EnumValue) : String → Prop :=
  Carries ("            Self::" ++ Naming.enumValueIdentifier owner value.name ++ " => ") ","
    value.name

def VariantQuoted (owner : String) (value : EnumValue) : List String → Prop :=
  MemberQuoted ")]" value.name ("    " ++ Naming.enumValueIdentifier owner value.name ++ ",")

def FieldQuoted (field : Field) : List String → Prop :=
  MemberQuoted (renameClosing (boundField field).required) field.name
    ("    pub " ++ Naming.fieldIdentifier field.name ++ ": " ++ (boundField field).expr.text ++ ",")

inductive EnumQuoted (decl : EnumDecl) : List String → Prop where
  | mk (variants : List.Forall₂ (VariantQuoted decl.name) decl.values bodies)
      (arms : List.Forall₂ (ArmQuoted decl.name) decl.values patterns) :
      EnumQuoted decl (headLines decl.name decl.description ++ variantsFront decl.name ++
        bodies.flatten ++ armsFront decl.name ++ patterns ++ armsBehind decl.name)

inductive RecordQuoted (decl : InputDecl) : List String → Prop where
  | mk (fields : List.Forall₂ FieldQuoted decl.fields bodies) :
      RecordQuoted decl (headLines decl.name decl.description ++
        [deriveLine decl, "pub struct " ++ decl.name ++ " \x7b"] ++ bodies.flatten ++
        ["\x7d", "", "impl Input for " ++ decl.name ++ " \x7b\x7d", ""])

section Lines

theorem carries_encode (front behind name : String) :
    Carries front behind name (front ++ Text.Quoted.encode name ++ behind) :=
  .mk (isLiteral_encode name)

theorem variantQuoted_block (owner : String) (value : EnumValue) :
    VariantQuoted owner value (variantBlock owner value) := by
  obtain ⟨front, notes, same⟩ :=
    variantLines_eq value (Naming.enumValueIdentifier owner value.name)
  rw [variantBlock, same]
  exact .mk notes (carries_encode _ _ _)

theorem armQuoted_arm (owner : String) (value : EnumValue) :
    ArmQuoted owner value (valueArm owner value) :=
  carries_encode _ _ _

theorem fieldQuoted_block (field : Field) : FieldQuoted field (fieldBlock field) := by
  obtain ⟨front, notes, same⟩ :=
    inputFieldLines_eq field (Naming.fieldIdentifier field.name) (boundField field)
  rw [fieldBlock, same]
  exact .mk notes (carries_encode _ _ _)

theorem enumQuoted_block (decl : EnumDecl) : EnumQuoted decl (enumBlock decl) := by
  have variants : List.Forall₂ (VariantQuoted decl.name) decl.values
      (decl.values.map (variantBlock decl.name)) := by
    rw [List.forall₂_map_right_iff, List.forall₂_same]
    exact fun value _ => variantQuoted_block decl.name value
  have arms : List.Forall₂ (ArmQuoted decl.name) decl.values
      (decl.values.map (valueArm decl.name)) := by
    rw [List.forall₂_map_right_iff, List.forall₂_same]
    exact fun value _ => armQuoted_arm decl.name value
  have quoted : EnumQuoted decl _ := .mk variants arms
  rw [enumBlock_eq, List.flatMap_def]
  simpa only [variantsFront, armsFront, armsBehind, List.append_assoc, List.cons_append,
    List.nil_append] using quoted

theorem recordQuoted_block (decl : InputDecl) : RecordQuoted decl (inputBlock decl) := by
  have fields : List.Forall₂ FieldQuoted decl.fields (decl.fields.map fieldBlock) := by
    rw [List.forall₂_map_right_iff, List.forall₂_same]
    exact fun field _ => fieldQuoted_block field
  rw [inputBlock, List.flatMap_def]
  exact .mk fields

end Lines

-- Whatever a value or a field is called, its name is one literal wherever it is written.
theorem wireNames_quoted (decls : Declarations) :
    (∀ text, enumsText decls = .ok text → ∃ blocks,
      text = joinLines (enumsHead ++ blocks.flatten) ∧
      List.Forall₂ EnumQuoted decls.enums blocks) ∧
    (∀ text, inputsText decls = .ok text → ∃ blocks,
      text = joinLines (inputsHead decls ++ blocks.flatten) ∧
      List.Forall₂ RecordQuoted decls.inputs blocks) := by
  constructor
  · intro text made
    exact blocks_enumsText (fun decl _ => enumQuoted_block decl) made
  · intro text made
    exact blocks_inputsText (fun decl _ => recordQuoted_block decl) made

-- Names that would end a literal, a line or the text, were they written as they are.
def hostileNames : Declarations where
  enums := [⟨"Mark", none, [⟨"\")] fn main() \x7b\x7d", none, false⟩, ⟨"\\", none, true⟩,
    ⟨"two\nlines\r\n", none, false⟩, ⟨"e\u0301\u0000\t\u200b", none, false⟩, ⟨"", none, false⟩]⟩]
  inputs := [⟨"Wall", none, [⟨"\\u\x7b22\x7d\"", none, .nonNull (.named .enumeration "Mark")⟩],
    [⟨"name\r= \"", none, .named .scalar "String"⟩]⟩]
  scalars := []

theorem wireNames_quoted_hostile :
    (∃ text blocks, enumsText hostileNames = .ok text ∧
      text = joinLines (enumsHead ++ blocks.flatten) ∧
      List.Forall₂ EnumQuoted hostileNames.enums blocks) ∧
    ∃ text blocks, inputsText hostileNames = .ok text ∧
      text = joinLines (inputsHead hostileNames ++ blocks.flatten) ∧
      List.Forall₂ RecordQuoted hostileNames.inputs blocks := by
  obtain ⟨enums, inputs⟩ := wireNames_quoted hostileNames
  have enumsSound : ∀ decl ∈ hostileNames.enums, decl.Sound := by decide +kernel
  have inputsSound : ∀ decl ∈ hostileNames.inputs, decl.Sound := by decide +kernel
  have enumsMade := enumsText_sound enumsSound
  have inputsMade := inputsText_sound inputsSound
  obtain ⟨variants, first⟩ := enums _ enumsMade
  obtain ⟨fields, second⟩ := inputs _ inputsMade
  exact ⟨⟨_, variants, enumsMade, first⟩, ⟨_, fields, inputsMade, second⟩⟩

end Binding

end SchemaBindings
