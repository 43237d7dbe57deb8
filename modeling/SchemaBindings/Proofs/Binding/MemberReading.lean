import Mathlib.Data.List.Basic
import SchemaBindings.Proofs.Binding.Members
import SchemaBindings.Proofs.Binding.Placed

namespace SchemaBindings
namespace Binding

def renameFront : List Char :=
  [' ', ' ', ' ', ' ', '#', '[', 's', 'e', 'r', 'd', 'e', '(', 'r', 'e', 'n', 'a', 'm', 'e', ' ', '=',
    ' ']

def armFront : List Char :=
  [' ', ' ', ' ', ' ', ' ', ' ', ' ', ' ', ' ', ' ', ' ', ' ', 'S', 'e', 'l', 'f', ':', ':']

-- The name on the wire that an attribute gives.
def wireIn (line : List Char) : Option String :=
  (renameFront.isPrefixOf? line).bind fun rest => (Text.Quoted.read rest).map (·.1)

-- The attribute belongs to the member in the line below it.
def membersIn : List (List Char) → List Member
  | [] => []
  | line :: rest =>
    match wireIn line with
    | some wire => (rest.head?.elim [] placedIn).map (fun placed => ⟨placed.name, wire⟩) ++ membersIn rest
    | none => membersIn rest

def armIn (line : List Char) : Option Member :=
  (armFront.isPrefixOf? line).bind fun rest =>
    ([' ', '=', '>', ' '].isPrefixOf? (behindWord rest)).bind fun literal =>
      match Text.Quoted.read literal with
      | some (wire, [',']) => some ⟨wordOf rest, wire⟩
      | _ => none

def armsIn (lines : List (List Char)) : List Member := lines.filterMap armIn

-- Neither the name of a member nor an arm.
structure Mute (line : List Char) : Prop where
  wire : wireIn line = none
  arm : armIn line = none

instance (line : List Char) : Decidable (Mute line) :=
  decidable_of_iff (wireIn line = none ∧ armIn line = none)
    ⟨fun ⟨wire, arm⟩ => ⟨wire, arm⟩, fun ⟨wire, arm⟩ => ⟨wire, arm⟩⟩

section Mute
variable {front line : List Char}

def differs (first second : List Char) : Bool := (first.zip second).any fun (a, b) => a != b

theorem isPrefixOf?_append (front rest : List Char) : front.isPrefixOf? (front ++ rest) = some rest :=
  List.isPrefixOf?_eq_some_iff_append_eq.mpr rfl

theorem isPrefixOf?_none {front line : List Char} (apart : differs front line = true)
    (rest : List Char) : front.isPrefixOf? (line ++ rest) = none := by
  induction front generalizing line with
  | nil => cases apart
  | cons a front ih =>
    cases line with
    | nil => cases apart
    | cons b line =>
      rw [List.cons_append, List.isPrefixOf?]
      split
      · rename_i same
        refine ih ?_
        simpa [differs, beq_iff_eq.mp same] using apart
      · rfl

theorem mute_append
    (apart : differs renameFront front = true ∧ differs armFront front = true) (rest : List Char) :
    Mute (front ++ rest) := by
  constructor
  · rw [wireIn, isPrefixOf?_none apart.1]
    rfl
  · rw [armIn, isPrefixOf?_none apart.2]
    rfl

theorem mute_documentation (documents : isDocumentation line = true) : Mute line := by
  have other (front : List Char) (sign : ∀ rest, isDocumentation (front ++ rest) = false) :
      front.isPrefixOf? line = none := by
    cases found : front.isPrefixOf? line with
    | none => rfl
    | some rest =>
      rw [← List.append_eq_of_isPrefixOf?_eq_some found, sign] at documents
      cases documents
  constructor
  · rw [wireIn, other renameFront fun _ => rfl]
    rfl
  · rw [armIn, other armFront fun _ => rfl]
    rfl

end Mute

section Lines

-- The lines as they stand in a text.
def chars (lines : List String) : List (List Char) := lines.map (·.toList)

def MuteLines (lines : List String) : Prop := ∀ line ∈ lines, Mute line.toList

theorem chars_append (lines others : List String) :
    chars (lines ++ others) = chars lines ++ chars others := List.map_append ..

theorem MuteLines.nil : MuteLines [] := nofun

theorem MuteLines.fixed {cs : List Char} (mute : Mute cs) (rest : MuteLines lines) :
    MuteLines (String.ofList cs :: lines) :=
  List.forall_mem_cons.mpr ⟨by rwa [String.toList_ofList], rest⟩

theorem MuteLines.opening {front : List Char} {name closing : String}
    (apart : differs renameFront front = true ∧ differs armFront front = true)
    (rest : MuteLines lines) : MuteLines ((String.ofList front ++ name ++ closing) :: lines) := by
  refine List.forall_mem_cons.mpr ⟨?_, rest⟩
  rw [String.toList_append, String.toList_append, String.toList_ofList, List.append_assoc]
  exact mute_append apart _

theorem muteLines_documents (documents : Documents lines) : MuteLines lines :=
  fun line inside => mute_documentation (documents line inside)

theorem membersIn_skip (silent : ∀ line ∈ lines, wireIn line.toList = none)
    (rest : List (List Char)) : membersIn (chars lines ++ rest) = membersIn rest := by
  induction lines with
  | nil => rfl
  | cons line others ih =>
    obtain ⟨first, later⟩ := List.forall_mem_cons.mp silent
    rw [chars, List.map_cons, List.cons_append, membersIn, first]
    exact ih later

theorem MuteLines.members (mute : MuteLines lines) (rest : List (List Char)) :
    membersIn (chars lines ++ rest) = membersIn rest :=
  membersIn_skip (fun line inside => (mute line inside).wire) rest

theorem armsIn_skip (silent : ∀ line ∈ lines, armIn line.toList = none) :
    armsIn (chars lines) = [] := by
  refine List.filterMap_eq_nil_iff.mpr fun line inside => ?_
  obtain ⟨text, there, rfl⟩ := List.mem_map.mp inside
  exact silent text there

theorem MuteLines.arms (mute : MuteLines lines) : armsIn (chars lines) = [] :=
  armsIn_skip fun line inside => (mute line inside).arm

theorem armsIn_append (lines others : List String) :
    armsIn (chars (lines ++ others)) = armsIn (chars lines) ++ armsIn (chars others) := by
  rw [chars_append]
  exact List.filterMap_append ..

end Lines

section Members
variable {member : Member} {lines : List String} {literal wire identifier : String}

theorem wireIn_rename (spelled : Spells literal wire) (closing : String) :
    wireIn ("    #[serde(rename = " ++ literal ++ closing).toList = some wire := by
  have opening : ("    #[serde(rename = " : String) = String.ofList renameFront := rfl
  rw [wireIn, opening, String.toList_append, String.toList_append, String.toList_ofList,
    List.append_assoc, isPrefixOf?_append, Option.bind_some, spelled]
  rfl

theorem armIn_rename (literal closing : String) :
    armIn ("    #[serde(rename = " ++ literal ++ closing).toList = none := by
  have opening : ("    #[serde(rename = " : String) = String.ofList renameFront := rfl
  rw [opening, String.toList_append, String.toList_append, String.toList_ofList, List.append_assoc,
    armIn, isPrefixOf?_none (by decide)]
  rfl

-- What is read of a member: its attribute and its own line below, and documentation in front.
theorem membersIn_member {front : List String} {label own : String} (notes : Documents front)
    (named : wireIn label.toList = some wire)
    (placed : placedIn own.toList = [⟨place, identifier⟩]) (mute : Mute own.toList)
    (rest : List (List Char)) :
    membersIn (chars (front ++ [label, own]) ++ rest) =
      ⟨identifier, wire⟩ :: membersIn rest := by
  rw [chars_append, List.append_assoc, (muteLines_documents notes).members]
  change membersIn (label.toList :: own.toList :: rest) = _
  rw [membersIn, named, membersIn, mute.wire]
  simp [placed]

theorem armsIn_member {front : List String} {label own : String} (notes : Documents front)
    (named : armIn label.toList = none) (mute : Mute own.toList) :
    armsIn (chars (front ++ [label, own])) = [] := by
  rw [armsIn_append, (muteLines_documents notes).arms]
  exact armsIn_skip (List.forall_mem_cons.mpr ⟨named, List.forall_mem_singleton.mpr mute.arm⟩)

theorem variant_line (name : Naming.IsName identifier) :
    Mute ("    " ++ identifier ++ ",").toList ∧
      placedIn ("    " ++ identifier ++ ",").toList = [⟨.variant, identifier⟩] := by
  have line : ("    " ++ identifier ++ ",").toList =
      ' ' :: ' ' :: ' ' :: ' ' :: (identifier.toList ++ [',']) := by simp
  rw [line]
  refine ⟨?_, placedIn_variant (readable_name name)⟩
  rw [Naming.IsName] at name
  cases begun : identifier.toList with
  | nil =>
    rw [begun] at name
    cases name
  | cons c rest =>
    rw [begun, Naming.isName, Bool.and_eq_true] at name
    have other : c ≠ '#' ∧ c ≠ ' ' := by
      constructor
      · rintro rfl
        exact absurd name.1 (by decide)
      · rintro rfl
        exact absurd name.1 (by decide)
    have apart : differs renameFront [' ', ' ', ' ', ' ', c] = true ∧
        differs armFront [' ', ' ', ' ', ' ', c] = true := by
      simp [differs, renameFront, armFront, other.1.symm, other.2.symm]
    exact mute_append apart (rest ++ [','])

theorem field_line {type : String} (legal : Naming.Legal identifier) :
    Mute ("    pub " ++ identifier ++ ": " ++ type ++ ",").toList ∧
      placedIn ("    pub " ++ identifier ++ ": " ++ type ++ ",").toList =
        [⟨.field, identifier⟩] := by
  have line : ("    pub " ++ identifier ++ ": " ++ type ++ ",").toList =
      [' ', ' ', ' ', ' ', 'p', 'u', 'b', ' '] ++
        (identifier.toList ++ ':' :: (' ' :: type.toList ++ [','])) := by simp
  rw [line]
  exact ⟨mute_append (by decide) _, placedIn_field (readable_legal legal) _⟩

theorem VariantWritten.read (written : VariantWritten member lines)
    (name : Naming.IsName member.identifier) (rest : List (List Char)) :
    membersIn (chars lines ++ rest) = member :: membersIn rest ∧ armsIn (chars lines) = [] := by
  obtain ⟨notes, spelled⟩ := written
  obtain ⟨mute, placed⟩ := variant_line name
  exact ⟨membersIn_member notes (wireIn_rename spelled _) placed mute rest,
    armsIn_member notes (armIn_rename _ _) mute⟩

theorem FieldWritten.read (written : FieldWritten member lines)
    (legal : Naming.Legal member.identifier) (rest : List (List Char)) :
    membersIn (chars lines ++ rest) = member :: membersIn rest := by
  obtain ⟨notes, spelled, _⟩ := written
  obtain ⟨mute, placed⟩ := field_line legal
  exact membersIn_member notes (wireIn_rename spelled _) placed mute rest

theorem ArmWritten.read {line : String} (written : ArmWritten member line)
    (name : Naming.IsName member.identifier) :
    armIn line.toList = some member ∧ wireIn line.toList = none := by
  obtain ⟨spelled⟩ := written
  rename_i literal wire identifier
  have line : ("            Self::" ++ identifier ++ " => " ++ literal ++ ",").toList =
      armFront ++ (identifier.toList ++ ([' ', '=', '>', ' '] ++ (literal.toList ++ [',']))) := by
    simp [armFront]
  have blank : isNameChar ' ' = false := by decide +kernel
  have word := (readable_name name).word ([' ', '=', '>', ' '] ++ (literal.toList ++ [',']))
    (by simp [blank])
  rw [line]
  constructor
  · rw [armIn, isPrefixOf?_append, Option.bind_some, word.2, isPrefixOf?_append, Option.bind_some,
      spelled, word.1]
    rfl
  · rw [wireIn, isPrefixOf?_none (by decide)]
    rfl

end Members

section Rows
variable {all : List Member} {bodies : List (List String)}

theorem membersIn_flatten {Written : Member → List String → Prop}
    (written : List.Forall₂ Written all bodies)
    (read : ∀ member ∈ all, ∀ lines, Written member lines → ∀ rest,
      membersIn (chars lines ++ rest) = member :: membersIn rest) (rest : List (List Char)) :
    membersIn (chars bodies.flatten ++ rest) = all ++ membersIn rest := by
  induction written with
  | nil => rfl
  | cons first others ih =>
    obtain ⟨here, later⟩ := List.forall_mem_cons.mp read
    rw [List.flatten_cons, chars_append, List.append_assoc, here _ first, ih later,
      List.cons_append]

theorem armsIn_flatten (written : List.Forall₂ VariantWritten all bodies)
    (names : ∀ member ∈ all, Naming.IsName member.identifier) :
    armsIn (chars bodies.flatten) = [] := by
  induction written with
  | nil => rfl
  | cons first others ih =>
    obtain ⟨here, later⟩ := List.forall_mem_cons.mp names
    rw [List.flatten_cons, armsIn_append, (first.read here []).2, ih later]
    rfl

theorem armsIn_patterns (written : List.Forall₂ ArmWritten all patterns)
    (names : ∀ member ∈ all, Naming.IsName member.identifier) :
    armsIn (chars patterns) = all ∧ ∀ line ∈ patterns, wireIn line.toList = none := by
  induction written with
  | nil => exact ⟨rfl, nofun⟩
  | cons first others ih =>
    obtain ⟨here, later⟩ := List.forall_mem_cons.mp names
    obtain ⟨arm, silent⟩ := first.read here
    obtain ⟨arms, quiet⟩ := ih later
    refine ⟨?_, List.forall_mem_cons.mpr ⟨silent, quiet⟩⟩
    rw [chars, List.map_cons, armsIn, List.filterMap_cons_some arm]
    exact congrArg (_ :: ·) arms

theorem mute_variantsFront (name : String) : MuteLines (variantsFront name) :=
  .fixed (by decide +kernel) (.opening (by decide) .nil)

theorem mute_armsFront (name : String) : MuteLines (armsFront name) :=
  .fixed (by decide +kernel) (.fixed (by decide +kernel) (.opening (by decide)
    (.fixed (by decide +kernel) (.fixed (by decide +kernel) (.fixed (by decide +kernel)
      (.fixed (by decide +kernel) .nil))))))

theorem mute_armsBehind (name : String) : MuteLines (armsBehind name) :=
  .fixed (by decide +kernel) (.fixed (by decide +kernel) (.fixed (by decide +kernel)
    (.fixed (by decide +kernel) (.opening (by decide) (.fixed (by decide +kernel)
      (.fixed (by decide +kernel) (.fixed (by decide +kernel) (.fixed (by decide +kernel)
        (.fixed (by decide +kernel) .nil)))))))))

theorem EnumLists.read {name : String} {variants arms : List Member} {block : List String}
    (lists : EnumLists name variants arms block)
    (named : ∀ member ∈ variants ++ arms, Naming.IsName member.identifier) :
    membersIn (chars block) = variants ∧ armsIn (chars block) = arms := by
  obtain ⟨notes, body, cases⟩ := lists
  obtain ⟨variantNames, armNames⟩ := List.forall_mem_append.mp named
  have documentation := muteLines_documents notes
  have head := mute_variantsFront name
  have middle := mute_armsFront name
  have foot := mute_armsBehind name
  obtain ⟨patterns, silent⟩ := armsIn_patterns cases armNames
  constructor
  · have last := foot.members []
    rw [List.append_nil] at last
    simp only [chars_append, List.append_assoc]
    rw [documentation.members, head.members,
      membersIn_flatten body fun member inside _ written rest =>
        (written.read (variantNames member inside) rest).1,
      middle.members, membersIn_skip silent, last]
    exact List.append_nil _
  · rw [armsIn_append, armsIn_append, armsIn_append, armsIn_append, armsIn_append,
      documentation.arms, head.arms, armsIn_flatten body variantNames, middle.arms, patterns,
      foot.arms]
    exact List.append_nil _

theorem RecordLists.read {name : String} {fields : List Member} {block : List String}
    (lists : RecordLists name fields block)
    (legal : ∀ member ∈ fields, Naming.Legal member.identifier) :
    membersIn (chars block) = fields := by
  obtain ⟨notes, derived, body⟩ := lists
  rename_i front bodies derive
  have head : MuteLines [derive, "pub struct " ++ name ++ " \x7b"] := by
    refine List.forall_mem_cons.mpr ⟨?_, MuteLines.opening (by decide) .nil⟩
    obtain ⟨rest, same⟩ := List.isPrefixOf_iff_prefix.mp derived
    rw [← same]
    exact mute_append (by decide) rest
  have foot : MuteLines ["\x7d", "", "impl Input for " ++ name ++ " \x7b\x7d", ""] :=
    .fixed (by decide +kernel) (.fixed (by decide +kernel) (.opening (by decide)
      (.fixed (by decide +kernel) .nil)))
  have last := foot.members []
  rw [List.append_nil] at last
  simp only [chars_append, List.append_assoc]
  rw [(muteLines_documents notes).members, head.members,
    membersIn_flatten body fun member inside _ written => written.read (legal member inside), last]
  exact List.append_nil _

end Rows

section Declarations

structure EnumWritten (decl : EnumDecl) (block : List String) : Prop where
  lists : EnumLists decl.name decl.members decl.members block
  read : Naming.IsName decl.name → (∀ value ∈ decl.values, Naming.IsName value.name) →
    membersIn (chars block) = decl.members ∧ armsIn (chars block) = decl.members
  distinct : OneToOne decl.members
  injective : ∀ a b wire, wireOf decl.members a = some wire →
    wireOf decl.members b = some wire → a = b
  back : ∀ identifier wire, wireOf decl.members identifier = some wire ↔
    identifierOf decl.members wire = some identifier

structure RecordWritten (decl : InputDecl) (block : List String) : Prop where
  lists : RecordLists decl.name decl.members block
  read : (∀ field ∈ decl.fields, Naming.IsName field.name) →
    membersIn (chars block) = decl.members
  distinct : OneToOne decl.members

theorem written_enumBlock {decl : EnumDecl} (sound : decl.Sound) :
    EnumWritten decl (enumBlock decl) := by
  have lists := lists_enumBlock decl
  have distinct : OneToOne decl.members := oneToOne_map sound
  refine ⟨lists, fun owner names => lists.read ?_, distinct,
    fun _ _ _ => distinct.wireOf_injective, fun _ _ => distinct.back⟩
  have named : ∀ member ∈ decl.members, Naming.IsName member.identifier :=
    List.forall_mem_map.mpr fun value inside =>
      Naming.isName_enumValueIdentifier owner (names value inside)
  exact List.forall_mem_append.mpr ⟨named, named⟩

theorem written_inputBlock {decl : InputDecl} (sound : decl.Sound) :
    RecordWritten decl (inputBlock decl) := by
  have lists := lists_inputBlock decl
  refine ⟨lists, fun names => lists.read ?_, oneToOne_map sound.distinct⟩
  exact List.forall_mem_map.mpr fun field inside =>
    Naming.legal_fieldIdentifier (names field inside)

-- A text that is made has a block for each declaration, and each block all of its members.
theorem members_written (decls : Declarations) :
    (∀ text, enumsText decls = .ok text → ∃ blocks,
      text = joinLines (enumsHead ++ blocks.flatten) ∧
      List.Forall₂ EnumWritten decls.enums blocks) ∧
    (∀ text, inputsText decls = .ok text → ∃ blocks,
      text = joinLines (inputsHead decls ++ blocks.flatten) ∧
      List.Forall₂ RecordWritten decls.inputs blocks) := by
  constructor
  · intro text made
    have sound := (enumsText_decided decls).ok_iff.mp ⟨text, made⟩
    rw [enumsText_sound sound] at made
    refine ⟨decls.enums.map enumBlock, ?_, ?_⟩
    · rw [← Except.ok.inj made, List.flatMap_def]
    · rw [List.forall₂_map_right_iff, List.forall₂_same]
      exact fun decl inside => written_enumBlock (sound decl inside)
  · intro text made
    have sound := (inputsText_decided decls).ok_iff.mp ⟨text, made⟩
    rw [inputsText_sound sound] at made
    refine ⟨decls.inputs.map inputBlock, ?_, ?_⟩
    · rw [← Except.ok.inj made, List.flatMap_def]
    · rw [List.forall₂_map_right_iff, List.forall₂_same]
      exact fun decl inside => written_inputBlock (sound decl inside)

def palette : Declarations where
  enums := [⟨"Color", some "What is\nmixed.", [⟨"RED", none, false⟩, ⟨"light \"blue\"", none, true⟩]⟩]
  inputs := [⟨"Paint", none, [⟨"color", none, .nonNull (.named .enumeration "Color")⟩],
    [⟨"madeOn", some "The day.", .named .scalar "Date"⟩]⟩]
  scalars := []

theorem members_written_palette :
    (∃ text blocks, enumsText palette = .ok text ∧
      text = joinLines (enumsHead ++ blocks.flatten) ∧
      List.Forall₂ EnumWritten palette.enums blocks) ∧
    ∃ text blocks, inputsText palette = .ok text ∧
      text = joinLines (inputsHead palette ++ blocks.flatten) ∧
      List.Forall₂ RecordWritten palette.inputs blocks := by
  obtain ⟨enums, inputs⟩ := members_written palette
  have enumsSound : ∀ decl ∈ palette.enums, decl.Sound := by decide +kernel
  have inputsSound : ∀ decl ∈ palette.inputs, decl.Sound := by decide +kernel
  have enumsMade := enumsText_sound enumsSound
  have inputsMade := inputsText_sound inputsSound
  obtain ⟨variants, first⟩ := enums _ enumsMade
  obtain ⟨fields, second⟩ := inputs _ inputsMade
  exact ⟨⟨_, variants, enumsMade, first⟩, ⟨_, fields, inputsMade, second⟩⟩

end Declarations

end Binding
end SchemaBindings
