import SchemaBindings.Proofs.Binding.Declared

namespace SchemaBindings

-- The same without any description.
def Field.undescribed (field : Field) : Field := { field with description := none }

def EnumValue.undescribed (value : EnumValue) : EnumValue := { value with description := none }

def EnumDecl.undescribed (decl : EnumDecl) : EnumDecl :=
  { decl with description := none, values := decl.values.map (·.undescribed) }

def InputDecl.undescribed (decl : InputDecl) : InputDecl :=
  { decl with
    description := none
    required := decl.required.map (·.undescribed)
    optional := decl.optional.map (·.undescribed) }

def ScalarDecl.undescribed (decl : ScalarDecl) : ScalarDecl := { decl with description := none }

def Declarations.undescribed (decls : Declarations) : Declarations where
  enums := decls.enums.map (·.undescribed)
  inputs := decls.inputs.map (·.undescribed)
  scalars := decls.scalars.map (·.undescribed)

namespace Binding

-- Three slashes, perhaps behind spaces.
def isDocumentation (line : List Char) : Bool :=
  ['/', '/', '/'].isPrefixOf (line.dropWhile (· == ' '))

-- The lines of a text without those of its documentation.
def codeLines (text : String) : List (List Char) :=
  (text.toList.splitOn '\n').filter fun line => !isDocumentation line

def codeOf (lines : List String) : List (List Char) := lines.flatMap codeLines

section Lines

theorem codeLines_joinLines (lines : List String) :
    codeLines (joinLines lines) = codeOf lines ++ codeLines "" := by
  induction lines with
  | nil => rfl
  | cons line rest ih =>
    rw [codeLines, toList_joinLines_cons, List.splitOn_append_cons_self, List.filter_append,
      codeOf, List.flatMap_cons, List.append_assoc, ← codeOf, ← ih]
    rfl

theorem codeOf_append (lines others : List String) :
    codeOf (lines ++ others) = codeOf lines ++ codeOf others := List.flatMap_append ..

theorem codeOf_flatten (blocks : List (List String)) :
    codeOf blocks.flatten = (blocks.map codeOf).flatten := by
  induction blocks with
  | nil => rfl
  | cons block rest ih => rw [List.flatten_cons, codeOf_append, ih]; rfl

theorem codeLines_documentation {line : String} (unbroken : Unbroken line)
    (documentation : isDocumentation line.toList = true) : codeLines line = [] := by
  rw [codeLines, List.splitOn_eq_singleton unbroken, List.filter_singleton, documentation]
  rfl

theorem isDocumentation_append {indent : List Char} (blank : ∀ c ∈ indent, c = ' ')
    (rest : List Char) : isDocumentation (indent ++ '/' :: '/' :: '/' :: rest) = true := by
  rw [isDocumentation, List.dropWhile_append_of_pos fun c inside => beq_iff_eq.mpr (blank c inside)]
  rfl

theorem isDocumentation_docLines {indent : String} (blank : ∀ c ∈ indent.toList, c = ' ')
    (text : String) : ∀ line ∈ docLines indent text, isDocumentation line.toList = true := by
  intro line inside
  obtain ⟨chars, _, rfl⟩ := List.mem_map.mp inside
  dsimp only
  split
  · rw [String.toList_append]
    exact isDocumentation_append blank []
  · rw [String.toList_append, String.toList_append, List.append_assoc]
    exact isDocumentation_append blank _

-- A description is taken apart at its line feeds, so that each of its lines is documentation.
theorem codeOf_docLines {indent : String} (blank : ∀ c ∈ indent.toList, c = ' ') (text : String) :
    codeOf (docLines indent text) = [] := by
  have unbroken : Unbroken indent := fun there => nomatch blank _ there
  rw [codeOf, List.flatMap_eq_nil_iff]
  intro line inside
  refine codeLines_documentation ?_ (isDocumentation_docLines blank text line inside)
  obtain ⟨chars, there, rfl⟩ := List.mem_map.mp inside
  have kept : Unbroken (String.ofList (Text.trimEnd chars)) :=
    unbroken_ofList (Text.noBreak_trimEnd (Text.noBreak_lines there))
  dsimp only
  split
  · exact unbroken.append (unbroken_ofList (by decide))
  · exact (unbroken.append (unbroken_ofList (by decide))).append kept

theorem codeOf_headLines (name : String) (description : Option String) :
    codeOf (headLines name description) = codeLines ("/// " ++ name) := by
  cases description with
  | none => exact List.flatMap_singleton ..
  | some text =>
    have separator : codeLines "///" = [] := by decide +kernel
    have doc : codeOf (docLines "" text) = [] := codeOf_docLines (by simp) text
    rw [headLines, codeOf, List.flatMap_cons, List.flatMap_cons, ← codeOf, doc, separator]
    exact List.append_nil _

end Lines

section Blocks

theorem codeOf_variantLines (value : EnumValue) (variant : String) :
    codeOf (variantLines value.undescribed variant) = codeOf (variantLines value variant) := by
  rw [variantLines, variantLines, codeOf_append, codeOf_append, codeOf_append, codeOf_append]
  cases described : value.description with
  | none => rfl
  | some text =>
    have doc : codeOf (docLines "    " text) = [] := codeOf_docLines (by simp) text
    dsimp only
    rw [doc]
    rfl

theorem codeOf_enumLines (decl : EnumDecl) (variants : List String) :
    codeOf (enumLines decl.undescribed variants) = codeOf (enumLines decl variants) := by
  have values : codeOf (List.zipWith variantLines decl.undescribed.values variants).flatten =
      codeOf (List.zipWith variantLines decl.values variants).flatten := by
    rw [codeOf_flatten, codeOf_flatten, EnumDecl.undescribed, List.zipWith_map_left,
      List.map_zipWith, List.map_zipWith]
    simp only [codeOf_variantLines]
  have arms : List.zipWith armLine decl.undescribed.values variants =
      List.zipWith armLine decl.values variants := by
    rw [EnumDecl.undescribed, List.zipWith_map_left]
    rfl
  simp only [enumLines, codeOf_append, codeOf_headLines, values, arms]
  rfl

theorem codeOf_inputFieldLines (field : Field) (identifier : String) (type : FieldType) :
    codeOf (inputFieldLines field.undescribed identifier type) =
      codeOf (inputFieldLines field identifier type) := by
  rw [inputFieldLines, inputFieldLines, codeOf_append, codeOf_append, codeOf_append, codeOf_append]
  cases described : field.description with
  | none => rfl
  | some text =>
    have separator : codeLines "    ///" = [] := by decide +kernel
    have doc : codeOf (docLines "    " text) = [] := codeOf_docLines (by simp) text
    have all : codeOf ("    ///" :: docLines "    " text) = [] := by
      rw [codeOf, List.flatMap_cons, ← codeOf, doc, separator]
      rfl
    dsimp only
    rw [all]
    rfl

theorem codeOf_scalarLines (decl : ScalarDecl) :
    codeOf (scalarLines decl.undescribed) = codeOf (scalarLines decl) := by
  rw [scalarLines, scalarLines, codeOf_append, codeOf_append, codeOf_headLines, codeOf_headLines]
  rfl

end Blocks

section Texts

theorem enumIdentifiers_undescribed (decl : EnumDecl) :
    enumIdentifiers decl.undescribed = enumIdentifiers decl := by
  rw [enumIdentifiers, enumIdentifiers, EnumDecl.undescribed, List.map_map]
  rfl

theorem inputIdentifiers_undescribed (decl : InputDecl) :
    inputIdentifiers decl.undescribed = inputIdentifiers decl := by
  rw [inputIdentifiers, inputIdentifiers, InputDecl.fields, InputDecl.fields,
    InputDecl.undescribed, ← List.map_append, List.map_map]
  rfl

theorem codeLines_blocks {head other : List String} {blocks others : List (List String)}
    (heads : codeOf head = codeOf other) (same : blocks.map codeOf = others.map codeOf) :
    codeLines (joinLines (head ++ blocks.flatten)) =
      codeLines (joinLines (other ++ others.flatten)) := by
  rw [codeLines_joinLines, codeLines_joinLines, codeOf_append, codeOf_append, heads,
    codeOf_flatten, codeOf_flatten, same]

theorem enumsText_undescribed (decls : Declarations) :
    (enumsText decls.undescribed).map codeLines = (enumsText decls).map codeLines := by
  refine map_bind_congr ?_ fun _ _ => codeLines_blocks rfl
  rw [map_mapM, map_mapM, Declarations.undescribed, List.mapM_map]
  congr 1
  funext decl
  rw [Function.comp_apply, enumIdentifiers_undescribed]
  cases enumIdentifiers decl with
  | error _ => rfl
  | ok variants => exact congrArg Except.ok (codeOf_enumLines decl variants)

theorem inputFields_undescribed (decl : InputDecl) (identifiers : List String) :
    ((decl.undescribed.fields.zip identifiers).mapM fun (field, identifier) => do
        return inputFieldLines field identifier (← fieldType decl.name field)).map (List.map codeOf) =
      ((decl.fields.zip identifiers).mapM fun (field, identifier) => do
        return inputFieldLines field identifier (← fieldType decl.name field)).map
          (List.map codeOf) := by
  have fields : decl.undescribed.fields = decl.fields.map (·.undescribed) := List.map_append.symm
  rw [map_mapM, map_mapM, fields, List.zip_map_left, List.mapM_map]
  congr 1
  funext (field, identifier)
  have typed : fieldType decl.name field.undescribed = fieldType decl.name field := rfl
  simp only [Function.comp_apply, Prod.map_apply, id_eq, typed]
  cases fieldType decl.name field with
  | error _ => rfl
  | ok type => exact congrArg Except.ok (codeOf_inputFieldLines field identifier type)

theorem inputLines_undescribed (decl : InputDecl) :
    (inputLines decl.undescribed).map codeOf = (inputLines decl).map codeOf := by
  rw [inputLines, inputLines, inputIdentifiers_undescribed]
  cases inputIdentifiers decl with
  | error _ => rfl
  | ok identifiers =>
    refine map_bind_congr (inputFields_undescribed decl identifiers) fun fields others same => ?_
    have required : decl.undescribed.allOptional = decl.allOptional := List.isEmpty_map
    have derives : deriveLine decl.undescribed = deriveLine decl := by
      rw [deriveLine, deriveLine, required]
    simp only [codeOf_append, codeOf_headLines, codeOf_flatten, same, derives]
    rfl

theorem inputsText_undescribed (decls : Declarations) :
    (inputsText decls.undescribed).map codeLines = (inputsText decls).map codeLines := by
  have names : decls.undescribed.inputNames = decls.inputNames := by
    rw [Declarations.inputNames, Declarations.undescribed, List.map_map]
    rfl
  have heads : markerLines decls.undescribed = markerLines decls := by
    rw [markerLines, markerLines, names]
  refine map_bind_congr ?_ fun _ _ => codeLines_blocks (by rw [heads])
  rw [map_mapM, map_mapM, Declarations.undescribed, List.mapM_map]
  congr 1
  funext decl
  exact inputLines_undescribed decl

theorem scalarsText_undescribed (decls : Declarations) :
    codeLines (scalarsText decls.undescribed) = codeLines (scalarsText decls) := by
  have kept : (decls.undescribed.scalars.filter fun decl => !isBuiltinScalar decl.name) =
      (decls.scalars.filter fun decl => !isBuiltinScalar decl.name).map (·.undescribed) :=
    List.filter_map ..
  have blocks : codeOf ((decls.undescribed.scalars.filter fun decl =>
        !isBuiltinScalar decl.name).flatMap scalarLines) =
      codeOf ((decls.scalars.filter fun decl => !isBuiltinScalar decl.name).flatMap scalarLines) := by
    rw [kept, List.flatMap_map, codeOf, codeOf, List.flatMap_assoc, List.flatMap_assoc]
    congr 1
    exact funext codeOf_scalarLines
  rw [scalarsText, scalarsText, codeLines_joinLines, codeLines_joinLines, codeOf_append,
    codeOf_append, blocks]

end Texts

-- Declarations that differ in descriptions alone: each of the three texts is refused for the same
-- reason, or is the same text but for the lines of documentation.
theorem code_of_undescribed {decls others : Declarations}
    (alike : decls.undescribed = others.undescribed) :
    (enumsText decls).map codeLines = (enumsText others).map codeLines ∧
    (inputsText decls).map codeLines = (inputsText others).map codeLines ∧
    codeLines (scalarsText decls) = codeLines (scalarsText others) := by
  refine ⟨?_, ?_, ?_⟩
  · rw [← enumsText_undescribed decls, alike, enumsText_undescribed]
  · rw [← inputsText_undescribed decls, alike, inputsText_undescribed]
  · rw [← scalarsText_undescribed decls, alike, scalarsText_undescribed]

-- One declaration of each sort, with the same description wherever one may stand.
def described (description : Option String) : Declarations where
  enums := [⟨"Color", description, [⟨"RED", description, false⟩, ⟨"BLUE", description, true⟩]⟩]
  inputs := [⟨"Paint", description, [⟨"color", description, .nonNull (.named .enumeration "Color")⟩],
    [⟨"madeOn", description, .named .scalar "Date"⟩]⟩]
  scalars := [⟨"Date", description⟩, ⟨"Color3", description⟩]

def hostile : Declarations :=
  described (some "*/ \"\n\npub struct Date;  \r\n    fn main() \x7b")

theorem code_of_undescribed_hostile :
    hostile.undescribed = (described none).undescribed ∧
    scalarsText hostile ≠ scalarsText (described none) ∧
    (enumsText hostile).map codeLines = (enumsText (described none)).map codeLines ∧
    (inputsText hostile).map codeLines = (inputsText (described none)).map codeLines ∧
    codeLines (scalarsText hostile) = codeLines (scalarsText (described none)) :=
  ⟨rfl, by decide +kernel, code_of_undescribed rfl⟩

end Binding
end SchemaBindings
