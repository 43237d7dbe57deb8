import SchemaBindings.Proofs.Binding.Emission
import SchemaBindings.Proofs.Naming.Words

namespace SchemaBindings.Binding

def openings : List String := ["pub enum ", "pub struct ", "pub type "]

-- A declaration begins its line. Its name goes on as long as there are characters that identifiers
-- are made of.
def declaredName? (line : List Char) : Option String :=
  openings.findSome? fun opening =>
    (opening.toList.isPrefixOf? line).map fun rest =>
      String.ofList (rest.takeWhile Text.isIdentifierPart)

def declaredNames (text : String) : List String :=
  (text.toList.splitOn '\n').filterMap declaredName?

def namesIn (lines : List String) : List String := lines.flatMap declaredNames

def Unbroken (line : String) : Prop := '\n' ∉ line.toList

-- A name that is read as far as it goes.
def IsWord (name : String) : Prop := name.toList.all Text.isIdentifierPart = true

-- Whatever follows, this is not how a declaration begins.
def Apart (opening : String) : Prop :=
  Unbroken opening ∧ opening.toList.head?.any (· != 'p') = true

-- No name is read off it.
def Quiet (line : String) : Prop := declaredNames line = []

instance (line : String) : Decidable (Unbroken line) := inferInstanceAs (Decidable (¬_))

instance (name : String) : Decidable (IsWord name) := inferInstanceAs (Decidable (_ = true))

section Lines
variable {line : String} {lines others : List String}

theorem toList_joinLines_cons (line : String) (lines : List String) :
    (joinLines (line :: lines)).toList = line.toList ++ '\n' :: (joinLines lines).toList := by
  simp [joinLines]

-- A line of the list may be several lines of the text.
theorem declaredNames_joinLines (lines : List String) :
    declaredNames (joinLines lines) = namesIn lines := by
  induction lines with
  | nil => rfl
  | cons line rest ih =>
    rw [declaredNames, toList_joinLines_cons, List.splitOn_append_cons_self, List.filterMap_append,
      namesIn, List.flatMap_cons, ← namesIn, ← ih]
    rfl

theorem namesIn_append (lines others : List String) :
    namesIn (lines ++ others) = namesIn lines ++ namesIn others := List.flatMap_append ..

theorem namesIn_flatMap (values : List α) (block : α → List String) :
    namesIn (values.flatMap block) = values.flatMap fun a => namesIn (block a) :=
  List.flatMap_assoc ..

theorem namesIn_quiet (quiet : ∀ line ∈ lines, Quiet line) : namesIn lines = [] :=
  List.flatMap_eq_nil_iff.mpr quiet

theorem declaredNames_unbroken (unbroken : Unbroken line) :
    declaredNames line = (declaredName? line.toList).toList := by
  rw [declaredNames, List.splitOn_eq_singleton unbroken]
  cases read : declaredName? line.toList with
  | none => exact List.filterMap_cons_none read
  | some name => exact List.filterMap_cons_some read

-- A literal is made of characters; to look at these is far cheaper than to decode the text.
theorem unbroken_ofList (none : '\n' ∉ cs) : Unbroken (String.ofList cs) := by
  rwa [Unbroken, String.toList_ofList]

theorem Unbroken.append (first : Unbroken line) (second : Unbroken rest) :
    Unbroken (line ++ rest) := by
  rw [Unbroken, String.toList_append]
  exact List.not_mem_append first second

theorem IsWord.unbroken (word : IsWord name) : Unbroken name := by
  have noPart : Text.isIdentifierPart '\n' = false := by decide +kernel
  intro there
  have part := List.all_eq_true.mp word _ there
  rw [noPart] at part
  cases part

-- All openings begin with the same letter.
theorem declaredName?_of_ne (other : c ≠ 'p') : declaredName? (c :: rest) = none := by
  simp [declaredName?, openings, List.isPrefixOf?, other.symm]

theorem apart_ofList (apart : '\n' ∉ cs ∧ cs.head?.any (· != 'p') = true) :
    Apart (String.ofList cs) := by
  rwa [Apart, Unbroken, String.toList_ofList]

theorem Apart.append (apart : Apart line) (unbroken : Unbroken rest) : Apart (line ++ rest) := by
  refine ⟨apart.1.append unbroken, ?_⟩
  rw [String.toList_append]
  cases chars : line.toList with
  | nil => simp [Apart, chars] at apart
  | cons c behind => simpa [Apart, chars] using apart.2

theorem Apart.quiet (apart : Apart line) : Quiet line := by
  rw [Quiet, declaredNames_unbroken apart.1]
  cases chars : line.toList with
  | nil => rfl
  | cons c behind =>
    rw [declaredName?_of_ne (by simpa [chars] using apart.2)]
    rfl

-- Most lines are something between two literals.
theorem apart_around {name : String} {front behind : List Char}
    (apart : '\n' ∉ front ∧ front.head?.any (· != 'p') = true) (unbroken : Unbroken name)
    (none : '\n' ∉ behind) : Apart (String.ofList front ++ name ++ String.ofList behind) :=
  ((apart_ofList apart).append unbroken).append (unbroken_ofList none)

theorem unbroken_around {name : String} {front behind : List Char} (first : '\n' ∉ front)
    (unbroken : Unbroken name) (last : '\n' ∉ behind) :
    Unbroken (String.ofList front ++ name ++ String.ofList behind) :=
  ((unbroken_ofList first).append unbroken).append (unbroken_ofList last)

theorem quiet_ofList (plain : '\n' ∉ cs ∧ cs.head?.all (· != 'p') = true) :
    Quiet (String.ofList cs) := by
  rw [Quiet, declaredNames_unbroken (unbroken_ofList plain.1), String.toList_ofList]
  cases cs with
  | nil => rfl
  | cons c rest =>
    rw [declaredName?_of_ne (by simpa using plain.2)]
    rfl

theorem quiet_cons (plain : '\n' ∉ cs ∧ cs.head?.all (· != 'p') = true)
    (rest : ∀ line ∈ lines, Quiet line) : ∀ line ∈ String.ofList cs :: lines, Quiet line :=
  List.forall_mem_cons.mpr ⟨quiet_ofList plain, rest⟩

-- An opening, a name, and something that ends it.
theorem namesIn_opening {name closing : String} (opens : opening ∈ openings) (word : IsWord name)
    (unbroken : Unbroken closing)
    (ends : closing.toList.takeWhile Text.isIdentifierPart = []) :
    namesIn [opening ++ name ++ closing] = [name] := by
  have known : ∀ line ∈ openings, Unbroken line := by
    simp only [openings, List.forall_mem_cons]
    exact ⟨unbroken_ofList (by decide), unbroken_ofList (by decide), unbroken_ofList (by decide),
      nofun⟩
  have whole : (name.toList ++ closing.toList).takeWhile Text.isIdentifierPart = name.toList := by
    rw [List.takeWhile_append_of_pos (List.all_eq_true.mp word), ends, List.append_nil]
  have read : declaredName? (opening ++ name ++ closing).toList = some name := by
    simp only [openings, List.mem_cons, List.not_mem_nil, or_false] at opens
    rcases opens with rfl | rfl | rfl
    · simp [declaredName?, openings, List.isPrefixOf?, whole]
    · simp [declaredName?, openings, List.isPrefixOf?, whole]
    · simp [declaredName?, openings, List.isPrefixOf?, whole]
  have line : Unbroken (opening ++ name ++ closing) :=
    ((known opening opens).append word.unbroken).append unbroken
  rw [namesIn, List.flatMap_singleton, declaredNames_unbroken line, read]
  rfl

end Lines

section Documentation

theorem quiet_docLines {indent : String} (blank : indent.toList.all (· == ' ') = true) (text : String) :
    ∀ line ∈ docLines indent text, Quiet line := by
  have apart : Apart (indent ++ "///") := by
    cases chars : indent.toList with
    | nil => simp [Apart, Unbroken, chars]
    | cons c rest =>
      have spaces : ∀ d ∈ c :: rest, d = ' ' := by simpa [chars] using blank
      have first := spaces c (List.mem_cons_self ..)
      have unbroken : '\n' ∉ c :: rest := fun there => nomatch spaces _ there
      simpa [Apart, Unbroken, chars, first] using unbroken
  intro line inside
  obtain ⟨chars, there, rfl⟩ := List.mem_map.mp inside
  have kept : Unbroken (String.ofList (Text.trimEnd chars)) :=
    unbroken_ofList (Text.noBreak_trimEnd (Text.noBreak_lines there))
  dsimp only
  split
  · exact apart.quiet
  · have spaced : Apart (indent ++ "/// ") := by
      rw [← show indent ++ "///" ++ " " = indent ++ "/// " from String.append_assoc]
      exact apart.append (unbroken_ofList (by decide))
    exact (spaced.append kept).quiet

theorem quiet_headLines {name : String} (unbroken : Unbroken name) (description : Option String) :
    ∀ line ∈ headLines name description, Quiet line := by
  have named : Quiet ("/// " ++ name) := ((apart_ofList (by decide)).append unbroken).quiet
  refine List.forall_mem_cons.mpr ⟨named, ?_⟩
  cases description with
  | none => exact nofun
  | some text => exact quiet_cons (by decide) (quiet_docLines (by simp) text)

end Documentation

section Enums

structure PlainEnum (decl : EnumDecl) : Prop where
  name : IsWord decl.name
  values : ∀ value ∈ decl.values, Unbroken value.name

def variantBlock (owner : String) (value : EnumValue) : List String :=
  variantLines value (Naming.enumValueIdentifier owner value.name)

def valueArm (owner : String) (value : EnumValue) : String :=
  armLine value (Naming.enumValueIdentifier owner value.name)

theorem quiet_variantLines {variant : String} (value : EnumValue) (unbroken : Unbroken variant) :
    ∀ line ∈ variantLines value variant, Quiet line := by
  have renamed : Apart ("    #[serde(rename = " ++ Text.Quoted.encode value.name ++ ")]") :=
    apart_around (by decide) (Text.Quoted.noBreak_encode _) (by decide)
  have last : Apart ("    " ++ variant ++ ",") := apart_around (by decide) unbroken (by decide)
  rw [variantLines]
  simp only [List.forall_mem_append, List.forall_mem_cons]
  refine ⟨⟨?_, ?_⟩, renamed.quiet, last.quiet, nofun⟩
  · cases value.description with
    | none => exact nofun
    | some text => exact quiet_docLines (by decide +kernel) text
  · split
    · exact quiet_cons (by decide) nofun
    · exact nofun

theorem quiet_armLine {variant : String} (value : EnumValue) (unbroken : Unbroken variant) :
    Quiet (armLine value variant) := by
  have arm : Apart ("            Self::" ++ variant ++ " => ") :=
    apart_around (by decide) unbroken (by decide)
  have whole := arm.append (Text.Quoted.noBreak_encode value.name)
  exact (whole.append (unbroken_ofList (by decide))).quiet

theorem enumBlock_eq (decl : EnumDecl) :
    enumBlock decl =
      (headLines decl.name decl.description ++
        ["#[derive(Debug, Clone, Copy, PartialEq, Eq, Hash, Serialize, Deserialize)]"]) ++
      ["pub enum " ++ decl.name ++ " \x7b"] ++
      decl.values.flatMap (variantBlock decl.name) ++
      (["\x7d", ""] ++ ["impl " ++ decl.name ++ " \x7b"] ++
        ["    /// Returns the value as sent on the wire.",
         "    #[must_use]",
         "    pub const fn as_str(&self) -> &'static str \x7b",
         "        match *self \x7b"]) ++
      decl.values.map (valueArm decl.name) ++
      (["        \x7d", "    \x7d", "\x7d", ""] ++
        ["impl std::fmt::Display for " ++ decl.name ++ " \x7b"] ++
        ["    fn fmt(&self, f: &mut std::fmt::Formatter<'_>) -> std::fmt::Result \x7b",
         "        f.write_str(self.as_str())",
         "    \x7d",
         "\x7d",
         ""]) := by
  rw [enumBlock, enumLines, EnumDecl.identifiers, List.zipWith_map_right, List.zipWith_map_right,
    List.zipWith_self, List.zipWith_self, List.flatMap_def]
  simp only [List.append_assoc, List.cons_append, List.nil_append]
  rfl

-- Only the lines of the values may declare something besides the enum.
theorem namesIn_enumBlock {decl : EnumDecl} (word : IsWord decl.name) :
    namesIn (enumBlock decl) =
      decl.name :: (namesIn (decl.values.flatMap (variantBlock decl.name)) ++
        namesIn (decl.values.map (valueArm decl.name))) := by
  have name := word.unbroken
  have own : Apart ("impl " ++ decl.name ++ " \x7b") := apart_around (by decide) name (by decide)
  have display : Apart ("impl std::fmt::Display for " ++ decl.name ++ " \x7b") :=
    apart_around (by decide) name (by decide)
  have opening : namesIn ["pub enum " ++ decl.name ++ " \x7b"] = [decl.name] :=
    namesIn_opening (by decide) word (unbroken_ofList (by decide)) (by decide +kernel)
  have front : ∀ line ∈ headLines decl.name decl.description ++
      ["#[derive(Debug, Clone, Copy, PartialEq, Eq, Hash, Serialize, Deserialize)]"], Quiet line :=
    List.forall_mem_append.mpr
      ⟨quiet_headLines name decl.description, quiet_cons (by decide) nofun⟩
  have between : ∀ line ∈ ["\x7d", ""] ++ ["impl " ++ decl.name ++ " \x7b"] ++
      ["    /// Returns the value as sent on the wire.",
       "    #[must_use]",
       "    pub const fn as_str(&self) -> &'static str \x7b",
       "        match *self \x7b"], Quiet line := by
    simp only [List.forall_mem_append, List.forall_mem_singleton]
    refine ⟨⟨?_, own.quiet⟩, ?_⟩
    all_goals
      repeat refine quiet_cons (by decide) ?_
      exact nofun
  have behind : ∀ line ∈ ["        \x7d", "    \x7d", "\x7d", ""] ++
      ["impl std::fmt::Display for " ++ decl.name ++ " \x7b"] ++
      ["    fn fmt(&self, f: &mut std::fmt::Formatter<'_>) -> std::fmt::Result \x7b",
       "        f.write_str(self.as_str())",
       "    \x7d",
       "\x7d",
       ""], Quiet line := by
    simp only [List.forall_mem_append, List.forall_mem_singleton]
    refine ⟨⟨?_, display.quiet⟩, ?_⟩
    all_goals
      repeat refine quiet_cons (by decide) ?_
      exact nofun
  rw [enumBlock_eq]
  rw [namesIn_append _ (_ ++ _ ++ _), namesIn_append _ (decl.values.map _),
    namesIn_append _ (_ ++ _ ++ _), namesIn_append _ (decl.values.flatMap _), namesIn_append _ [_],
    namesIn_quiet front, opening, namesIn_quiet between, namesIn_quiet behind]
  simp only [List.nil_append, List.append_nil, List.cons_append]

theorem PlainEnum.namesIn_enumBlock {decl : EnumDecl} (plain : PlainEnum decl) :
    namesIn (enumBlock decl) = [decl.name] := by
  have variant : ∀ value ∈ decl.values,
      Unbroken (Naming.enumValueIdentifier decl.name value.name) := fun value inside =>
    Naming.noBreak_enumValueIdentifier plain.name.unbroken (plain.values value inside)
  have variants : ∀ line ∈ decl.values.flatMap (variantBlock decl.name), Quiet line := by
    intro line inside
    obtain ⟨value, there, its⟩ := List.mem_flatMap.mp inside
    exact quiet_variantLines value (variant value there) line its
  have arms : ∀ line ∈ decl.values.map (valueArm decl.name), Quiet line := by
    intro line inside
    obtain ⟨value, there, rfl⟩ := List.mem_map.mp inside
    exact quiet_armLine value (variant value there)
  rw [Binding.namesIn_enumBlock plain.name, namesIn_quiet variants, namesIn_quiet arms]
  rfl

end Enums

section Inputs

structure PlainField (field : Field) : Prop where
  name : Unbroken field.name
  leaf : Unbroken field.type.leaf.2

structure PlainInput (decl : InputDecl) : Prop where
  name : IsWord decl.name
  fields : ∀ field ∈ decl.fields, PlainField field

theorem unbroken_boundName (unbroken : Unbroken name) : Unbroken (boundName name) :=
  forall_boundName (p := Unbroken) (by simp [Unbroken]) unbroken

theorem unbroken_text {expr : TypeExpr} (unbroken : Unbroken expr.leafName) :
    Unbroken expr.text := by
  induction expr with
  | named name => exact unbroken
  | boxed inner ih => exact unbroken_around (by decide) (ih unbroken) (by decide)
  | list inner ih => exact unbroken_around (by decide) (ih unbroken) (by decide)
  | optional inner ih => exact unbroken_around (by decide) (ih unbroken) (by decide)

theorem quiet_renameLine (name : String) (required : Bool) : Quiet (renameLine name required) := by
  have quoted : Unbroken (Text.Quoted.encode name) := Text.Quoted.noBreak_encode name
  rw [renameLine]
  split
  · exact (apart_around (by decide) quoted (by decide)).quiet
  · exact (apart_around (by decide) quoted (by decide)).quiet

theorem quiet_fieldBlock (plain : PlainField field) : ∀ line ∈ fieldBlock field, Quiet line := by
  have identifier : Unbroken (Naming.fieldIdentifier field.name) :=
    Naming.noBreak_fieldIdentifier plain.name
  have type : Unbroken (boundField field).expr.text := by
    apply unbroken_text
    rw [leafName_boundField]
    exact unbroken_boundName plain.leaf
  have member : Apart ("    pub " ++ Naming.fieldIdentifier field.name ++ ": ") :=
    apart_around (by decide) identifier (by decide)
  have whole : Apart ("    pub " ++ Naming.fieldIdentifier field.name ++ ": " ++
      (boundField field).expr.text ++ ",") :=
    (member.append type).append (unbroken_ofList (by decide))
  rw [fieldBlock, inputFieldLines]
  simp only [List.forall_mem_append, List.forall_mem_cons]
  refine ⟨⟨⟨?_, nofun⟩, ?_⟩, quiet_renameLine _ _, whole.quiet, nofun⟩
  · split
    · exact quiet_ofList (by decide)
    · exact quiet_ofList (by decide)
  · cases field.description with
    | none => exact nofun
    | some text => exact quiet_cons (by decide) (quiet_docLines (by decide +kernel) text)

theorem inputBlock_eq (decl : InputDecl) :
    inputBlock decl =
      (headLines decl.name decl.description ++ [deriveLine decl]) ++
      ["pub struct " ++ decl.name ++ " \x7b"] ++
      decl.fields.flatMap fieldBlock ++
      (["\x7d", ""] ++ ["impl Input for " ++ decl.name ++ " \x7b\x7d"] ++ [""]) := by
  rw [inputBlock]
  simp only [List.append_assoc, List.cons_append, List.nil_append]

-- Only the lines of the fields may declare something besides the record.
theorem namesIn_inputBlock {decl : InputDecl} (word : IsWord decl.name) :
    namesIn (inputBlock decl) = decl.name :: namesIn (decl.fields.flatMap fieldBlock) := by
  have name := word.unbroken
  have derived : Quiet (deriveLine decl) := by
    rw [deriveLine]
    split
    · exact quiet_ofList (by decide)
    · exact quiet_ofList (by decide)
  have marked : Apart ("impl Input for " ++ decl.name ++ " \x7b\x7d") :=
    apart_around (by decide) name (by decide)
  have opening : namesIn ["pub struct " ++ decl.name ++ " \x7b"] = [decl.name] :=
    namesIn_opening (by decide) word (unbroken_ofList (by decide)) (by decide +kernel)
  have front : ∀ line ∈ headLines decl.name decl.description ++ [deriveLine decl], Quiet line :=
    List.forall_mem_append.mpr
      ⟨quiet_headLines name decl.description, List.forall_mem_singleton.mpr derived⟩
  have behind : ∀ line ∈ ["\x7d", ""] ++ ["impl Input for " ++ decl.name ++ " \x7b\x7d"] ++ [""],
      Quiet line := by
    simp only [List.forall_mem_append, List.forall_mem_singleton]
    exact ⟨⟨quiet_cons (by decide) (quiet_cons (by decide) nofun), marked.quiet⟩,
      quiet_ofList (by decide)⟩
  rw [inputBlock_eq]
  rw [namesIn_append _ (_ ++ _ ++ _), namesIn_append _ (decl.fields.flatMap _), namesIn_append _ [_],
    namesIn_quiet front, opening, namesIn_quiet behind]
  simp only [List.nil_append, List.append_nil, List.cons_append]

theorem PlainInput.namesIn_inputBlock {decl : InputDecl} (plain : PlainInput decl) :
    namesIn (inputBlock decl) = [decl.name] := by
  have fields : ∀ line ∈ decl.fields.flatMap fieldBlock, Quiet line := by
    intro line inside
    obtain ⟨field, there, its⟩ := List.mem_flatMap.mp inside
    exact quiet_fieldBlock (plain.fields field there) line its
  rw [Binding.namesIn_inputBlock plain.name, namesIn_quiet fields]

theorem unbroken_intercalate {sep : String} {names : List String} (between : Unbroken sep)
    (each : ∀ name ∈ names, Unbroken name) : Unbroken (sep.intercalate names) := by
  intro there
  rw [String.toList_intercalate] at there
  rcases Naming.mem_intercalate there with among | ⟨row, inside, its⟩
  · exact between among
  · obtain ⟨name, known, rfl⟩ := List.mem_map.mp inside
    exact each name known its

-- The trait is no type, although its line begins much like the declaration of one.
theorem quiet_inputsHead {decls : Declarations} (names : ∀ decl ∈ decls.inputs, IsWord decl.name) :
    ∀ line ∈ inputsHead decls, Quiet line := by
  have joined : Unbroken (", ".intercalate decls.inputNames) := by
    refine unbroken_intercalate (unbroken_ofList (by decide)) fun name inside => ?_
    obtain ⟨decl, declared, rfl⟩ := List.mem_map.mp inside
    exact (names decl declared).unbroken
  have listed : Apart ("/// " ++ ", ".intercalate decls.inputNames ++ ".") :=
    apart_around (by decide) joined (by decide)
  have marker : Quiet "pub trait Input: Serialize \x7b\x7d" := by
    rw [Quiet, declaredNames_unbroken (unbroken_ofList (by decide))]
    simp [declaredName?, openings, List.isPrefixOf?]
  refine List.forall_mem_append.mpr ⟨?_, ?_⟩
  · repeat refine quiet_cons (by decide) ?_
    exact nofun
  · refine quiet_cons (by decide) (quiet_cons (by decide) ?_)
    exact List.forall_mem_cons.mpr
      ⟨listed.quiet, List.forall_mem_cons.mpr ⟨marker, quiet_cons (by decide) nofun⟩⟩

end Inputs

section Scalars

theorem unbroken_target (represented : representation name = .alias target) : Unbroken target := by
  rw [representation] at represented
  split at represented
  · cases represented
    exact unbroken_ofList (by decide)
  split at represented
  · cases represented
  split at represented
  · cases represented
    exact unbroken_ofList (by decide)
  · cases represented
    exact unbroken_ofList (by decide)

theorem wrapperLines_eq (name : String) :
    wrapperLines name =
      ["#[derive(Debug, Clone, Default, PartialEq, Eq, Hash, PartialOrd, Ord, Serialize, Deserialize)]",
       "#[serde(transparent)]"] ++
      ["pub struct " ++ name ++ "(pub String);"] ++
      ([""] ++ ["impl " ++ name ++ " \x7b"] ++
        ["    /// Returns the encoded text.",
         "    #[must_use]",
         "    pub fn as_str(&self) -> &str \x7b",
         "        &self.0",
         "    \x7d",
         "\x7d",
         ""] ++
        ["impl From<String> for " ++ name ++ " \x7b"] ++
        ["    fn from(value: String) -> Self \x7b",
         "        Self(value)",
         "    \x7d",
         "\x7d",
         ""]) := rfl

theorem namesIn_wrapperLines {name : String} (word : IsWord name) :
    namesIn (wrapperLines name) = [name] := by
  have unbroken := word.unbroken
  have own : Apart ("impl " ++ name ++ " \x7b") := apart_around (by decide) unbroken (by decide)
  have made : Apart ("impl From<String> for " ++ name ++ " \x7b") :=
    apart_around (by decide) unbroken (by decide)
  have opening : namesIn ["pub struct " ++ name ++ "(pub String);"] = [name] :=
    namesIn_opening (by decide) word (unbroken_ofList (by decide)) (by decide +kernel)
  have front : ∀ line ∈ [
      "#[derive(Debug, Clone, Default, PartialEq, Eq, Hash, PartialOrd, Ord, Serialize, Deserialize)]",
      "#[serde(transparent)]"], Quiet line :=
    quiet_cons (by decide) (quiet_cons (by decide) nofun)
  have behind : ∀ line ∈ [""] ++ ["impl " ++ name ++ " \x7b"] ++
      ["    /// Returns the encoded text.",
       "    #[must_use]",
       "    pub fn as_str(&self) -> &str \x7b",
       "        &self.0",
       "    \x7d",
       "\x7d",
       ""] ++
      ["impl From<String> for " ++ name ++ " \x7b"] ++
      ["    fn from(value: String) -> Self \x7b",
       "        Self(value)",
       "    \x7d",
       "\x7d",
       ""], Quiet line := by
    simp only [List.forall_mem_append, List.forall_mem_singleton]
    refine ⟨⟨⟨⟨quiet_ofList (by decide), own.quiet⟩, ?_⟩, made.quiet⟩, ?_⟩
    all_goals
      repeat refine quiet_cons (by decide) ?_
      exact nofun
  rw [wrapperLines_eq, namesIn_append, namesIn_append, namesIn_quiet front, opening,
    namesIn_quiet behind]
  rfl

theorem namesIn_alias {name target : String} (word : IsWord name) (unbroken : Unbroken target) :
    namesIn ["pub type " ++ name ++ " = " ++ target ++ ";", ""] = [name] := by
  have closing : Unbroken (" = " ++ target ++ ";") :=
    unbroken_around (by decide) unbroken (by decide)
  have ends : Text.isIdentifierPart ' ' = false := by decide +kernel
  have opening : namesIn ["pub type " ++ name ++ (" = " ++ target ++ ";")] = [name] :=
    namesIn_opening (by decide) word closing (by simp [ends])
  have split : ["pub type " ++ name ++ " = " ++ target ++ ";", ""] =
      ["pub type " ++ name ++ (" = " ++ target ++ ";")] ++ [""] := by
    simp [String.append_assoc]
  rw [split, namesIn_append, opening]
  rfl

theorem namesIn_scalarLines {decl : ScalarDecl} (word : IsWord decl.name) :
    namesIn (scalarLines decl) = [decl.name] := by
  have head := quiet_headLines word.unbroken (decl.description.or (defaultDescription decl.name))
  rw [scalarLines, namesIn_append, namesIn_quiet head, List.nil_append]
  cases represented : representation decl.name with
  | «alias» target => exact namesIn_alias word (unbroken_target represented)
  | wrapped => exact namesIn_wrapperLines word

end Scalars

section Texts
variable {decls : Declarations}

theorem declaredNames_enumsText (made : enumsText decls = .ok text) :
    declaredNames text = decls.enums.flatMap fun decl => namesIn (enumBlock decl) := by
  have head : ∀ line ∈ enumsHead, Quiet line := by
    repeat refine quiet_cons (by decide) ?_
    exact nofun
  rw [enumsText_sound ((enumsText_decided decls).ok_iff.mp ⟨text, made⟩)] at made
  cases made
  rw [declaredNames_joinLines, namesIn_append, namesIn_quiet head, namesIn_flatMap, List.nil_append]

theorem declaredNames_inputsText (made : inputsText decls = .ok text)
    (names : ∀ decl ∈ decls.inputs, IsWord decl.name) :
    declaredNames text = decls.inputs.flatMap fun decl => namesIn (inputBlock decl) := by
  rw [inputsText_sound ((inputsText_decided decls).ok_iff.mp ⟨text, made⟩)] at made
  cases made
  rw [declaredNames_joinLines, namesIn_append, namesIn_quiet (quiet_inputsHead names),
    namesIn_flatMap, List.nil_append]

theorem declaredNames_scalarsText (decls : Declarations) :
    declaredNames (scalarsText decls) =
      (decls.scalars.filter fun decl => !isBuiltinScalar decl.name).flatMap fun decl =>
        namesIn (scalarLines decl) := by
  have head : ∀ line ∈ ["#![allow(unused_imports)]", "",
      "use serde::\x7bDeserialize, Serialize\x7d;", ""], Quiet line := by
    repeat refine quiet_cons (by decide) ?_
    exact nofun
  rw [scalarsText, declaredNames_joinLines, namesIn_append, namesIn_quiet head, namesIn_flatMap,
    List.nil_append]

theorem declaredNames_enumsText_plain (made : enumsText decls = .ok text)
    (plain : ∀ decl ∈ decls.enums, PlainEnum decl) :
    declaredNames text = decls.enums.map (·.name) := by
  rw [declaredNames_enumsText made, List.map_eq_flatMap]
  exact List.flatMap_congr fun decl declared => (plain decl declared).namesIn_enumBlock

theorem declaredNames_inputsText_plain (made : inputsText decls = .ok text)
    (plain : ∀ decl ∈ decls.inputs, PlainInput decl) :
    declaredNames text = decls.inputs.map (·.name) := by
  rw [declaredNames_inputsText made fun decl declared => (plain decl declared).name,
    List.map_eq_flatMap]
  exact List.flatMap_congr fun decl declared => (plain decl declared).namesIn_inputBlock

theorem declaredNames_scalarsText_plain (words : ∀ decl ∈ decls.scalars, IsWord decl.name) :
    declaredNames (scalarsText decls) =
      (decls.scalars.filter fun decl => !isBuiltinScalar decl.name).map (·.name) := by
  rw [declaredNames_scalarsText, List.map_eq_flatMap]
  exact List.flatMap_congr fun decl there =>
    namesIn_scalarLines (words decl (List.mem_of_mem_filter there))

end Texts

end SchemaBindings.Binding
