import SchemaBindings.Generation
import SchemaBindings.Proofs.Binding.Emission
import SchemaBindings.Proofs.Effects
import SchemaBindings.Proofs.Introspection.Resolution

namespace SchemaBindings

namespace Binding

theorem Doubled.not_undoubled (doubled : Doubled inList reference error) :
    ¬reference.Undoubled := by
  intro sound
  have refused := doubled.resolveIn
  rw [resolveIn_undoubled sound inList] at refused
  cases refused

theorem Clash.not_internal {normalize : String → String}
    (clash : Clash owner normalize names error) : error.isInternal = false := by
  cases clash
  rfl

-- An internal error comes from a field with two non-null wrappers, one around the other.
theorem FirstFault.doubled (fault : FirstFault decls error) (internal : error.isInternal = true) :
    ∃ decl ∈ decls.inputs, ∃ field ∈ decl.fields, ¬field.type.Undoubled := by
  cases fault with
  | inEnums first =>
    obtain ⟨_, _, _, _, _, clash⟩ := first
    rw [Clash.not_internal clash] at internal
    cases internal
  | inInputs _ first =>
    obtain ⟨before, decl, behind, split, _, fault⟩ := first
    cases fault with
    | names clash =>
      rw [clash.not_internal] at internal
      cases internal
    | field _ first =>
      obtain ⟨earlier, field, later, fields, _, fault⟩ := first
      cases fault with
      | unsupported _ => cases internal
      | doubled _ doubled =>
        refine ⟨decl, ?_, field, ?_, doubled.not_undoubled⟩
        · rw [split]
          exact List.mem_append_right _ (List.mem_cons_self ..)
        · rw [fields]
          exact List.mem_append_right _ (List.mem_cons_self ..)

end Binding

namespace Generation

theorem error_of_mapError {x : Except ε α} {f : ε → φ} (failed : x.mapError f = .error error) :
    ∃ cause, x = .error cause ∧ f cause = error := by
  cases x with
  | error cause =>
    cases failed
    exact ⟨cause, rfl, rfl⟩
  | ok _ => cases failed

-- Events do not change what comes out.
theorem value_ofDeclarations (decls : Declarations) (around : Surroundings) :
    ((ofDeclarations decls).run around).1 = (Binding.generate decls).mapError .binding := by
  rw [ofDeclarations]
  cases Binding.generate decls with
  | error cause => rfl
  | ok files => exact congrArg Prod.fst (Program.run_bind (Program.logAll _) _ around)

theorem value_ofText (text : String) (around : Surroundings) :
    ((ofText text).run around).1 =
      match Introspection.parse text with
      | .error cause => .error (.document cause)
      | .ok schema => (Binding.generate schema.collect).mapError .binding := by
  have run := Program.run_bind (Program.logAll (Introspection.parseEvents text))
    (fun _ => match Introspection.parse text with
      | .error cause => return .error (.document cause)
      | .ok schema => ofSchema schema) around
  refine (congrArg Prod.fst run).trans ?_
  cases Introspection.parse text with
  | error cause => rfl
  | ok schema => exact value_ofDeclarations schema.collect _

-- A text makes the generator blame itself exactly if its schema is read and the first fault of the
-- declarations is such a pair of wrappers. Without a pair nothing is ever blamed on the generator.
theorem ofText_internal (text : String) (around : Surroundings) :
    ((∃ error, ((ofText text).run around).1 = .error error ∧ error.isInternal = true) ↔
      ∃ schema violation, Introspection.parse text = .ok schema ∧
        Binding.FirstFault schema.collect (.invariant violation)) ∧
    ((∀ schema, Introspection.parse text = .ok schema →
        ∀ decl ∈ schema.collect.inputs, ∀ field ∈ decl.fields, field.type.Undoubled) →
      ∀ error, ((ofText text).run around).1 = .error error → error.isInternal = false) := by
  have exact : (∃ error, ((ofText text).run around).1 = .error error ∧ error.isInternal = true) ↔
      ∃ schema violation, Introspection.parse text = .ok schema ∧
        Binding.FirstFault schema.collect (.invariant violation) := by
    rw [value_ofText]
    cases Introspection.parse text with
    | error cause =>
      constructor
      · rintro ⟨_, failed, internal⟩
        cases failed
        cases internal
      · rintro ⟨_, _, parsed, _⟩
        cases parsed
    | ok schema =>
      have decided := Binding.generate_decided schema.collect
      constructor
      · rintro ⟨error, failed, internal⟩
        obtain ⟨cause, refused, rfl⟩ := error_of_mapError failed
        cases cause with
        | invariant violation => exact ⟨schema, violation, rfl, decided.error_iff.mp refused⟩
        | unsupportedField => cases internal
        | collision => cases internal
      · rintro ⟨_, violation, parsed, fault⟩
        cases parsed
        have refused := decided.blamed _ fault
        exact ⟨.binding (.invariant violation), by simp only [refused, Except.mapError], rfl⟩
  refine ⟨exact, fun undoubled error failed => ?_⟩
  cases internal : error.isInternal with
  | false => rfl
  | true =>
    obtain ⟨schema, violation, parsed, fault⟩ := exact.mp ⟨error, failed, internal⟩
    obtain ⟨decl, declared, field, inside, doubled⟩ := fault.doubled rfl
    exact (doubled (undoubled schema parsed decl declared field inside)).elim

def gridTypes : List TypeDescriptor := [
  { kind := .inputObject, name := "Grid", description := none, fields := []
    inputFields := [⟨"cells", none, .nonNull (.nonNull (.named .scalar "Int"))⟩]
    enumValues := [] }]

def grid : Schema := .assemble none none none gridTypes

theorem collect_grid : grid.collect = Binding.doubledInt "Grid" "cells" := by
  have own : grid.ownTypes = gridTypes := by
    rw [Schema.ownTypes, grid, Schema.types_assemble]
    decide +kernel
  rw [Schema.collect, own]
  simp [gridTypes, sortByName, TypeDescriptor.toEnum?, TypeDescriptor.toInput?,
    TypeDescriptor.toScalar?, TypeRef.isNonNull, Binding.doubledInt]

theorem parse_grid : Introspection.parse (grid.document []).text = .ok grid := by
  have complete : ∀ type ∈ gridTypes, type.Complete := by
    simp [gridTypes, TypeDescriptor.Complete, TypeRef.Complete, TypeRef.leaf, Kind.isWrapper]
  have read := Introspection.Wire.parse_of_documented (grid.documentedAs_document [])
    (grid.document []).spelled (by decide)
  rw [read, grid]
  exact Introspection.Wire.resolve_assembled (by decide) complete

theorem document_blames_generator :
    ∃ error, ((ofText (grid.document []).text).run {}).1 = .error error ∧
      error.isInternal = true := by
  obtain ⟨violation, refused⟩ : ∃ violation,
      Binding.generate grid.collect = .error (.invariant violation) := by
    rw [collect_grid]
    exact ⟨_, (Binding.generate_decided _).blamed _ (Binding.firstFault_doubledInt "Grid" "cells")⟩
  refine ⟨.binding (.invariant violation), ?_, rfl⟩
  rw [value_ofText, parse_grid]
  simp only [refused, Except.mapError]

open Binding Files

-- The last of the files whose path leads to a location.
def lastAt (tree : Tree) (directory : String) (files : List GeneratedFile) (location : Location) :
    Option GeneratedFile :=
  (files.filter fun file => tree.locate (join directory file.name) = .ok location).getLast?

-- Each file is taken, in the state in which those before it leave the files.
inductive Taken (medium : Medium) (directory : String) :
    List GeneratedFile → Tree → Tree → Prop where
  | nil : Taken medium directory [] tree tree
  | cons (first : medium.writeText tree (join directory file.name) file.content = .ok middle)
      (rest : Taken medium directory files middle after) :
      Taken medium directory (file :: files) tree after

-- All files are written. A location that several paths lead to has the last file, and a location
-- that none leads to has what it had.
structure Written (medium : Medium) (directory : String) (files : List GeneratedFile)
    (tree after : Tree) : Prop where
  taken : Taken medium directory files tree after
  directories : tree.SameDirectories after
  entries : ∀ location, after.entry? location =
    match lastAt tree directory files location with
    | some file => some (.file file.content.toUTF8)
    | none => tree.entry? location
  readable : ∀ file ∈ files, ∃ location last,
    tree.locate (join directory file.name) = .ok location ∧
    lastAt tree directory files location = some last ∧
    after.readText (join directory file.name) = .ok last.content

-- Either all files are written and their paths come back in order, or one of them is refused when
-- exactly those before it are written.
inductive Outcome (medium : Medium) (directory : String) (files : List GeneratedFile)
    (tree : Tree) : Except Error (List String) → Tree → Prop where
  | written (all : Written medium directory files tree after) :
      Outcome medium directory files tree (.ok (files.map fun file => join directory file.name))
        after
  | refused (split : files = before ++ file :: behind)
      (all : Written medium directory before tree after)
      (refused :
        medium.writeText after (join directory file.name) file.content = .error cause) :
      Outcome medium directory files tree (.error (.write (join directory file.name) cause)) after

def delivery (directory : String) (file : GeneratedFile) : Effect :=
  .write (join directory file.name) file.content (.ok ())

-- The steps of writing: all files are delivered, or those before one that is refused.
inductive Writes (medium : Medium) (directory : String) (files : List GeneratedFile)
    (tree : Tree) : List Effect → Except Error (List String) → Tree → Prop where
  | all (written : Written medium directory files tree after) :
      Writes medium directory files tree (files.map (delivery directory))
        (.ok (files.map fun file => join directory file.name)) after
  | refused (split : files = before ++ file :: behind)
      (written : Written medium directory before tree after)
      (refused :
        medium.writeText after (join directory file.name) file.content = .error cause) :
      Writes medium directory files tree
        (before.map (delivery directory) ++
          [.write (join directory file.name) file.content (.error cause)])
        (.error (.write (join directory file.name) cause)) after

section Writing
variable {medium : Medium} {directory : String} {tree middle after : Tree} {file : GeneratedFile}
  {files rest : List GeneratedFile}

theorem lastAt_cons (tree : Tree) (directory : String) (file : GeneratedFile)
    (rest : List GeneratedFile) (location : Location) :
    lastAt tree directory (file :: rest) location =
      (lastAt tree directory rest location).or
        (if tree.locate (join directory file.name) = .ok location then some file else none) := by
  by_cases there : tree.locate (join directory file.name) = .ok location
  · rw [lastAt, lastAt, List.filter_cons_of_pos (by simpa using there), List.getLast?_cons,
      if_pos there]
    cases (rest.filter _).getLast? <;> rfl
  · rw [lastAt, lastAt, List.filter_cons_of_neg (by simpa using there), if_neg there, Option.or_none]

theorem lastAt_congr (same : tree.SameDirectories after) (directory : String)
    (files : List GeneratedFile) (location : Location) :
    lastAt after directory files location = lastAt tree directory files location := by
  simp only [lastAt, same.locate_ok_iff]

theorem Written.nil (medium : Medium) (directory : String) (tree : Tree) :
    Written medium directory [] tree tree :=
  ⟨.nil, .refl tree, fun _ => rfl, nofun⟩

theorem Written.cons
    (written : medium.writeText tree (join directory file.name) file.content = .ok middle)
    (all : Written medium directory rest middle after) :
    Written medium directory (file :: rest) tree after := by
  obtain ⟨location, found, plain, replaces⟩ :=
    Tree.writeText_ok (Medium.writeText_ok_iff.mp written).2
  have directories := replaces.directories.trans all.directories
  have later : ∀ other, lastAt middle directory rest other = lastAt tree directory rest other :=
    lastAt_congr replaces.directories directory rest
  refine ⟨.cons written all.taken, directories, fun other => ?_, fun one inside => ?_⟩
  · rw [all.entries, later, lastAt_cons]
    cases lastAt tree directory rest other with
    | some last => rfl
    | none =>
      by_cases here : other = location
      · simpa [here, found] using replaces.held
      · have apart : tree.locate (join directory file.name) ≠ .ok other := by
          rw [found]
          exact fun same => here (Except.ok.inj same).symm
        simpa [apart] using replaces.rest other here
  · rcases List.mem_cons.mp inside with rfl | inside
    · -- Its own path leads to what was written there last, which may be a later file.
      have last : lastAt tree directory (one :: rest) location =
          some ((lastAt tree directory rest location).getD one) := by
        rw [lastAt_cons, if_pos found]
        cases lastAt tree directory rest location <;> rfl
      refine ⟨location, _, found, last, ?_⟩
      refine Tree.readText_of_entry? (directories.locate_ok found) plain ?_
      rw [all.entries, later]
      cases lastAt tree directory rest location with
      | some last => rfl
      | none => exact replaces.held
    · obtain ⟨there, last, leads, latest, read⟩ := all.readable one inside
      refine ⟨there, last, replaces.directories.locate_ok_iff.mp leads, ?_, read⟩
      rw [lastAt_cons, ← later, latest, Option.some_or]

theorem Writes.outcome {result : Except Error (List String)}
    (writes : Writes medium directory files tree effects result after) :
    Outcome medium directory files tree result after := by
  cases writes with
  | all written => exact .written written
  | refused split written refused => exact .refused split written refused

theorem Writes.cons {result : Except Error (List String)}
    (written : medium.writeText tree (join directory file.name) file.content = .ok middle)
    (writes : Writes medium directory rest middle effects result after) :
    Writes medium directory (file :: rest) tree (delivery directory file :: effects)
      (result.map (join directory file.name :: ·)) after := by
  cases writes with
  | all later => exact .all (.cons written later)
  | refused split later refused =>
    exact .refused (congrArg (List.cons file) split) (.cons written later) refused

theorem writes_refused (around : Surroundings)
    (refused : around.medium.writeText around.files (join directory file.name) file.content =
      .error cause) :
    Writes around.medium directory (file :: rest) around.files
      ((writeFiles directory (file :: rest)).effects around)
      ((writeFiles directory (file :: rest)).run around).1
      ((writeFiles directory (file :: rest)).run around).2.files := by
  rw [writeFiles]
  simp only [Program.run_then, Program.effects_then, Program.log, Program.write, Program.run,
    Program.effects, Surroundings.save, refused]
  exact .refused (List.nil_append (file :: rest)).symm (.nil _ directory around.files) refused

theorem writes_next (around : Surroundings)
    (written : around.medium.writeText around.files (join directory file.name) file.content =
      .ok middle)
    (rest : List GeneratedFile)
    (next : ∀ later : Surroundings, Writes later.medium directory rest later.files
      ((writeFiles directory rest).effects later) ((writeFiles directory rest).run later).1
      ((writeFiles directory rest).run later).2.files) :
    Writes around.medium directory (file :: rest) around.files
      ((writeFiles directory (file :: rest)).effects around)
      ((writeFiles directory (file :: rest)).run around).1
      ((writeFiles directory (file :: rest)).run around).2.files := by
  rw [writeFiles]
  simp only [Program.run_then, Program.effects_then, Program.log, Program.write, Program.run,
    Program.effects, Program.run_pure, Program.effects_pure, Surroundings.save, written,
    List.nil_append, List.append_nil, List.cons_append]
  exact .cons written (next ⟨middle, around.medium, _, _, _, _⟩)

-- Induction on the files: what the first one changes, the others find.
theorem writeFiles_writes (directory : String) (files : List GeneratedFile)
    (around : Surroundings) :
    Writes around.medium directory files around.files
      ((writeFiles directory files).effects around)
      ((writeFiles directory files).run around).1
      ((writeFiles directory files).run around).2.files := by
  induction files generalizing around with
  | nil => exact .all (.nil _ directory around.files)
  | cons file rest ih =>
    cases written :
      around.medium.writeText around.files (join directory file.name) file.content with
    | error cause => exact writes_refused around written
    | ok middle => exact writes_next around written rest ih

end Writing

section Generating

-- What there is to write, if anything.
def bindings (schema : Schema) : Except Error (List GeneratedFile) :=
  (Binding.generate schema.collect).mapError .binding

def textBindings (text : String) : Except Error (List GeneratedFile) :=
  match Introspection.parse text with
  | .error cause => .error (.document cause)
  | .ok schema => bindings schema

def savedBindings (around : Surroundings) (path : String) : Except Error (List GeneratedFile) :=
  match around.load path with
  | .error cause => .error (.read cause)
  | .ok text => textBindings text

theorem effects_ofDeclarations (decls : Declarations) (around : Surroundings) :
    (ofDeclarations decls).effects around = [] := by
  rw [ofDeclarations]
  cases Binding.generate decls with
  | error cause => rfl
  | ok files =>
    dsimp only
    rw [Program.effects_then, Program.effects_logAll]
    rfl

theorem effects_ofText (text : String) (around : Surroundings) :
    (ofText text).effects around = [] := by
  rw [ofText, Program.effects_then, Program.effects_logAll, List.nil_append]
  cases Introspection.parse text with
  | error cause => rfl
  | ok schema => exact effects_ofDeclarations schema.collect _

-- Without bindings the files stay as they are; otherwise the bindings are written.
def Delivered (directory : String) (made : Except Error (List GeneratedFile))
    (around : Surroundings) (run : Except Error (List String) × Surroundings) : Prop :=
  match made with
  | .error error => run.1 = .error error ∧ run.2.files = around.files
  | .ok files => Outcome around.medium directory files around.files run.1 run.2.files

theorem delivered_writeGenerated {program : Program (Except Error (List GeneratedFile))}
    (directory : String) (silent : program.effects around = [])
    (made : (program.run around).1 = result) :
    Delivered directory result around ((program >>= writeGenerated directory).run around) := by
  have alike := Program.alike_of_silent silent
  rw [Program.run_then, made]
  cases result with
  | error error => exact ⟨rfl, alike.files⟩
  | ok generated =>
    have outcome := (writeFiles_writes directory generated (program.run around).2).outcome
    rwa [alike.medium, alike.files] at outcome

theorem delivered_textInto (directory text : String) (around : Surroundings) :
    Delivered directory (textBindings text) around ((textInto directory text).run around) :=
  delivered_writeGenerated directory (effects_ofText text around) (value_ofText text around)

-- The files are as they were unless everything was generated. From then on they are what the writes
-- make of them, one after the other and up to the first that is refused.
theorem disk_after_run (directory : String) (around : Surroundings) :
    (∀ files, Outcome around.medium directory files around.files
      ((writeFiles directory files).run around).1
      ((writeFiles directory files).run around).2.files) ∧
    (∀ schema, Delivered directory (bindings schema) around
      ((schemaInto directory schema).run around)) ∧
    (∀ text, Delivered directory (textBindings text) around
      ((textInto directory text).run around)) ∧
    ∀ path, Delivered directory (savedBindings around path) around
      ((savedInto directory path).run around) := by
  refine ⟨fun files => (writeFiles_writes directory files around).outcome, fun schema => ?_,
    fun text => delivered_textInto directory text around, fun path => ?_⟩
  · exact delivered_writeGenerated directory (effects_ofDeclarations schema.collect _)
      (value_ofDeclarations schema.collect _)
  · rw [savedInto, Program.run_then, savedBindings]
    simp only [Program.read, Program.run]
    cases around.load path with
    | error cause => exact ⟨rfl, rfl⟩
    | ok text => exact delivered_textInto directory text around

end Generating

end Generation

end SchemaBindings
