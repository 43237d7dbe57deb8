import SchemaBindings.Proofs.Command.Accepted
import SchemaBindings.Proofs.Command.Supply
import SchemaBindings.Proofs.Generation.Outcome

namespace SchemaBindings

namespace Generation
open Binding

theorem names_of_textBindings (made : textBindings text = .ok files) :
    files.map (·.name) = [enumsFile, inputsFile, scalarsFile] := by
  rw [textBindings] at made
  cases parsed : Introspection.parse text with
  | error cause =>
    rw [parsed] at made
    cases made
  | ok schema =>
    rw [parsed] at made
    cases generated : Binding.generate schema.collect with
    | error cause =>
      simp only [bindings, generated] at made
      cases made
    | ok three =>
      have sound := (generate_decided schema.collect).ok_iff.mp ⟨three, generated⟩
      simp only [bindings, generate_sound sound] at made
      cases made
      simp only [List.map_cons, List.map_nil, name_render]

end Generation

namespace Command
open Binding Generation

-- Where bindings are written.
def Options.outputs (options : Options) : List String :=
  [enumsFile, inputsFile, scalarsFile].map (Files.join options.out)

-- Where anything may be written.
def Options.targets (options : Options) : List String :=
  options.saveSchema.toList ++ options.outputs

-- All that a run can do, with what comes out and the files that are left.
inductive Course (addresses : Endpoint.Reader) (options : Options) (around : Surroundings) :
    List Effect → Except Failure (List String) → Files.Tree → Prop where
  | stalled (supply : Supply addresses options around steps (.error reason)) :
      Course addresses options around steps (.error reason) (steps.foldl Effect.change around.files)
  | barren (supply : Supply addresses options around steps (.ok text))
      (refused : textBindings text = .error cause) :
      Course addresses options around steps (.error (.generating cause))
        (steps.foldl Effect.change around.files)
  | broken (supply : Supply addresses options around steps (.ok text))
      (made : textBindings text = .ok (before ++ file :: behind))
      (written : Written around.medium options.out before
        (steps.foldl Effect.change around.files) after)
      (refused : around.medium.writeText after (Files.join options.out file.name) file.content =
        .error cause) :
      Course addresses options around
        (steps ++ (before.map (delivery options.out) ++
          [.write (Files.join options.out file.name) file.content (.error cause)]))
        (.error (.writing options.out (.write (Files.join options.out file.name) cause))) after
  | finished (supply : Supply addresses options around steps (.ok text))
      (made : textBindings text = .ok files)
      (written : Written around.medium options.out files
        (steps.foldl Effect.change around.files) after) :
      Course addresses options around (steps ++ files.map (delivery options.out))
        (.ok options.outputs) after

-- How a run ends that has the text of its document.
inductive Ended (medium : Files.Medium) (directory text : String) (tree : Files.Tree) :
    Except Failure (List String) → Files.Tree → Prop where
  | barren (refused : textBindings text = .error cause) :
      Ended medium directory text tree (.error (.generating cause)) tree
  | written (made : textBindings text = .ok files)
      (outcome : Outcome medium directory files tree result after) :
      Ended medium directory text tree (result.mapError (.writing directory)) after

section Running
variable {addresses : Endpoint.Reader} {options : Options} {around : Surroundings}

theorem paths_of_textBindings (made : textBindings text = .ok files) (options : Options) :
    (files.map fun file => Files.join options.out file.name) = options.outputs := by
  rw [Options.outputs, ← names_of_textBindings made, List.map_map]
  rfl

theorem run_generateInto_refused (refused : textBindings text = .error cause) (directory : String)
    (around : Surroundings) :
    ((generateInto directory text).run around).1 = .error (.generating cause) ∧
    (generateInto directory text).effects around = [] := by
  have value : ((ofText text).run around).1 = .error cause :=
    (value_ofText text around).trans refused
  rw [generateInto]
  simp only [Program.run_then, Program.effects_then, value, effects_ofText]
  exact ⟨rfl, rfl⟩

-- What is written unformatted is told before anything is written.
theorem run_generateInto (made : textBindings text = .ok files) (directory : String)
    (around : Surroundings) :
    ∃ later : Surroundings, later.Alike around ∧
      ((generateInto directory text).run around).1 =
        ((writeFiles directory files).run later).1.mapError (.writing directory) ∧
      ((generateInto directory text).run around).2 = ((writeFiles directory files).run later).2 ∧
      (generateInto directory text).effects around = (writeFiles directory files).effects later := by
  have value : ((ofText text).run around).1 = .ok files := (value_ofText text around).trans made
  have silent := effects_ofText text around
  rw [generateInto]
  simp only [Program.run_then, Program.effects_then, value, silent, Program.effects_logAll,
    Program.effects_pure, Program.run_pure, List.nil_append, List.append_nil]
  refine ⟨_, ?_, rfl, rfl, rfl⟩
  exact (Program.alike_of_silent (Program.effects_logAll _ _)).trans
    (Program.alike_of_silent silent)

theorem run_work_refused {failure : Failure}
    (refused : ((document addresses options).run around).1 = .error failure)
    (idle : (document addresses options).effects around = []) :
    ((work addresses options).run around).1 = .error failure ∧
      (work addresses options).effects around = [] := by
  rw [work]
  simp only [Program.run_then, Program.effects_then, refused, idle]
  exact ⟨rfl, rfl⟩

theorem course_of_supply (supply : Supply addresses options around steps (.ok text))
    (later : Surroundings) (medium : later.medium = around.medium)
    (files : later.files = steps.foldl Effect.change around.files) :
    Course addresses options around (steps ++ (generateInto options.out text).effects later)
      ((generateInto options.out text).run later).1
      ((generateInto options.out text).run later).2.files := by
  cases made : textBindings text with
  | error cause =>
    obtain ⟨value, silent⟩ := run_generateInto_refused made options.out later
    rw [value, (Program.alike_of_silent silent).files, files, silent, List.append_nil]
    exact .barren supply made
  | ok bindings =>
    obtain ⟨last, same, value, after, effects⟩ := run_generateInto made options.out later
    have writes := writeFiles_writes options.out bindings last
    rw [value, after, effects]
    generalize (writeFiles options.out bindings).effects last = more at writes ⊢
    generalize ((writeFiles options.out bindings).run last).1 = result at writes ⊢
    cases writes with
    | all written =>
      rw [same.medium, medium, same.files, files] at written
      rw [paths_of_textBindings made]
      exact .finished supply made written
    | refused split written refused =>
      rw [same.medium, medium, same.files, files] at written
      rw [same.medium, medium] at refused
      rw [split] at made
      exact .broken supply made written refused

theorem work_course (addresses : Endpoint.Reader) (options : Options) (around : Surroundings) :
    Course addresses options around ((work addresses options).effects around)
      ((work addresses options).run around).1 ((work addresses options).run around).2.files := by
  have supply := document_supply addresses options around
  have files := Program.files_run (document addresses options) around
  have medium := (Program.sameWorld_run (document addresses options) around).medium
  rw [work]
  simp only [Program.run_then, Program.effects_then]
  cases outcome : ((document addresses options).run around).1 with
  | error failure =>
    rw [outcome] at supply
    simp only [Program.effects_pure, Program.run_pure, List.append_nil, files]
    exact .stalled supply
  | ok text =>
    rw [outcome] at supply
    exact course_of_supply supply _ medium files

end Running

section Courses
variable {addresses : Endpoint.Reader} {options : Options} {around : Surroundings}
  {effects : List Effect} {result : Except Failure (List String)} {after : Files.Tree}
  {files : List GeneratedFile}

theorem append_cons_split {left right before behind : List α}
    (split : left ++ right = before ++ value :: behind) :
    (∃ rest, left = before ++ value :: rest) ∨
      ∃ middle, before = left ++ middle ∧ right = middle ++ value :: behind := by
  rcases List.append_eq_append_iff.mp split with ⟨middle, front, back⟩ | ⟨middle, front, back⟩
  · exact .inr ⟨middle, front, back⟩
  · cases middle with
    | nil => exact .inr ⟨[], by simp [front], back.symm⟩
    | cons first rest =>
      cases back
      exact .inl ⟨rest, front⟩

theorem delivery_split {directory : String}
    (split : files.map (delivery directory) = before ++ .write path content answer :: behind) :
    ∃ earlier file later, files = earlier ++ file :: later ∧
      before = earlier.map (delivery directory) ∧ path = Files.join directory file.name ∧
      content = file.content := by
  obtain ⟨earlier, rest, rfl, front, back⟩ := List.map_eq_append_iff.mp split
  obtain ⟨file, later, rfl, here, _⟩ := List.map_eq_cons_iff.mp back
  cases here
  exact ⟨earlier, file, later, rfl, front.symm, rfl, rfl⟩

theorem mem_outputs (made : textBindings text = .ok files) (inside : file ∈ files) :
    Files.join options.out file.name ∈ options.outputs := by
  rw [← paths_of_textBindings made]
  exact List.mem_map.mpr ⟨file, inside, rfl⟩

-- Behind the steps for the document there are only writes of bindings, and they end the run.
theorem Course.ended (course : Course addresses options around effects result after) :
    (∃ reason, Supply addresses options around effects (.error reason)) ∨
    ∃ steps text more, Supply addresses options around steps (.ok text) ∧ effects = steps ++ more ∧
      (∀ effect ∈ more, ∃ path ∈ options.outputs, ∃ content answer,
        effect = .write path content answer) ∧
      Ended around.medium options.out text (steps.foldl Effect.change around.files) result after := by
  cases course with
  | stalled supply => exact .inl ⟨_, supply⟩
  | barren supply refused =>
    exact .inr ⟨_, _, [], supply, (List.append_nil _).symm, nofun, .barren refused⟩
  | broken supply made written refused =>
    refine .inr ⟨_, _, _, supply, rfl, fun effect inside => ?_,
      .written made (.refused rfl written refused)⟩
    rcases List.mem_append.mp inside with delivered | refused
    · obtain ⟨file, among, rfl⟩ := List.mem_map.mp delivered
      exact ⟨_, mem_outputs made (List.mem_append_left _ among), _, _, rfl⟩
    · cases List.mem_singleton.mp refused
      exact ⟨_, mem_outputs made (List.mem_append_right _ (List.mem_cons_self ..)), _, _, rfl⟩
  | finished supply made written =>
    have ended := Ended.written made (.written written)
    rw [paths_of_textBindings made options] at ended
    refine .inr ⟨_, _, _, supply, rfl, fun effect inside => ?_, ended⟩
    obtain ⟨file, among, rfl⟩ := List.mem_map.mp inside
    exact ⟨_, mem_outputs made among, _, _, rfl⟩

theorem Course.parts (course : Course addresses options around effects result after) :
    ∃ steps supplied more, Supply addresses options around steps supplied ∧ effects = steps ++ more ∧
      ∀ effect ∈ more, ∃ path ∈ options.outputs, ∃ content answer,
        effect = .write path content answer := by
  rcases course.ended with ⟨_, supply⟩ | ⟨_, _, more, supply, split, writes, _⟩
  · exact ⟨_, _, [], supply, (List.append_nil _).symm, nofun⟩
  · exact ⟨_, _, more, supply, split, writes⟩

theorem Course.once (course : Course addresses options around effects result after) :
    (effects.filter Effect.isExchange).length ≤ 1 := by
  obtain ⟨steps, _, more, supply, rfl, writes⟩ := course.parts
  have none : more.filter Effect.isExchange = [] := by
    refine List.filter_eq_nil_iff.mpr fun effect inside => ?_
    obtain ⟨_, _, _, _, rfl⟩ := writes effect inside
    exact Bool.false_ne_true
  rw [List.filter_append, none, List.append_nil]
  exact supply.once

-- All that reaches someone is of one sending.
theorem Course.received (course : Course addresses options around effects result after) :
    effects.flatMap Effect.received = [] ∨
    ∃ loader, Loader.check addresses options.loaderSettings = .ok loader ∧
      effects.flatMap Effect.received = (around.send loader.request).requests := by
  obtain ⟨steps, _, more, supply, rfl, writes⟩ := course.parts
  have none : more.flatMap Effect.received = [] := by
    refine List.flatMap_eq_nil_iff.mpr fun effect inside => ?_
    obtain ⟨_, _, _, _, rfl⟩ := writes effect inside
    rfl
  rw [List.flatMap_append, none, List.append_nil]
  exact supply.received

theorem Course.single (course : Course addresses options around effects result after)
    (direct : ∀ earlier request, (around.server earlier request).isMoved = false) :
    (effects.flatMap Effect.received).length ≤ 1 := by
  rcases course.received with none | ⟨loader, _, sent⟩
  · rw [none]
    exact Nat.zero_le 1
  · rw [sent]
    exact Http.Client.length_pursue (direct _ _) _

theorem Course.offline (course : Course addresses options around effects result after)
    (named : options.schema.isSome = true) : ∀ effect ∈ effects, effect.isExchange = false := by
  obtain ⟨steps, _, more, supply, rfl, writes⟩ := course.parts
  intro effect inside
  rcases List.mem_append.mp inside with first | later
  · exact supply.offline named effect first
  · obtain ⟨_, _, _, _, rfl⟩ := writes effect later
    rfl

theorem Course.targets (course : Course addresses options around effects result after) :
    ∀ path ∈ effects.filterMap Effect.target?, path ∈ options.targets := by
  obtain ⟨steps, _, more, supply, rfl, writes⟩ := course.parts
  intro path target
  rw [List.filterMap_append] at target
  rcases List.mem_append.mp target with first | later
  · refine List.mem_append_left _ ?_
    rw [supply.target first]
    exact List.mem_singleton_self path
  · obtain ⟨effect, inside, there⟩ := List.mem_filterMap.mp later
    obtain ⟨_, output, _, _, rfl⟩ := writes effect inside
    cases there
    exact List.mem_append_right _ output

theorem Course.kept {sent : Http.Sent}
    (course : Course addresses options around effects result after)
    (received : .exchange request sent ∈ effects) (answered : sent.outcome.reply = .whole 200 body)
    (kept : options.saveSchema = some path) :
    ∃ behind, effects = .exchange request sent ::
        .write path (Text.Utf8.decode body) (around.save path (Text.Utf8.decode body)).1 :: behind ∧
      ∀ other ∈ behind.filterMap Effect.target?, other ∈ options.outputs := by
  obtain ⟨steps, _, more, supply, rfl, writes⟩ := course.parts
  refine ⟨more, ?_, fun other target => ?_⟩
  · rcases List.mem_append.mp received with first | later
    · rw [supply.kept first answered kept]
      rfl
    · obtain ⟨_, _, _, _, same⟩ := writes _ later
      cases same
  · obtain ⟨effect, inside, there⟩ := List.mem_filterMap.mp target
    obtain ⟨_, output, _, _, rfl⟩ := writes effect inside
    cases there
    exact output

end Courses
end Command
end SchemaBindings
