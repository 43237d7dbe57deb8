import SchemaBindings.Proofs.Command.Supply
import SchemaBindings.Proofs.Generation.Outcome

namespace SchemaBindings

namespace Loader

-- What a load makes of what a fetch brings. After a fetch that failed nothing else is done.
structure Loads (loader : Loader) (around : Surroundings) : Prop where
  fetched : ∀ text, (loader.fetch.run around).1 = .ok text ↔ loader.obstacle? = none ∧
    ∃ body, (around.send loader.request).outcome.reply = .whole 200 body ∧
      text = Text.Utf8.decode body
  failed : ∀ error, (loader.load.run around).1 = .error error ↔
    (loader.fetch.run around).1 = .error error ∨
      ∃ text cause, (loader.fetch.run around).1 = .ok text ∧
        Introspection.parse text = .error cause ∧ error = .document cause
  loaded : ∀ schema, (loader.load.run around).1 = .ok schema ↔
    ∃ text, (loader.fetch.run around).1 = .ok text ∧ Introspection.parse text = .ok schema
  unparsed : ∀ error, (loader.fetch.run around).1 = .error error →
    loader.load.run around = (.error error, (loader.fetch.run around).2)
  steps : loader.load.effects around = loader.fetch.effects around

section Loading
variable (loader : Loader) (around : Surroundings)

theorem run_load_failed (failed : (loader.fetch.run around).1 = .error error) :
    loader.load.run around = (.error error, (loader.fetch.run around).2) := by
  rw [load, Program.run_then, failed]
  rfl

theorem value_load (fetched : (loader.fetch.run around).1 = .ok text) :
    (loader.load.run around).1 = (Introspection.parse text).mapError .document := by
  rw [load, Program.run_then, fetched]
  dsimp only
  rw [Program.run_then]
  rfl

theorem fetched_iff (text : String) :
    (loader.fetch.run around).1 = .ok text ↔ loader.obstacle? = none ∧
      ∃ body, (around.send loader.request).outcome.reply = .whole 200 body ∧
        text = Text.Utf8.decode body := by
  cases obstacle : loader.obstacle? with
  | some trouble => simp [(run_fetch_obstructed obstacle around).1]
  | none =>
    rw [(run_fetch obstacle around).1]
    constructor
    · exact fun judged => ⟨rfl, judge_ok judged⟩
    · rintro ⟨_, body, answered, rfl⟩
      exact judge_whole answered

theorem effects_load : loader.load.effects around = loader.fetch.effects around := by
  rw [load, Program.effects_then]
  cases (loader.fetch.run around).1 with
  | error error => exact List.append_nil _
  | ok text =>
    dsimp only
    rw [Program.effects_then, Program.effects_logAll]
    exact List.append_nil _

theorem loads : Loads loader around := by
  constructor
  case fetched => exact fetched_iff loader around
  case unparsed => exact fun _ => run_load_failed loader around
  case steps => exact effects_load loader around
  case failed =>
    intro error
    cases fetched : (loader.fetch.run around).1 with
    | error other => simp [run_load_failed loader around fetched]
    | ok text =>
      rw [value_load loader around fetched]
      cases parsed : Introspection.parse text <;> simp [Except.mapError, parsed, eq_comm]
  case loaded =>
    intro schema
    cases fetched : (loader.fetch.run around).1 with
    | error other => simp [run_load_failed loader around fetched]
    | ok text =>
      rw [value_load loader around fetched]
      cases parsed : Introspection.parse text <;> simp [Except.mapError, parsed]

end Loading
end Loader

namespace Generation
open Binding Files

-- The same comes out and the same files are left.
def SameEnd (one other : α × Surroundings) : Prop :=
  one.1 = other.1 ∧ one.2.files = other.2.files

section Routes
variable {directory text path : String} {schema : Schema} {around : Surroundings}

theorem SameEnd.symm {one other : α × Surroundings} (same : SameEnd one other) :
    SameEnd other one := ⟨same.1.symm, same.2.symm⟩

theorem SameEnd.trans {one middle other : α × Surroundings} (first : SameEnd one middle)
    (second : SameEnd middle other) : SameEnd one other :=
  ⟨first.1.trans second.1, first.2.trans second.2⟩

-- However the bindings were made, it is they that are written.
theorem end_writeGenerated {program : Program (Except Error (List GeneratedFile))}
    (directory : String) (silent : program.effects around = [])
    (made : (program.run around).1 = result) :
    SameEnd ((program >>= writeGenerated directory).run around)
      ((writeGenerated directory result).run around) := by
  rw [Program.run_then, made]
  obtain ⟨same, after⟩ := Program.run_congr (writeGenerated directory result)
    (Program.alike_of_silent silent)
  exact ⟨same, after.files⟩

theorem end_schemaInto (directory : String) (schema : Schema) (around : Surroundings) :
    SameEnd ((schemaInto directory schema).run around)
      ((writeGenerated directory (bindings schema)).run around) :=
  end_writeGenerated directory (effects_ofDeclarations schema.collect _)
    (value_ofDeclarations schema.collect _)

theorem end_textInto (directory text : String) (around : Surroundings) :
    SameEnd ((textInto directory text).run around)
      ((writeGenerated directory (textBindings text)).run around) :=
  end_writeGenerated directory (effects_ofText text around) (value_ofText text around)

theorem run_savedInto (held : around.load path = .ok text) (directory : String) :
    (savedInto directory path).run around = (textInto directory text).run around := by
  rw [savedInto, Program.run_then]
  simp only [Program.read, Program.run, held]

theorem end_schema_of_text (parsed : Introspection.parse text = .ok schema) (directory : String)
    (around : Surroundings) :
    SameEnd ((schemaInto directory schema).run around) ((textInto directory text).run around) := by
  have made : textBindings text = bindings schema := by rw [textBindings, parsed]
  have written := end_textInto directory text around
  rw [made] at written
  exact (end_schemaInto directory schema around).trans written.symm

theorem run_textInto_refused (refused : Introspection.parse text = .error cause)
    (directory : String) (around : Surroundings) :
    ((textInto directory text).run around).1 = .error (.document cause) ∧
      ((textInto directory text).run around).2.files = around.files := by
  have made : textBindings text = .error (.document cause) := by rw [textBindings, refused]
  have delivered := delivered_textInto directory text around
  rwa [made] at delivered

-- A text that was fetched `around`, used `here`: written from the loaded schema, from the text
-- itself and from a file that holds it.
structure SameRoutes (loader : Loader) (around : Surroundings) (text directory path : String)
    (here : Surroundings) : Prop where
  stored : SameEnd ((savedInto directory path).run here) ((textInto directory text).run here)
  loaded : ∀ schema, (loader.load.run around).1 = .ok schema →
    SameEnd ((schemaInto directory schema).run here) ((textInto directory text).run here)
  refused : ∀ error, (loader.load.run around).1 = .error error → ∃ cause, error = .document cause ∧
    ((textInto directory text).run here).1 = .error (.document cause) ∧
    ((textInto directory text).run here).2.files = here.files

theorem sameRoutes_of_fetched {loader : Loader} {here : Surroundings}
    (fetched : (loader.fetch.run around).1 = .ok text)
    (held : here.load path = .ok text) (directory : String) :
    SameRoutes loader around text directory path here := by
  have value := loader.value_load around fetched
  constructor
  case stored =>
    rw [run_savedInto held]
    exact ⟨rfl, rfl⟩
  case loaded =>
    intro schema loaded
    cases parsed : Introspection.parse text with
    | error cause =>
      rw [value, parsed] at loaded
      cases loaded
    | ok other =>
      rw [value, parsed] at loaded
      cases loaded
      exact end_schema_of_text parsed directory here
  case refused =>
    intro error failed
    cases parsed : Introspection.parse text with
    | error cause =>
      rw [value, parsed] at failed
      cases failed
      exact ⟨cause, rfl, run_textInto_refused parsed directory here⟩
    | ok schema =>
      rw [value, parsed] at failed
      cases failed

end Routes

section Again
variable {directory : String} {files before : List GeneratedFile} {tree after last : Tree}
  {medium later : Medium}

theorem Taken.allowed (taken : Taken medium directory files tree after) (inside : file ∈ files) :
    ∃ before, medium.writeRefusal before (join directory file.name) file.content = none := by
  induction taken with
  | nil => cases inside
  | cons first _ ih =>
    rcases List.mem_cons.mp inside with rfl | inside
    · exact ⟨_, (Medium.writeText_ok_iff.mp first).1⟩
    · exact ih inside

theorem Written.writable (written : Written medium directory files tree after)
    (inside : file ∈ files) : after.Writable (join directory file.name) := by
  obtain ⟨_, _, _, _, read⟩ := written.readable file inside
  exact Tree.writable_of_readText read

-- What was written last is written last again.
theorem Written.again (written : Written medium directory files tree after)
    (rewritten : Written later directory files after last) : after.Alike last := by
  refine ⟨rewritten.directories.start, fun location => ?_⟩
  rw [rewritten.entries, lastAt_congr written.directories]
  have held := written.entries location
  cases last : lastAt tree directory files location with
  | none => rfl
  | some file =>
    rw [last] at held
    exact held.symm

-- What was written once can be written again, as far as the directories and the medium are the same.
theorem Written.not_refused (written : Written medium directory files tree after)
    (inside : file ∈ files)
    (same : ∀ here there, later.writeRefusal there (join directory file.name) file.content =
      medium.writeRefusal here (join directory file.name) file.content)
    (directories : after.SameDirectories last)
    (refused : later.writeText last (join directory file.name) file.content = .error cause) :
    False := by
  obtain ⟨before, allowed⟩ := written.taken.allowed inside
  have writable := (written.writable inside).of_sameDirectories directories
  obtain ⟨_, rewritten⟩ := Tree.writeText_of_writable writable file.content
  rw [Medium.writeText_ok_iff.mpr ⟨(same before last).trans allowed, rewritten⟩] at refused
  cases refused

-- A medium that refuses the same refuses it of files that are the same.
theorem refused_again (same : later.writeRefusal last path content =
      medium.writeRefusal after path content) (alike : after.Alike last)
    (refused : medium.writeText after path content = .error cause) :
    later.writeText last path content = .error cause := by
  rw [Medium.writeText] at refused ⊢
  rw [same]
  cases reason : medium.writeRefusal after path content with
  | some _ => rwa [reason] at refused
  | none =>
    rw [reason] at refused
    exact alike.writeText_error refused

theorem splits_alike {before behind earlier rest : List α}
    (same : before ++ a :: behind = earlier ++ b :: rest) :
    (before = earlier ∧ a = b) ∨ a ∈ earlier ∨ b ∈ before := by
  rcases List.append_eq_append_iff.mp same with ⟨middle, rfl, back⟩ | ⟨middle, rfl, back⟩
  · cases middle with
    | nil =>
      cases back
      exact .inl ⟨(List.append_nil _).symm, rfl⟩
    | cons first middle =>
      cases back
      exact .inr (.inl (by simp))
  · cases middle with
    | nil =>
      cases back
      exact .inl ⟨List.append_nil _, rfl⟩
    | cons first middle =>
      cases back
      exact .inr (.inr (by simp))

-- The first file that was refused is refused again, and the others are written again.
theorem Outcome.again {result second : Except Error (List String)}
    (steady : medium.SteadyAt later (files.map fun file => join directory file.name))
    (outcome : Outcome medium directory files tree result after)
    (repeated : Outcome later directory files after second last) :
    second = result ∧ after.Alike last := by
  have refuses {file : GeneratedFile} (inside : file ∈ files) (here there : Tree) :
      later.writeRefusal there (join directory file.name) file.content =
        medium.writeRefusal here (join directory file.name) file.content :=
    steady _ (List.mem_map.mpr ⟨file, inside, rfl⟩) here there _
  cases outcome with
  | written all => cases repeated with
    | written again => exact ⟨rfl, all.again again⟩
    | @refused earlier file _ _ _ split again refused =>
      have inside : file ∈ files := by
        rw [split]
        exact List.mem_append_right _ (List.mem_cons_self ..)
      exact (all.not_refused inside (refuses inside) again.directories refused).elim
  | @refused before file _ _ _ split all refused =>
    have among : file ∈ files := by
      rw [split]
      exact List.mem_append_right _ (List.mem_cons_self ..)
    -- What is written the second time could have been written the first time.
    have unwritten {others : List GeneratedFile} (again : Written later directory others after last) :
        file ∉ others := fun inside =>
      again.not_refused inside (fun here there => (refuses among there here).symm)
        again.directories.symm refused
    cases repeated with
    | written again =>
      exact (unwritten again among).elim
    | @refused _ other _ _ _ resplit again rerefused =>
      rcases splits_alike (split.symm.trans resplit) with ⟨rfl, rfl⟩ | inside | inside
      · have alike := all.again again
        have same := refused_again (refuses among after last) alike refused
        rw [rerefused] at same
        cases same
        exact ⟨rfl, alike⟩
      · exact (unwritten again inside).elim
      · have listed : other ∈ files := by
          rw [resplit]
          exact List.mem_append_right _ (List.mem_cons_self ..)
        exact (all.not_refused inside (refuses listed) again.directories rerefused).elim

end Again
end Generation
end SchemaBindings
