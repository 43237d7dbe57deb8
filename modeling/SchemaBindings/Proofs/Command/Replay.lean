import SchemaBindings.Proofs.Command.Orderly
import SchemaBindings.Proofs.Generation.Routes

namespace SchemaBindings.Command

open Binding Generation

section Ends
variable {directory text : String} {tree after last : Files.Tree} {medium later : Files.Medium}
  {result second : Except Failure (List String)}

-- The same document leads to the same end again, and nothing new is written on the way.
theorem Ended.again
    (steady : medium.SteadyAt later ([enumsFile, inputsFile, scalarsFile].map (Files.join directory)))
    (ended : Ended medium directory text tree result after)
    (repeated : Ended later directory text after second last) :
    second = result ∧ after.Alike last := by
  cases ended with
  | barren refused => cases repeated with
    | barren again =>
      rw [refused] at again
      cases again
      exact ⟨rfl, rfl, fun _ => rfl⟩
    | written made _ =>
      rw [refused] at made
      cases made
  | written made outcome => cases repeated with
    | barren refused =>
      rw [made] at refused
      cases refused
    | written remade reoutcome =>
      rw [made] at remade
      cases remade
      rw [← names_of_textBindings made, List.map_map] at steady
      obtain ⟨rfl, alike⟩ := outcome.again steady reoutcome
      exact ⟨rfl, alike⟩

end Ends

section Runs
variable {addresses : Endpoint.Reader} {options : Options} {around : Surroundings}
  {path text : String}

-- What is saved is what the run goes on with.
theorem Supply.of_saved {supplied : Except Failure String}
    (supply : Supply addresses options around steps supplied)
    (saved : .write path text (.ok ()) ∈ steps) :
    supplied = .ok text ∧ ∃ tree, around.medium.writeText around.files path text = .ok tree ∧
      steps.foldl Effect.change around.files = tree := by
  cases supply with
  | saved _ _ _ _ taken =>
    rcases List.mem_cons.mp saved with first | second
    · cases first
    · cases List.mem_singleton.mp second
      have written := (Files.Medium.writeText_ok_iff.mp taken).2
      exact ⟨rfl, _, taken, by simp [Effect.change, written, Except.toOption]⟩
  | unsaved _ _ _ _ _ => simp at saved
  | _ => simp at saved

theorem Supply.of_stored {supplied : Except Failure String}
    (supply : Supply addresses options around steps supplied)
    (named : options.schema = some path) (held : around.load path = .ok text) :
    supplied = .ok text ∧ steps.foldl Effect.change around.files = around.files := by
  cases supply with
  | read stored read =>
    rw [named] at stored
    cases stored
    rw [held] at read
    cases read
    exact ⟨rfl, rfl⟩
  | unreadable stored refused =>
    rw [named] at stored
    cases stored
    rw [held] at refused
    cases refused
  | _ unnamed => simp [named] at unnamed

-- What a run leaves behind that has saved its document, and what later runs make of that. Right
-- after it nothing changes any more, unless what was refused then is taken now or the reverse.
structure Replayable (addresses : Endpoint.Reader) (options : Options) (around : Surroundings)
    (path text : String) (first : Completion × Surroundings) : Prop where
  readable : first.2.files.readText path = .ok text
  ended : ∃ saved result, around.medium.writeText around.files path text = .ok saved ∧
    first.1 = conclude result ∧
    Ended around.medium options.out text saved result first.2.files
  replayed : ∀ arguments environment again later,
    Options.read arguments environment = .ok again → again.schema = some path →
    later.load path = .ok text →
      ∃ result, ((run addresses arguments environment).run later).1 = conclude result ∧
        Ended later.medium again.out text later.files result
          ((run addresses arguments environment).run later).2.files
  repeated : ∀ arguments environment again later,
    Options.read arguments environment = .ok again → again.schema = some path →
    again.out = options.out → later.files = first.2.files → later.load path = .ok text →
    around.medium.SteadyAt later.medium options.outputs →
      ((run addresses arguments environment).run later).1 = first.1 ∧
      first.2.files.Alike ((run addresses arguments environment).run later).2.files

theorem run_work_saved
    (saved : .write path text (.ok ()) ∈ (work addresses options).effects around)
    (apart : ∀ output ∈ options.outputs,
      around.files.locate output ≠ around.files.locate path) :
    ((work addresses options).run around).2.files.readText path = .ok text ∧
      ∃ tree, around.medium.writeText around.files path text = .ok tree ∧
        Ended around.medium options.out text tree ((work addresses options).run around).1
          ((work addresses options).run around).2.files := by
  have files := Program.files_run (work addresses options) around
  rcases (work_course addresses options around).ended with ⟨reason, supply⟩ |
    ⟨steps, supplied, more, supply, split, writes, ended⟩
  · cases (supply.of_saved saved).1
  · have targets : ∀ other ∈ more.filterMap Effect.target?, other ∈ options.outputs := by
      intro other inside
      obtain ⟨effect, among, target⟩ := List.mem_filterMap.mp inside
      obtain ⟨output, listed, _, _, rfl⟩ := writes effect among
      cases target
      exact listed
    rw [split] at saved files
    rcases List.mem_append.mp saved with first | later
    · obtain ⟨same, tree, taken, changed⟩ := supply.of_saved first
      have written := (Files.Medium.writeText_ok_iff.mp taken).2
      cases same
      rw [changed] at ended
      rw [List.foldl_append, changed] at files
      refine ⟨?_, tree, taken, ended⟩
      rw [files]
      exact readText_foldl written fun other inside => apart other (targets other inside)
    · have output : path ∈ options.outputs :=
        targets path (List.mem_filterMap.mpr ⟨_, later, rfl⟩)
      exact (apart path output rfl).elim

theorem run_work_stored (addresses : Endpoint.Reader) (named : options.schema = some path)
    (held : around.load path = .ok text) :
    Ended around.medium options.out text around.files ((work addresses options).run around).1
      ((work addresses options).run around).2.files := by
  rcases (work_course addresses options around).ended with ⟨reason, supply⟩ |
    ⟨steps, supplied, more, supply, _, _, ended⟩
  · cases (supply.of_stored named held).1
  · obtain ⟨same, unchanged⟩ := supply.of_stored named held
    cases same
    rwa [unchanged] at ended

theorem replayable_of_saved {arguments : List String} {environment : String → Option String}
    (accepted : Options.read arguments environment = .ok options)
    (saved : .write path text (.ok ()) ∈ (run addresses arguments environment).effects around)
    (apart : ∀ output ∈ options.outputs, around.files.locate output ≠ around.files.locate path) :
    Replayable addresses options around path text
      ((run addresses arguments environment).run around) := by
  obtain ⟨done, same⟩ := run_accepted addresses accepted around
  rw [same] at saved
  obtain ⟨readable, tree, written, ended⟩ := run_work_saved saved apart
  rw [done]
  constructor
  case readable => exact readable
  case ended => exact ⟨tree, _, written, rfl, ended⟩
  case replayed =>
    intro others settings again later reaccepted named held
    rw [(run_accepted addresses reaccepted later).1]
    exact ⟨_, rfl, run_work_stored addresses named held⟩
  case repeated =>
    intro others settings again later reaccepted named out left held steady
    have repeated := run_work_stored addresses named held
    rw [out, left] at repeated
    obtain ⟨result, alike⟩ := ended.again steady repeated
    rw [(run_accepted addresses reaccepted later).1]
    exact ⟨congrArg conclude result, alike⟩

end Runs

-- Whatever the settings of the loader, the answers, the arguments and the files are, and whatever
-- is refused.
theorem routes_agree :
    (∀ (loader : Loader) (around : Surroundings), loader.Loads around ∧
      ∀ text, (loader.fetch.run around).1 = .ok text → ∀ directory path (here : Surroundings),
        here.load path = .ok text → SameRoutes loader around text directory path here) ∧
    ∀ addresses arguments environment options (around : Surroundings) path text,
      Options.read arguments environment = .ok options →
      .write path text (.ok ()) ∈ (run addresses arguments environment).effects around →
      (∀ output ∈ options.outputs, around.files.locate output ≠ around.files.locate path) →
        Replayable addresses options around path text
          ((run addresses arguments environment).run around) := by
  constructor
  · intro loader around
    refine ⟨loader.loads around, fun text fetched directory path here held => ?_⟩
    exact sameRoutes_of_fetched fetched held directory
  · intro addresses arguments environment options around path text accepted saved apart
    exact replayable_of_saved accepted saved apart

-- A document is fetched and kept, and later used from the file that was kept.
def paintText : String := (Introspection.paint.document ["late"]).text

def emptyOutput : Files.Tree := { entries := [(["made"], .directory)] }

def paintAnswer : Surroundings :=
  { files := emptyOutput, server := fun _ _ => .whole 200 paintText.toUTF8 }

def keepingOptions : Options :=
  { token := some "secret", out := "made", saveSchema := some "kept.json" }

def keepingLoader : Loader where
  endpoint := ⟨"https", "", "", "us.api.mondoo.com", none, "/query", none, none⟩
  token := some "secret"
  userAgent := Loader.defaultUserAgent
  timeLimit := 30000

def replaying : List String := ["--out", "made", "--schema=kept.json"]

theorem locate_kept : emptyOutput.locate "kept.json" = .ok ["kept.json"] := by
  rw [Files.Tree.locate_eq_walk (by decide) (by decide) (by decide)]
  decide +kernel

theorem keeping_apart : ∀ output ∈ keepingOptions.outputs,
    emptyOutput.locate output ≠ emptyOutput.locate "kept.json" := by
  have regular : ∀ output ∈ keepingOptions.outputs, '\x00' ∉ output.toList ∧
      output.utf8ByteSize ≤ Files.longestPath ∧ output.isEmpty = false := by decide +kernel
  have elsewhere : ∀ output ∈ keepingOptions.outputs,
      emptyOutput.walk (emptyOutput.origin output) (Files.components output) ≠
        .ok ["kept.json"] := by decide +kernel
  intro output among
  obtain ⟨plain, short, named⟩ := regular output among
  rw [locate_kept, Files.Tree.locate_eq_walk plain short named]
  exact elsewhere output among

theorem paint_answered : (paintAnswer.send keepingLoader.request).outcome.reply =
    .whole 200 paintText.toUTF8 := rfl

theorem keeping_saves : .write "kept.json" paintText (.ok ()) ∈
    (work Endpoint.plainReader keepingOptions).effects paintAnswer := by
  have checked : Loader.check Endpoint.plainReader keepingOptions.loaderSettings =
      .ok keepingLoader := by decide +kernel
  have unobstructed : keepingLoader.obstacle? = none := by decide +kernel
  have asked : .exchange keepingLoader.request (paintAnswer.send keepingLoader.request) ∈
      (document Endpoint.plainReader keepingOptions).effects paintAnswer :=
    asked_fetchDocument checked unobstructed paintAnswer
  have writable : emptyOutput.Writable "kept.json" :=
    ⟨["kept.json"], locate_kept, by decide +kernel, nofun⟩
  obtain ⟨tree, written⟩ := Files.Tree.writeText_of_writable writable paintText
  have saved : (paintAnswer.save "kept.json" paintText).1 = .ok () := by
    have taken : paintAnswer.medium.writeText paintAnswer.files "kept.json" paintText = .ok tree :=
      Files.Medium.writeText_ok_iff.mpr ⟨rfl, written⟩
    rw [Surroundings.save, taken]
  have steps := (document_supply Endpoint.plainReader keepingOptions paintAnswer).kept asked
    paint_answered rfl
  have decoded : Text.Utf8.decode paintText.toUTF8 = paintText := Text.Utf8.decode_toUTF8 paintText
  rw [decoded, saved] at steps
  rw [work, Program.effects_then, steps]
  exact List.mem_append_left _ (by simp)

theorem routes_agree_paint :
    Options.read keeping tokenVariable = .ok keepingOptions ∧
    Options.read replaying tokenVariable =
      .ok { token := some "secret", out := "made", schema := some "kept.json" } ∧
    (keepingLoader.load.run paintAnswer).1 = .ok Introspection.paint ∧
    SameEnd
      ((schemaInto "made" Introspection.paint).run
        ((run Endpoint.plainReader keeping tokenVariable).run paintAnswer).2)
      ((textInto "made" paintText).run
        ((run Endpoint.plainReader keeping tokenVariable).run paintAnswer).2) ∧
    ((run Endpoint.plainReader replaying tokenVariable).run
        ((run Endpoint.plainReader keeping tokenVariable).run paintAnswer).2).1 =
      ((run Endpoint.plainReader keeping tokenVariable).run paintAnswer).1 := by
  have accepted : Options.read keeping tokenVariable = .ok keepingOptions := by decide +kernel
  have reaccepted : Options.read replaying tokenVariable =
      .ok { token := some "secret", out := "made", schema := some "kept.json" } := by
    decide +kernel
  have saved := keeping_saves
  rw [← (run_accepted Endpoint.plainReader accepted paintAnswer).2] at saved
  have replayable := routes_agree.2 Endpoint.plainReader keeping tokenVariable keepingOptions
    paintAnswer "kept.json" paintText accepted saved keeping_apart
  have fetched : (keepingLoader.fetch.run paintAnswer).1 = .ok paintText :=
    (keepingLoader.fetched_iff paintAnswer paintText).mpr
      ⟨by decide +kernel, _, paint_answered, (Text.Utf8.decode_toUTF8 paintText).symm⟩
  have medium := (Program.sameWorld_run (run Endpoint.plainReader keeping tokenVariable)
    paintAnswer).medium
  have held : ((run Endpoint.plainReader keeping tokenVariable).run paintAnswer).2.load
      "kept.json" = .ok paintText := by
    rw [Surroundings.load, medium]
    exact replayable.readable
  have same := (routes_agree.1 keepingLoader paintAnswer).2 paintText fetched "made" "kept.json" _
    held
  have loaded : (keepingLoader.load.run paintAnswer).1 = .ok Introspection.paint := by
    rw [keepingLoader.value_load paintAnswer fetched, paintText,
      (Introspection.decodes_paint ["late"] (by decide)).2]
    rfl
  have steady : paintAnswer.medium.SteadyAt
      ((run Endpoint.plainReader keeping tokenVariable).run paintAnswer).2.medium
      keepingOptions.outputs := by
    rw [medium]
    exact fun _ _ _ _ _ => rfl
  exact ⟨accepted, reaccepted, loaded, same.loaded _ loaded,
    (replayable.repeated replaying tokenVariable _ _ reaccepted rfl rfl rfl held steady).1⟩

end SchemaBindings.Command
