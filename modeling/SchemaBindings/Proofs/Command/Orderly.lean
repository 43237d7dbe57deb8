import SchemaBindings.Endpoint.Parse
import SchemaBindings.Proofs.Command.Course

namespace SchemaBindings.Command

open Binding Generation

-- Why a write is made, by what was done before it: an answer has just come and is to be kept, or
-- bindings of the whole document are to be written and those before this one are.
inductive Due (addresses : Endpoint.Reader) (options : Options) (around : Surroundings) :
    List Effect → String → String → Prop where
  | answer (kept : options.saveSchema = some path)
      (checked : Loader.check addresses options.loaderSettings = .ok loader)
      (answered : (around.send loader.request).outcome.reply = .whole 200 body) :
      Due addresses options around [.exchange loader.request (around.send loader.request)] path
        (Text.Utf8.decode body)
  | binding (supply : Supply addresses options around steps (.ok text))
      (made : textBindings text = .ok (before ++ file :: behind)) :
      Due addresses options around (steps ++ before.map (delivery options.out))
        (Files.join options.out file.name) file.content

-- Everything was done that there is to do.
def Finished (addresses : Endpoint.Reader) (options : Options) (around : Surroundings)
    (effects : List Effect) (after : Files.Tree) : Prop :=
  ∃ steps text files, Supply addresses options around steps (.ok text) ∧
    textBindings text = .ok files ∧ effects = steps ++ files.map (delivery options.out) ∧
    Written around.medium options.out files (steps.foldl Effect.change around.files) after

structure Orderly (addresses : Endpoint.Reader) (options : Options) (around : Surroundings)
    (effects : List Effect) (completion : Completion) (after : Surroundings) : Prop where
  -- Options.
  anonymous : options.noAuth = true → options.token = none
  stored : options.schema.isSome = true → options.saveSchema = none ∧ options.noAuth = false
  uncontradicted :
    Loader.check addresses options.loaderSettings ≠ .error (.credentials .contradictory)
  -- Requests.
  sent : after.requests = around.requests ++ effects.flatMap Effect.received
  once : (effects.filter Effect.isExchange).length ≤ 1
  single : (∀ earlier request, (around.server earlier request).isMoved = false) →
    (effects.flatMap Effect.received).length ≤ 1
  offline : options.schema.isSome = true → ∀ effect ∈ effects, effect.isExchange = false
  uncredentialed : options.schema = none → options.token = none → options.noAuth = false →
    effects = [] ∧ completion = conclude (.error .noCredentials)
  misconfigured : ∀ cause, options.schema = none → (options.token = none → options.noAuth = true) →
    Loader.check addresses options.loaderSettings = .error cause →
    effects = [] ∧ completion = conclude (.error (.configuration cause))
  -- Files.
  changed : after.files = effects.foldl Effect.change around.files
  untouched : ∀ location, (∀ path ∈ options.targets, around.files.locate path ≠ .ok location) →
    after.files.entry? location = around.files.entry? location
  due : ∀ before path content answer behind,
    effects = before ++ .write path content answer :: behind →
    Due addresses options around before path content
  kept : ∀ request sent body path, .exchange request sent ∈ effects →
    sent.outcome.reply = .whole 200 body → options.saveSchema = some path → ∃ answer behind,
      effects = .exchange request sent :: .write path (Text.Utf8.decode body) answer :: behind ∧
      (∀ other ∈ behind.filterMap Effect.target?, other ∈ options.outputs) ∧
      (answer = .ok () →
        (∀ other ∈ behind.filterMap Effect.target?,
          around.files.locate other ≠ around.files.locate path) →
        after.files.readText path = .ok (Text.Utf8.decode body))
  -- The end.
  printed : completion.output ≠ "" → completion.exitCode = 0
  finished : completion.exitCode = 0 →
    completion.output = String.join (options.outputs.map (· ++ "\n")) ∧
    Finished addresses options around effects after.files
  failed : ∀ effect ∈ effects, effect.failed = true → completion.exitCode ≠ 0
  fatal : ∀ failure, ((work addresses options).run around).1 = .error failure → completion.exitCode ≠ 0

section Courses
variable {addresses : Endpoint.Reader} {options : Options} {around : Surroundings}
  {effects steps : List Effect} {result : Except Failure (List String)} {after : Files.Tree}

theorem Supply.due {supplied : Except Failure String}
    (supply : Supply addresses options around steps supplied)
    (split : steps = before ++ .write path content answer :: behind) :
    Due addresses options around before path content := by
  rcases supply.shape with
    rfl | ⟨_, _, _, rfl⟩ | ⟨_, _, _, rfl, _⟩ | ⟨_, _, _, _, _, kept, checked, answered, _, rfl⟩
  · simp at split
  · simp [List.singleton_eq_append_iff] at split
  · simp [List.singleton_eq_append_iff] at split
  · rcases before with _ | ⟨first, _ | ⟨second, rest⟩⟩
    · cases split
    · cases split
      exact .answer kept checked answered
    · simp at split

theorem Course.due (course : Course addresses options around effects result after)
    (split : effects = before ++ .write path content answer :: behind) :
    Due addresses options around before path content := by
  cases course with
  | stalled supply => exact supply.due split
  | barren supply _ => exact supply.due split
  | finished supply made _ =>
    rcases append_cons_split split with ⟨_, first⟩ | ⟨_, rfl, later⟩
    · exact supply.due first
    · obtain ⟨_, _, _, rfl, rfl, rfl, rfl⟩ := delivery_split later
      exact .binding supply made
  | broken supply made _ _ =>
    rcases append_cons_split split with ⟨_, first⟩ | ⟨_, rfl, later⟩
    · exact supply.due first
    · rcases append_cons_split later with ⟨_, delivered⟩ | ⟨_, rfl, refused⟩
      · obtain ⟨_, _, _, rfl, rfl, rfl, rfl⟩ := delivery_split delivered
        rw [List.append_assoc] at made
        exact .binding supply made
      · rcases List.singleton_eq_append_iff.mp refused with ⟨rfl, here⟩ | ⟨_, none⟩
        · cases here
          rw [List.append_nil]
          exact .binding supply made
        · cases none

theorem Course.finish (course : Course addresses options around effects (.ok paths) after) :
    paths = options.outputs ∧ Finished addresses options around effects after := by
  cases course with
  | finished supply made written => exact ⟨rfl, _, _, _, supply, made, rfl, written⟩

theorem Finished.sound (finished : Finished addresses options around effects after) :
    ∀ effect ∈ effects, effect.failed = false := by
  obtain ⟨steps, _, files, supply, _, rfl, _⟩ := finished
  intro effect inside
  rcases List.mem_append.mp inside with first | later
  · exact supply.sound effect first
  · obtain ⟨_, _, rfl⟩ := List.mem_map.mp later
    rfl

end Courses

section Runs
variable {addresses : Endpoint.Reader} {options : Options} {arguments : List String}
  {environment : String → Option String}

-- What is done is what the work does; only its result is put into words.
theorem run_accepted (addresses : Endpoint.Reader)
    (accepted : Options.read arguments environment = .ok options) (around : Surroundings) :
    (run addresses arguments environment).run around =
      (conclude ((work addresses options).run around).1,
        ((work addresses options).run around).2) ∧
    (run addresses arguments environment).effects around =
      (work addresses options).effects around := by
  rw [run, accepted]
  simp only [Program.run_then, Program.effects_then, Program.run_pure, Program.effects_pure,
    List.append_nil, and_self]

theorem exitCode_conclude {result : Except Failure (List String)}
    (zero : (conclude result).exitCode = 0) : ∃ paths, result = .ok paths := by
  cases result with
  | ok paths => exact ⟨paths, rfl⟩
  | error failure => cases zero

theorem output_conclude {result : Except Failure (List String)}
    (printed : (conclude result).output ≠ "") : (conclude result).exitCode = 0 := by
  cases result with
  | ok paths => rfl
  | error failure => exact (printed rfl).elim

-- Whatever the arguments and the environment are, if options come out of them, whatever the files
-- are, which of them the medium refuses to give or to take, and whatever the server answers.
theorem run_orderly (addresses : Endpoint.Reader)
    (accepted : Options.read arguments environment = .ok options) (around : Surroundings) :
    Orderly addresses options around ((run addresses arguments environment).effects around)
      ((run addresses arguments environment).run around).1
      ((run addresses arguments environment).run around).2 := by
  obtain ⟨done, same⟩ := run_accepted addresses accepted around
  have course := work_course addresses options around
  have files := Program.files_run (work addresses options) around
  have requests := Program.requests_run (work addresses options) around
  rw [done, same]
  constructor
  case anonymous => exact (read_consistent accepted).token_none
  case stored =>
    intro named
    have consistent := read_consistent accepted
    exact ⟨consistent.saveSchema_none named, consistent.noAuth_false named⟩
  case uncontradicted => exact check_not_contradictory addresses options
  case sent => exact requests
  case once => exact course.once
  case single => exact course.single
  case offline => exact course.offline
  case uncredentialed =>
    intro unnamed noToken noChoice
    obtain ⟨refused, idle⟩ := run_document_uncredentialed unnamed noToken noChoice around
    obtain ⟨outcome, silent⟩ := run_work_refused refused idle
    exact ⟨silent, congrArg conclude outcome⟩
  case misconfigured =>
    intro cause unnamed chosen unsound
    obtain ⟨refused, idle⟩ := run_document_misconfigured unnamed chosen unsound around
    obtain ⟨outcome, silent⟩ := run_work_refused refused idle
    exact ⟨silent, congrArg conclude outcome⟩
  case changed => exact files
  case untouched =>
    intro location apart
    rw [files]
    exact entry?_foldl fun path target => apart path (course.targets path target)
  case due => exact fun _ _ _ _ _ split => course.due split
  case kept =>
    intro request sent body path received answered kept
    obtain ⟨behind, split, outputs⟩ := course.kept received answered kept
    refine ⟨_, behind, split, outputs, fun saved apart => ?_⟩
    obtain ⟨tree, taken, changed⟩ := Surroundings.save_ok saved
    have written := (Files.Medium.writeText_ok_iff.mp taken).2
    rw [files, split, List.foldl_cons, List.foldl_cons]
    change (behind.foldl Effect.change (Effect.change around.files _)).readText path = _
    rw [← Surroundings.files_save, changed]
    exact readText_foldl written apart
  case printed => exact output_conclude
  case finished =>
    intro zero
    obtain ⟨paths, outcome⟩ := exitCode_conclude zero
    rw [outcome] at course ⊢
    obtain ⟨rfl, finished⟩ := course.finish
    exact ⟨rfl, finished⟩
  case failed =>
    intro effect inside failed zero
    obtain ⟨paths, outcome⟩ := exitCode_conclude zero
    rw [outcome] at course
    have sound := course.finish.2.sound effect inside
    rw [failed] at sound
    cases sound
  case fatal =>
    intro failure outcome
    rw [outcome]
    exact Nat.one_ne_zero

end Runs

-- A token from the environment, and an answer that is kept though nothing can be made of it.
def tokenVariable (name : String) : Option String :=
  if name == "GQLBIND_API_TOKEN" then some "secret" else none

def keeping : List String := ["--save-schema", "kept.json", "--out=made"]

def emptyAnswer : Surroundings := { server := fun _ _ => .whole 200 "{}".toUTF8 }

theorem run_orderly_keeping :
    ∃ options, Options.read keeping tokenVariable = .ok options ∧ options.token = some "secret" ∧
      options.targets = ["kept.json", "made/enums.rs", "made/inputs.rs", "made/scalars.rs"] ∧
      Orderly Endpoint.plainReader options emptyAnswer
        ((run Endpoint.plainReader keeping tokenVariable).effects emptyAnswer)
        ((run Endpoint.plainReader keeping tokenVariable).run emptyAnswer).1
        ((run Endpoint.plainReader keeping tokenVariable).run emptyAnswer).2 ∧
      ((run Endpoint.plainReader keeping tokenVariable).effects emptyAnswer).head?.map
        Effect.isExchange = some true := by
  have accepted : Options.read keeping tokenVariable =
      .ok { token := some "secret", out := "made", saveSchema := some "kept.json" } := by
    decide +kernel
  exact ⟨_, accepted, rfl, by decide +kernel,
    run_orderly Endpoint.plainReader accepted emptyAnswer, by decide +kernel⟩

end SchemaBindings.Command
