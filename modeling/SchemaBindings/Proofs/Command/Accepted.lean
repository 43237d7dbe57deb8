import SchemaBindings.Command.Options
import SchemaBindings.Proofs.Fallible

namespace SchemaBindings.Command

section Walk
variable {P : Reading → Prop} (enters : ∀ reading flag value, P reading →
    Ensures P (reading.enter flag value))
include enters

theorem settle_ensures (good : P reading) (pending : Pending) :
    Ensures P (settle reading pending) := by
  rcases pending with _ | ⟨flag, _ | value⟩
  · exact .ok good
  · exact .error
  · exact enters reading flag value good

variable (switches : ∀ reading flag, P reading → Ensures P (reading.switchOn flag))
include switches

theorem readLetters_ensures (good : P reading) (pending : Pending) (letters : List Char) :
    Ensures (fun now => P now.1) (readLetters reading pending letters) := by
  induction letters generalizing reading pending with
  | nil => exact .ok good
  | cons letter rest ih =>
    rw [readLetters]
    cases Flag.ofLetter? letter with
    | none => exact .error
    | some flag =>
      exact (settle_ensures enters good pending).bind fun settled kept =>
        (switches settled flag kept).bind fun _ switched => ih switched none

theorem readLong_ensures (good : P reading) (pending : Pending) (text : List Char) :
    Ensures (fun now => P now.1) (readLong reading pending text) := by
  have settled := settle_ensures enters good pending
  rw [readLong]
  rcases text.span (· != '=') with ⟨name, value⟩
  dsimp only
  cases Flag.ofName? (String.ofList name) with
  | none => exact .error
  | some flag =>
    dsimp only
    split
    · exact settled.bind fun _ kept => .ok kept
    · exact settled.bind fun now kept => (enters now _ _ kept).bind fun _ entered => .ok entered
    · exact settled.bind fun now kept => (switches now _ kept).bind fun _ switched => .ok switched
    · exact .error

-- What single flags keep is kept by all the arguments. Induction on the arguments, with whatever is
-- pending from the ones before.
theorem readArguments_ensures (good : P reading) (pending : Pending) (arguments : List String) :
    Ensures P (readArguments reading pending arguments) := by
  induction arguments generalizing reading pending with
  | nil => exact settle_ensures enters good pending
  | cons argument rest ih =>
    rw [readArguments.eq_def]
    dsimp only
    split
    · cases rest with
      | nil => exact settle_ensures enters good pending
      | cons => exact .error
    · exact (readLong_ensures enters switches good pending _).bind fun now kept => ih kept now.2
    · exact (readLetters_ensures enters switches good pending _).bind fun now kept => ih kept now.2
    · cases isAwaited pending with
      | none => exact .error
      | some flag => exact ih good _

end Walk

-- Whether the options show that a flag was met. Only flags that exclude others are asked about.
def Options.shows (options : Options) : Flag → Bool
  | .token => options.token.isSome
  | .noAuth => options.noAuth
  | .schema => options.schema.isSome
  | .saveSchema => options.saveSchema.isSome
  | _ => false

def Reading.Explained (reading : Reading) : Prop :=
  ∀ flag, reading.options.shows flag = true → flag ∈ reading.given

section Reading
variable {reading : Reading}

theorem shows_withValue (options : Options) (value : String) (flag other : Flag)
    (shown : (options.withValue value flag).shows other = true) :
    other = flag ∨ options.shows other = true := by
  cases flag <;> cases other <;> first | exact .inl rfl | exact .inr shown

theorem shows_noAuth (options : Options) (other : Flag)
    (shown : { options with noAuth := true }.shows other = true) :
    other = .noAuth ∨ options.shows other = true := by
  cases other <;> first | exact .inl rfl | exact .inr shown

theorem Reading.Explained.mark (explained : reading.Explained) {flag : Flag} {options : Options}
    (shown : ∀ other, options.shows other = true →
      other = flag ∨ reading.options.shows other = true) :
    Reading.Explained { reading.mark flag with options } := by
  intro other now
  rcases shown other now with rfl | before
  · exact List.mem_append_right _ (List.mem_singleton_self _)
  · exact List.mem_append_left _ (explained other before)

theorem enter_explained (explained : reading.Explained) (flag : Flag) (value : String) :
    Ensures Reading.Explained (reading.enter flag value) := by
  rw [Reading.enter]
  split
  · exact .error
  · cases checkValue flag value with
    | error _ => exact .error
    | ok _ => exact .ok (explained.mark (shows_withValue reading.options value flag))

theorem switchOn_explained (explained : reading.Explained) (flag : Flag) :
    Ensures Reading.Explained (reading.switchOn flag) := by
  cases flag with
  | help => exact .error
  | version => exact .error
  | noAuth =>
    rw [Reading.switchOn]
    split
    · exact .error
    · exact .ok (explained.mark (shows_noAuth reading.options))
  | verbose => exact .ok fun other shown => explained other (by cases other <;> exact shown)
  | token => exact .ok explained
  | endpoint => exact .ok explained
  | region => exact .ok explained
  | schema => exact .ok explained
  | out => exact .ok explained
  | saveSchema => exact .ok explained

theorem readVariable_explained (environment : String → Option String)
    (explained : reading.Explained) (flag : Flag) :
    Ensures Reading.Explained (readVariable environment reading flag) := by
  rw [readVariable]
  split
  · exact .ok explained
  · cases flag.environmentName?.bind environment with
    | none => exact .ok explained
    | some value => exact enter_explained explained flag value

end Reading

section Conflicts
variable {options : Options}

-- No flag shows beside one that it excludes.
def Options.Consistent (options : Options) : Prop :=
  ∀ one other : Flag, one.excludes other = true →
    ¬(options.shows one = true ∧ options.shows other = true)

theorem apart_of_no_conflict (none : conflict? given = none) (met : one ∈ given)
    (excludes : one.excludes other = true) : other ∉ given := by
  intro beside
  rw [conflict?, Option.map_eq_none_iff, List.find?_eq_none] at none
  refine none one met (List.any_eq_true.mpr ⟨other, beside, ?_⟩)
  rw [Flag.conflictsWith, excludes, Bool.true_or]

theorem read_consistent (accepted : Options.read arguments environment = .ok options) :
    options.Consistent := by
  have ensures : Ensures Options.Consistent (Options.read arguments environment) := by
    have empty : Reading.Explained {} := nofun
    have read := readArguments_ensures (fun _ flag value good => enter_explained good flag value)
      (fun _ flag good => switchOn_explained good flag) empty none arguments
    refine read.bind fun reading start => ?_
    refine (Ensures.foldlM (fun _ flag good => readVariable_explained environment good flag) Flag.all
      start).bind fun complete explained => ?_
    cases conflict : conflict? complete.given with
    | some usage => exact .error
    | none =>
      exact .ok fun one other excludes ⟨first, second⟩ =>
        apart_of_no_conflict conflict (explained one first) excludes (explained other second)
  exact ensures options accepted

theorem Options.Consistent.token_none (consistent : options.Consistent)
    (anonymous : options.noAuth = true) : options.token = none := by
  cases token : options.token with
  | none => rfl
  | some _ => exact (consistent .noAuth .token rfl ⟨anonymous, by simp [shows, token]⟩).elim

theorem Options.Consistent.saveSchema_none (consistent : options.Consistent)
    (named : options.schema.isSome = true) : options.saveSchema = none := by
  cases save : options.saveSchema with
  | none => rfl
  | some _ => exact (consistent .schema .saveSchema rfl ⟨named, by simp [shows, save]⟩).elim

theorem Options.Consistent.noAuth_false (consistent : options.Consistent)
    (named : options.schema.isSome = true) : options.noAuth = false := by
  cases anonymous : options.noAuth with
  | false => rfl
  | true => exact (consistent .schema .noAuth rfl ⟨named, anonymous⟩).elim

end Conflicts
end SchemaBindings.Command
