import SchemaBindings.Command.Run
import SchemaBindings.Proofs.Effects

namespace SchemaBindings

namespace Loader

variable {addresses : Endpoint.Reader} {settings : Settings}

theorem check_eq (addresses : Endpoint.Reader) (settings : Settings) : check addresses settings =
    match settings.credentials, addresses settings.endpoint with
    | .error fault, _ => .error (.credentials fault)
    | .ok _, .error fault => .error (.endpoint settings.endpoint fault)
    | .ok _, .ok none => .error (.endpoint settings.endpoint .missingHost)
    | .ok token, .ok (some endpoint) =>
      if Http.isHeaderText settings.userAgent then
        .ok ⟨endpoint, token, settings.userAgent, settings.timeLimit⟩
      else .error (.exchange .header) := by
  rw [check]
  cases settings.credentials with
  | error fault => rfl
  | ok token =>
    rcases addresses settings.endpoint with fault | _ | endpoint
    · rfl
    · rfl
    · cases Http.isHeaderText settings.userAgent <;> rfl

-- Credentials that are accepted are those of the settings.
theorem token_of_credentials {token : Option String}
    (accepted : settings.credentials = .ok token) : token = settings.token := by
  rw [Settings.credentials] at accepted
  split at accepted
  · cases accepted
  · rename_i missing
    cases accepted
    exact missing.symm
  · rename_i given
    split at accepted
    · cases accepted
    · cases accepted
      exact given.symm
  · cases accepted

theorem check_credentials_iff :
    check addresses settings = .error (.credentials fault) ↔
      settings.credentials = .error fault := by
  rw [check_eq]
  cases settings.credentials with
  | error other => simp
  | ok token =>
    rcases addresses settings.endpoint with other | _ | endpoint
    · simp
    · simp
    · cases Http.isHeaderText settings.userAgent <;> simp

-- What reads the addresses finds nothing in the text, or something without a host.
def Misread (addresses : Endpoint.Reader) (text : String) (fault : Endpoint.Fault) : Prop :=
  addresses text = .error fault ∨ addresses text = .ok none ∧ fault = .missingHost

theorem exists_misread : (∃ fault, Misread addresses text fault) ↔
    ¬∃ endpoint, addresses text = .ok (some endpoint) := by
  rcases read : addresses text with fault | _ | endpoint <;> simp [Misread, read]

theorem check_endpoint_iff : check addresses settings = .error (.endpoint text fault) ↔
    (∀ other, settings.credentials ≠ .error other) ∧ text = settings.endpoint ∧
      Misread addresses text fault := by
  rw [check_eq, Misread]
  cases settings.credentials with
  | error other => simp
  | ok token =>
    rcases read : addresses settings.endpoint with other | _ | endpoint
    · constructor
      · rintro ⟨⟩
        exact ⟨nofun, rfl, .inl read⟩
      · rintro ⟨_, rfl, refused | ⟨hostless, _⟩⟩
        · rw [read] at refused
          cases refused
          rfl
        · rw [read] at hostless
          cases hostless
    · constructor
      · rintro ⟨⟩
        exact ⟨nofun, rfl, .inr ⟨read, rfl⟩⟩
      · rintro ⟨_, rfl, refused | ⟨_, rfl⟩⟩
        · rw [read] at refused
          cases refused
        · rfl
    · refine iff_of_false ?_ ?_
      · cases Http.isHeaderText settings.userAgent <;> simp
      · rintro ⟨_, rfl, refused | ⟨hostless, _⟩⟩
        · rw [read] at refused
          cases refused
        · rw [read] at hostless
          cases hostless

theorem check_ok_iff {loader : Loader} : check addresses settings = .ok loader ↔
    (∀ other, settings.credentials ≠ .error other) ∧
      addresses settings.endpoint = .ok (some loader.endpoint) ∧
      Http.isHeaderText settings.userAgent = true ∧ loader.token = settings.token ∧
      loader.userAgent = settings.userAgent ∧ loader.timeLimit = settings.timeLimit := by
  rw [check_eq]
  cases accepted : settings.credentials with
  | error other => simp
  | ok token =>
    rcases addresses settings.endpoint with fault | _ | endpoint
    · simp
    · simp
    · rw [← token_of_credentials accepted]
      cases Http.isHeaderText settings.userAgent <;> cases loader <;> simp [eq_comm]

end Loader

-- A step that did not bring what it was taken for.
def Effect.failed : Effect → Bool
  | .read _ (.ok _) => false
  | .write _ _ (.ok _) => false
  | .exchange _ ⟨_, _, .whole 200 _⟩ => false
  | _ => true

namespace Loader

theorem contradictory_credentials {settings : Settings}
    (refused : settings.credentials = .error .contradictory) :
    settings.anonymous = true ∧ settings.token ≠ none := by
  rw [Settings.credentials] at refused
  split at refused
  · rename_i anonymous token
    rw [token]
    exact ⟨anonymous, Option.some_ne_none _⟩
  · cases refused
  · split at refused <;> cases refused
  · cases refused

-- Nothing but a whole answer with the plain code of success is a document.
theorem judge_ok {outcome : Http.Outcome} (judged : judge outcome = .ok text) :
    ∃ body, outcome.reply = .whole 200 body ∧ text = Text.Utf8.decode body := by
  rw [judge] at judged
  cases answered : outcome.reply with
  | whole status body =>
    rw [answered] at judged
    dsimp only at judged
    split at judged
    · rename_i plain
      obtain rfl := eq_of_beq plain
      cases judged
      exact ⟨body, rfl, rfl⟩
    · cases judged
  | _ =>
    rw [answered] at judged
    cases judged

theorem judge_whole {outcome : Http.Outcome} (answered : outcome.reply = .whole 200 body) :
    judge outcome = .ok (Text.Utf8.decode body) := by
  rw [judge, answered]
  rfl

theorem run_configure (addresses : Endpoint.Reader) (settings : Settings)
    (around : Surroundings) :
    ((configure addresses settings).run around).1 = check addresses settings ∧
    (configure addresses settings).effects around = [] := by
  rw [configure]
  cases check addresses settings with
  | error cause => exact ⟨rfl, rfl⟩
  | ok loader => exact ⟨rfl, rfl⟩

theorem run_fetch_obstructed {loader : Loader} (obstacle : loader.obstacle? = some trouble)
    (around : Surroundings) :
    (loader.fetch.run around).1 = .error (.exchange trouble) ∧ loader.fetch.effects around = [] := by
  rw [fetch, obstacle]
  exact ⟨rfl, rfl⟩

-- One sending, whatever comes of it.
theorem run_fetch {loader : Loader} (clear : loader.obstacle? = none) (around : Surroundings) :
    (loader.fetch.run around).1 = judge (around.send loader.request).outcome ∧
    loader.fetch.effects around =
      [.exchange loader.request (around.send loader.request)] := by
  rw [fetch, clear]
  simp only [Program.run_then, Program.effects_then, Program.effects_logAll]
  exact ⟨rfl, rfl⟩

end Loader

namespace Command

-- The ways, told by what the options, the files and the server say.
inductive Supply (addresses : Endpoint.Reader) (options : Options) (around : Surroundings) :
    List Effect → Except Failure String → Prop where
  | read (named : options.schema = some path) (read : around.load path = .ok text) :
      Supply addresses options around [.read path (.ok text)] (.ok text)
  | unreadable (named : options.schema = some path) (refused : around.load path = .error cause) :
      Supply addresses options around [.read path (.error cause)] (.error (.reading path cause))
  | noCredentials (unnamed : options.schema = none) (noToken : options.token = none)
      (noChoice : options.noAuth = false) :
      Supply addresses options around [] (.error .noCredentials)
  | misconfigured (unnamed : options.schema = none)
      (refused : Loader.check addresses options.loaderSettings = .error cause) :
      Supply addresses options around [] (.error (.configuration cause))
  | obstructed (unnamed : options.schema = none)
      (checked : Loader.check addresses options.loaderSettings = .ok loader)
      (obstacle : loader.obstacle? = some trouble) :
      Supply addresses options around []
        (.error (.fetching loader.endpoint.text (.exchange trouble)))
  | refused (unnamed : options.schema = none)
      (checked : Loader.check addresses options.loaderSettings = .ok loader)
      (judged : Loader.judge (around.send loader.request).outcome = .error cause) :
      Supply addresses options around [.exchange loader.request (around.send loader.request)]
        (.error (.fetching loader.endpoint.text cause))
  | fetched (unnamed : options.schema = none)
      (checked : Loader.check addresses options.loaderSettings = .ok loader)
      (answered : (around.send loader.request).outcome.reply = .whole 200 body)
      (unkept : options.saveSchema = none) :
      Supply addresses options around [.exchange loader.request (around.send loader.request)]
        (.ok (Text.Utf8.decode body))
  | saved (unnamed : options.schema = none)
      (checked : Loader.check addresses options.loaderSettings = .ok loader)
      (answered : (around.send loader.request).outcome.reply = .whole 200 body)
      (kept : options.saveSchema = some path)
      (written : around.medium.writeText around.files path (Text.Utf8.decode body) = .ok tree) :
      Supply addresses options around
        [.exchange loader.request (around.send loader.request),
          .write path (Text.Utf8.decode body) (.ok ())]
        (.ok (Text.Utf8.decode body))
  | unsaved (unnamed : options.schema = none)
      (checked : Loader.check addresses options.loaderSettings = .ok loader)
      (answered : (around.send loader.request).outcome.reply = .whole 200 body)
      (kept : options.saveSchema = some path)
      (refused : around.medium.writeText around.files path (Text.Utf8.decode body) =
        .error cause) :
      Supply addresses options around
        [.exchange loader.request (around.send loader.request),
          .write path (Text.Utf8.decode body) (.error cause)]
        (.error (.saving path cause))

section Documents
variable {addresses : Endpoint.Reader} {options : Options}

theorem run_save (path text : String) (around : Surroundings) :
    ((save path text).run around).1 = (around.save path text).1.mapError (.saving path) ∧
    (save path text).effects around = [.write path text (around.save path text).1] := by
  rw [save]
  simp only [Program.run_then, Program.effects_then, Program.write, Program.run, Program.effects]
  cases (around.save path text).1 <;> exact ⟨rfl, rfl⟩

theorem readSaved_supply (named : options.schema = some path) (around : Surroundings) :
    Supply addresses options around ((readSaved path).effects around)
      ((readSaved path).run around).1 := by
  rw [readSaved]
  simp only [Program.run_then, Program.effects_then, Program.log, Program.read, Program.run,
    Program.effects]
  change Supply addresses options around [.read path (around.load path)]
    ((around.load path).mapError _)
  cases found : around.load path with
  | error cause => exact .unreadable named found
  | ok text => exact .read named found

-- What is known of the surroundings is known before anything is sent, since nothing is written
-- then.
theorem fetchDocument_supply (unnamed : options.schema = none) (around : Surroundings) :
    Supply addresses options around ((fetchDocument addresses options).effects around)
      ((fetchDocument addresses options).run around).1 := by
  obtain ⟨configured, idle⟩ := Loader.run_configure addresses options.loaderSettings around
  have alike := Program.alike_of_silent idle
  rw [fetchDocument]
  simp only [Program.run_then, Program.effects_then, configured, idle, List.nil_append]
  cases checked : Loader.check addresses options.loaderSettings with
  | error cause => exact .misconfigured unnamed checked
  | ok loader =>
    generalize ((Loader.configure addresses options.loaderSettings).run around).2 = ready
      at alike ⊢
    cases obstacle : loader.obstacle? with
    | some trouble =>
      obtain ⟨fetched, silent⟩ := Loader.run_fetch_obstructed obstacle ready
      simp only [Program.run_then, Program.effects_then, fetched, silent]
      exact .obstructed unnamed checked obstacle
    | none =>
      obtain ⟨fetched, asked⟩ := Loader.run_fetch obstacle ready
      rw [alike.send_eq] at fetched asked
      have same := Program.sameWorld_run loader.fetch ready
      have medium := same.medium.trans alike.medium
      have untouched : (loader.fetch.run ready).2.files = around.files := by
        rw [Program.files_run, asked, ← alike.files]
        rfl
      simp only [Program.run_then, Program.effects_then, fetched, asked]
      cases judged : Loader.judge (around.send loader.request).outcome with
      | error cause => exact .refused unnamed checked judged
      | ok text =>
        obtain ⟨body, answered, rfl⟩ := Loader.judge_ok judged
        cases kept : options.saveSchema with
        | none => exact .fetched unnamed checked answered kept
        | some path =>
          obtain ⟨value, steps⟩ := run_save path (Text.Utf8.decode body) (loader.fetch.run ready).2
          simp only [Program.run_then, Program.effects_then, value, steps, Surroundings.save,
            medium, untouched]
          cases written : around.medium.writeText around.files path (Text.Utf8.decode body) with
          | error cause => exact .unsaved unnamed checked answered kept written
          | ok tree => exact .saved unnamed checked answered kept written

-- With good settings the server is asked.
theorem asked_fetchDocument (checked : Loader.check addresses options.loaderSettings = .ok loader)
    (clear : loader.obstacle? = none) (around : Surroundings) :
    .exchange loader.request (around.send loader.request) ∈
      (fetchDocument addresses options).effects around := by
  obtain ⟨configured, idle⟩ := Loader.run_configure addresses options.loaderSettings around
  rw [fetchDocument, Program.effects_then, configured, checked]
  refine List.mem_append_right _ ?_
  dsimp only
  rw [Program.effects_then, (Loader.run_fetch clear _).2, (Program.alike_of_silent idle).send_eq]
  exact List.mem_append_left _ (List.mem_singleton_self _)

theorem document_supply (addresses : Endpoint.Reader) (options : Options)
    (around : Surroundings) :
    Supply addresses options around ((document addresses options).effects around)
      ((document addresses options).run around).1 := by
  rw [document]
  cases named : options.schema with
  | some path => exact readSaved_supply named around
  | none =>
    dsimp only
    split
    · rename_i uncredentialed
      rw [Bool.and_eq_true, Option.isNone_iff_eq_none, Bool.not_eq_true'] at uncredentialed
      exact .noCredentials named uncredentialed.1 uncredentialed.2
    · exact fetchDocument_supply named around

end Documents

section Refusals
variable {addresses : Endpoint.Reader} {options : Options}

-- A token is not even looked at beside the choice to go without one.
theorem loaderSettings_token (options : Options) :
    options.loaderSettings.anonymous = true → options.loaderSettings.token = none := by
  rw [Options.loaderSettings]
  cases options.noAuth with
  | true => cases options.endpoint <;> exact fun _ => rfl
  | false => cases options.token <;> cases options.endpoint <;> exact nofun

theorem loaderSettings_token_of_shown (shown : options.noAuth = false) :
    options.loaderSettings.token = options.token := by
  rcases options with ⟨named, noAuth, endpoint, _⟩
  subst shown
  cases named <;> cases endpoint <;> rfl

theorem check_not_contradictory (addresses : Endpoint.Reader) (options : Options) :
    Loader.check addresses options.loaderSettings ≠ .error (.credentials .contradictory) := by
  intro refused
  obtain ⟨anonymous, token⟩ :=
    Loader.contradictory_credentials (Loader.check_credentials_iff.mp refused)
  exact token (loaderSettings_token options anonymous)

theorem run_document_uncredentialed (unnamed : options.schema = none)
    (noToken : options.token = none) (noChoice : options.noAuth = false) (around : Surroundings) :
    ((document addresses options).run around).1 = .error .noCredentials ∧
    (document addresses options).effects around = [] := by
  rw [document, unnamed, noToken, noChoice]
  exact ⟨rfl, rfl⟩

theorem run_document_misconfigured (unnamed : options.schema = none)
    (chosen : options.token = none → options.noAuth = true)
    (refused : Loader.check addresses options.loaderSettings = .error cause) (around : Surroundings) :
    ((document addresses options).run around).1 = .error (.configuration cause) ∧
    (document addresses options).effects around = [] := by
  have credentialed : ¬(options.token.isNone && !options.noAuth) = true := by
    rw [Bool.and_eq_true, Option.isNone_iff_eq_none, Bool.not_eq_true']
    rintro ⟨noToken, noChoice⟩
    rw [chosen noToken] at noChoice
    cases noChoice
  obtain ⟨configured, idle⟩ := Loader.run_configure addresses options.loaderSettings around
  rw [document, unnamed]
  dsimp only
  rw [if_neg credentialed, fetchDocument]
  simp only [Program.run_then, Program.effects_then, configured, idle, refused]
  exact ⟨rfl, rfl⟩

end Refusals

section Steps
variable {addresses : Endpoint.Reader} {options : Options} {around : Surroundings} {steps : List Effect}
  {supplied : Except Failure String}

-- There are two steps at most, and the second one keeps what the first one brought.
theorem Supply.shape (supply : Supply addresses options around steps supplied) :
    steps = [] ∨
    (∃ path answer, options.schema = some path ∧ steps = [.read path answer]) ∨
    (∃ loader, options.schema = none ∧
      Loader.check addresses options.loaderSettings = .ok loader ∧
      steps = [.exchange loader.request (around.send loader.request)] ∧
      (options.saveSchema = none ∨
        ∀ body, (around.send loader.request).outcome.reply ≠ .whole 200 body)) ∨
    ∃ loader body path answer, options.schema = none ∧ options.saveSchema = some path ∧
      Loader.check addresses options.loaderSettings = .ok loader ∧
      (around.send loader.request).outcome.reply = .whole 200 body ∧
      (around.save path (Text.Utf8.decode body)).1 = answer ∧
      steps = [.exchange loader.request (around.send loader.request),
        .write path (Text.Utf8.decode body) answer] := by
  cases supply with
  | read named _ => exact .inr (.inl ⟨_, _, named, rfl⟩)
  | unreadable named _ => exact .inr (.inl ⟨_, _, named, rfl⟩)
  | noCredentials _ _ _ => exact .inl rfl
  | misconfigured _ _ => exact .inl rfl
  | obstructed _ _ _ => exact .inl rfl
  | refused unnamed checked judged =>
    refine .inr (.inr (.inl ⟨_, unnamed, checked, rfl, .inr fun body whole => ?_⟩))
    rw [Loader.judge_whole whole] at judged
    cases judged
  | fetched unnamed checked _ unkept =>
    exact .inr (.inr (.inl ⟨_, unnamed, checked, rfl, .inl unkept⟩))
  | saved unnamed checked answered kept written =>
    refine .inr (.inr (.inr ⟨_, _, _, _, unnamed, kept, checked, answered, ?_, rfl⟩))
    rw [Surroundings.save, written]
  | unsaved unnamed checked answered kept refused =>
    refine .inr (.inr (.inr ⟨_, _, _, _, unnamed, kept, checked, answered, ?_, rfl⟩))
    rw [Surroundings.save, refused]

theorem Supply.once (supply : Supply addresses options around steps supplied) :
    (steps.filter Effect.isExchange).length ≤ 1 := by
  rcases supply.shape with
    rfl | ⟨_, _, _, rfl⟩ | ⟨_, _, _, rfl, _⟩ | ⟨_, _, _, _, _, _, _, _, _, rfl⟩
  · exact Nat.zero_le 1
  · exact Nat.zero_le 1
  · exact Nat.le_refl 1
  · exact Nat.le_refl 1

theorem Supply.received (supply : Supply addresses options around steps supplied) :
    steps.flatMap Effect.received = [] ∨
    ∃ loader, Loader.check addresses options.loaderSettings = .ok loader ∧
      steps.flatMap Effect.received = (around.send loader.request).requests := by
  rcases supply.shape with
    rfl | ⟨_, _, _, rfl⟩ | ⟨loader, _, checked, rfl, _⟩ |
      ⟨loader, _, _, _, _, _, checked, _, _, rfl⟩
  · exact .inl rfl
  · exact .inl rfl
  · exact .inr ⟨loader, checked, List.append_nil _⟩
  · exact .inr ⟨loader, checked, List.append_nil _⟩

theorem Supply.offline (supply : Supply addresses options around steps supplied)
    (named : options.schema.isSome = true) : ∀ effect ∈ steps, effect.isExchange = false := by
  rcases supply.shape with rfl | ⟨_, _, _, rfl⟩ | ⟨_, unnamed, _⟩ | ⟨_, _, _, _, unnamed, _⟩
  · exact nofun
  · exact List.forall_mem_singleton.mpr rfl
  · simp [unnamed] at named
  · simp [unnamed] at named

theorem Supply.target (supply : Supply addresses options around steps supplied) {path : String}
    (target : path ∈ steps.filterMap Effect.target?) : options.saveSchema = some path := by
  rcases supply.shape with
    rfl | ⟨_, _, _, rfl⟩ | ⟨_, _, _, rfl, _⟩ | ⟨_, _, place, _, _, kept, _, _, _, rfl⟩
  · cases target
  · cases target
  · cases target
  · obtain rfl : path = place := List.mem_singleton.mp target
    exact kept

theorem failed_exchange (answered : sent.outcome.reply = .whole 200 body) :
    Effect.failed (.exchange request sent) = false := by
  obtain ⟨requests, address, reply⟩ := sent
  cases answered
  rfl

theorem Supply.sound (supply : Supply addresses options around steps (.ok text)) :
    ∀ effect ∈ steps, effect.failed = false := by
  cases supply with
  | read _ _ => exact List.forall_mem_singleton.mpr rfl
  | fetched _ _ answered _ => exact List.forall_mem_singleton.mpr (failed_exchange answered)
  | saved _ _ answered _ _ =>
    exact List.forall_mem_cons.mpr
      ⟨failed_exchange answered, List.forall_mem_singleton.mpr rfl⟩

theorem Supply.kept {sent : Http.Sent}
    (supply : Supply addresses options around steps supplied)
    (received : .exchange request sent ∈ steps) (answered : sent.outcome.reply = .whole 200 body)
    (kept : options.saveSchema = some path) :
    steps = [.exchange request sent, .write path (Text.Utf8.decode body)
      (around.save path (Text.Utf8.decode body)).1] := by
  rcases supply.shape with
    rfl | ⟨_, _, _, rfl⟩ | ⟨_, _, _, rfl, unkept | other⟩ |
      ⟨_, _, _, _, _, same, _, whole, rfl, rfl⟩
  · cases received
  · simp at received
  · rw [unkept] at kept
    cases kept
  · cases List.mem_singleton.mp received
    exact (other body answered).elim
  · rw [same] at kept
    cases kept
    rcases List.mem_cons.mp received with here | there
    · cases here
      rw [whole] at answered
      cases answered
      rfl
    · cases List.mem_singleton.mp there

end Steps
end Command

end SchemaBindings
