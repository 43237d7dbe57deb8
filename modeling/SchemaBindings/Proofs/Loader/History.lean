import Mathlib.Data.List.Induction
import SchemaBindings.Endpoint.Parse
import SchemaBindings.Proofs.Command.Supply

namespace SchemaBindings.Loader

inductive Call where
  | endpoint (text : String)
  | region (chosen : Region)
  | token (text : String)
  | withoutAuthentication
  | userAgent (text : String)
  | timeLimit (milliseconds : Nat)
  deriving DecidableEq

-- What a call is about. An endpoint and a region are two ways to say the same thing.
inductive Matter where
  | endpoint
  | token
  | authentication
  | userAgent
  | timeLimit
  deriving DecidableEq

namespace Call

def matter : Call → Matter
  | .endpoint _ => .endpoint
  | .region _ => .endpoint
  | .token _ => .token
  | .withoutAuthentication => .authentication
  | .userAgent _ => .userAgent
  | .timeLimit _ => .timeLimit

def endpoint? : Call → Option String
  | .endpoint text => some text
  | .region chosen => some chosen.endpoint
  | _ => none

def token? : Call → Option String
  | .token text => some text
  | _ => none

def userAgent? : Call → Option String
  | .userAgent text => some text
  | _ => none

def timeLimit? : Call → Option Nat
  | .timeLimit milliseconds => some milliseconds
  | _ => none

end Call

-- What the calls say in the end, if any of them says something.
def latest? (pick : Call → Option α) (calls : List Call) : Option α :=
  (calls.filterMap pick).getLast?

section Latest
variable {calls : List Call}

theorem latest?_concat (pick : Call → Option α) (calls : List Call) (call : Call) :
    latest? pick (calls ++ [call]) = (pick call).or (latest? pick calls) := by
  rw [latest?, List.filterMap_append, List.getLast?_append]
  cases said : pick call with
  | none => simp [said, latest?]
  | some value => simp [said]

theorem token_mem_of_latest? (last : latest? Call.token? calls = some text) :
    .token text ∈ calls := by
  obtain ⟨call, inside, said⟩ := List.mem_filterMap.mp (List.mem_of_getLast? last)
  cases call with
  | token _ =>
    cases said
    exact inside
  | _ => cases said

theorem latest?_token_eq_none :
    latest? Call.token? calls = none ↔ ∀ text, .token text ∉ calls := by
  rw [latest?, List.getLast?_eq_none_iff, List.filterMap_eq_nil_iff]
  constructor
  · intro silent text inside
    cases silent _ inside
  · intro missing call inside
    cases call with
    | token text => exact (missing text inside).elim
    | _ => rfl

theorem latest?_token_ne_none :
    latest? Call.token? calls ≠ none ↔ ∃ text, .token text ∈ calls := by
  rw [Ne, latest?_token_eq_none, not_forall_not]

end Latest

def lastEndpoint (calls : List Call) : String :=
  (latest? Call.endpoint? calls).getD Region.us.endpoint

def lastUserAgent (calls : List Call) : String :=
  (latest? Call.userAgent? calls).getD defaultUserAgent

namespace Settings

def take (settings : Settings) : Call → Settings
  | .endpoint text => settings.withEndpoint text
  | .region chosen => settings.withRegion chosen
  | .token text => settings.withToken text
  | .withoutAuthentication => settings.withoutAuthentication
  | .userAgent text => settings.withUserAgent text
  | .timeLimit milliseconds => settings.withTimeLimit milliseconds

-- Fresh settings after one call and the next.
def ofCalls (calls : List Call) : Settings := calls.foldl take {}

-- Settings as the calls tell them all at once.
def recalled (calls : List Call) : Settings where
  endpoint := lastEndpoint calls
  token := latest? Call.token? calls
  anonymous := decide (.withoutAuthentication ∈ calls)
  userAgent := lastUserAgent calls
  timeLimit := (latest? Call.timeLimit? calls).getD 30000

theorem recalled_concat (calls : List Call) (call : Call) :
    recalled (calls ++ [call]) = (recalled calls).take call := by
  cases call <;>
    simp [recalled, lastEndpoint, lastUserAgent, latest?_concat, take, Call.endpoint?,
      Call.token?, Call.userAgent?, Call.timeLimit?, withEndpoint, withRegion, withToken,
      withoutAuthentication, withUserAgent, withTimeLimit]

theorem ofCalls_eq_recalled (calls : List Call) : ofCalls calls = recalled calls := by
  induction calls using List.reverseRecOn with
  | nil => rfl
  | append_singleton calls call ih =>
    rw [recalled_concat, ← ih, ofCalls, List.foldl_append]
    rfl

section Order
variable {first second call : Call} {between : List Call}

theorem take_comm (settings : Settings) (apart : first.matter ≠ second.matter) :
    (settings.take first).take second = (settings.take second).take first := by
  cases first <;> cases second <;> first | rfl | exact (apart rfl).elim

theorem take_take (settings : Settings) (call : Call) :
    (settings.take call).take call = settings.take call := by
  cases call <;> rfl

-- A call can as well wait until calls about other matters are through.
theorem foldl_take_comm (settings : Settings)
    (apart : ∀ other ∈ between, other.matter ≠ call.matter) :
    between.foldl take (settings.take call) = (between.foldl take settings).take call := by
  induction between generalizing settings with
  | nil => rfl
  | cons other between ih =>
    obtain ⟨differs, apart⟩ := List.forall_mem_cons.mp apart
    rw [List.foldl_cons, take_comm settings differs.symm, ih _ apart, List.foldl_cons]

theorem ofCalls_append (calls more : List Call) :
    ofCalls (calls ++ more) = more.foldl take (ofCalls calls) :=
  List.foldl_append

theorem ofCalls_swap (before behind : List Call) (apart : first.matter ≠ second.matter) :
    ofCalls (before ++ second :: first :: behind) =
      ofCalls (before ++ first :: second :: behind) := by
  simp only [ofCalls_append, List.foldl_cons]
  rw [take_comm _ apart]

theorem ofCalls_repeat (before behind : List Call)
    (apart : ∀ other ∈ between, other.matter ≠ call.matter) :
    ofCalls (before ++ call :: between ++ call :: behind) =
      ofCalls (before ++ call :: between ++ behind) := by
  simp only [ofCalls_append, List.foldl_cons]
  rw [foldl_take_comm _ apart, take_take]

end Order

end Settings

-- What is wrong with the credentials that the calls leave, wherever among them the calls about
-- credentials stand.
inductive Uncredentialed (calls : List Call) : CredentialFault → Prop where
  | contradictory (declined : .withoutAuthentication ∈ calls) (given : .token text ∈ calls) :
      Uncredentialed calls .contradictory
  | unset (required : .withoutAuthentication ∉ calls) (missing : ∀ text, .token text ∉ calls) :
      Uncredentialed calls .unset
  | emptyToken (required : .withoutAuthentication ∉ calls)
      (last : latest? Call.token? calls = some "") : Uncredentialed calls .emptyToken

section Credentials
variable {calls : List Call}

theorem credentials_ofCalls :
    (Settings.ofCalls calls).credentials = .error fault ↔ Uncredentialed calls fault := by
  rw [Settings.ofCalls_eq_recalled, Settings.credentials, Settings.recalled]
  constructor
  · intro refused
    split at refused
    · rename_i declined given
      cases refused
      exact .contradictory (of_decide_eq_true declined) (token_mem_of_latest? given)
    · cases refused
    · rename_i required given
      split at refused
      · rename_i empty
        cases refused
        obtain rfl := String.isEmpty_iff.mp empty
        exact .emptyToken (of_decide_eq_false required) given
      · cases refused
    · rename_i required missing
      cases refused
      exact .unset (of_decide_eq_false required) (latest?_token_eq_none.mp missing)
  · intro wrong
    cases wrong with
    | contradictory declined given =>
      obtain ⟨last, said⟩ := Option.ne_none_iff_exists'.mp (latest?_token_ne_none.mpr ⟨_, given⟩)
      simp [declined, said]
    | unset required missing => simp [required, latest?_token_eq_none.mpr missing]
    | emptyToken required last => simp [required, last]

-- Both about the same, or a token that is empty in the end.
theorem exists_uncredentialed : (∃ fault, Uncredentialed calls fault) ↔
    (.withoutAuthentication ∈ calls ↔ ∃ text, .token text ∈ calls) ∨
      .withoutAuthentication ∉ calls ∧ latest? Call.token? calls = some "" := by
  constructor
  · rintro ⟨_, wrong⟩
    cases wrong with
    | contradictory declined given => exact .inl (iff_of_true declined ⟨_, given⟩)
    | unset required missing =>
      exact .inl (iff_of_false required fun ⟨text, given⟩ => missing text given)
    | emptyToken required last => exact .inr ⟨required, last⟩
  · rintro (alike | ⟨required, last⟩)
    · by_cases declined : .withoutAuthentication ∈ calls
      · obtain ⟨text, given⟩ := alike.mp declined
        exact ⟨_, .contradictory declined given⟩
      · exact ⟨_, .unset declined fun text given => declined (alike.mpr ⟨text, given⟩)⟩
    · exact ⟨_, .emptyToken required last⟩

end Credentials

-- What comes of the calls in the end: a loader, or what is wrong.
def build (addresses : Endpoint.Reader) (calls : List Call) (around : Surroundings) :
    Except Error Loader :=
  ((configure addresses (.ofCalls calls)).run around).1

theorem build_eq (addresses : Endpoint.Reader) (calls : List Call) (around : Surroundings) :
    build addresses calls around = check addresses (.ofCalls calls) :=
  (run_configure _ _ _).1

-- What an address is, is for `addresses` to say.
structure FollowsHistory (addresses : Endpoint.Reader) (calls : List Call)
    (built : Except Error Loader) : Prop where
  -- The settings.
  endpoint : (Settings.ofCalls calls).endpoint = lastEndpoint calls
  swapped : ∀ before first second behind, calls = before ++ first :: second :: behind →
    first.matter ≠ second.matter →
    Settings.ofCalls (before ++ second :: first :: behind) = Settings.ofCalls calls
  repeated : ∀ before call between behind, calls = before ++ call :: between ++ behind →
    (∀ other ∈ between, other.matter ≠ call.matter) →
    Settings.ofCalls (before ++ call :: between ++ call :: behind) = Settings.ofCalls calls
  -- What is wrong with them.
  uncredentialed : (∃ fault, built = .error (.credentials fault)) ↔
    (.withoutAuthentication ∈ calls ↔ ∃ text, .token text ∈ calls) ∨
      .withoutAuthentication ∉ calls ∧ latest? Call.token? calls = some ""
  blamed : ∀ fault, built = .error (.credentials fault) ↔ Uncredentialed calls fault
  unaddressed : (∃ fault, built = .error (.endpoint (lastEndpoint calls) fault)) ↔
    (∀ other, ¬Uncredentialed calls other) ∧
      ¬∃ endpoint, addresses (lastEndpoint calls) = .ok (some endpoint)
  misaddressed : ∀ text fault, built = .error (.endpoint text fault) ↔
    (∀ other, ¬Uncredentialed calls other) ∧ text = lastEndpoint calls ∧
      Misread addresses text fault
  -- The loader.
  made : ∀ loader, built = .ok loader ↔ (∀ other, ¬Uncredentialed calls other) ∧
    addresses (lastEndpoint calls) = .ok (some loader.endpoint) ∧
    Http.isHeaderText (lastUserAgent calls) = true ∧
    loader.token = latest? Call.token? calls ∧ loader.userAgent = lastUserAgent calls ∧
    loader.timeLimit = (latest? Call.timeLimit? calls).getD 30000
  authenticated : ∀ loader, built = .ok loader →
    (loader.isAuthenticated = true ↔ ∃ text, .token text ∈ calls)

-- Whatever reads the addresses.
theorem build_followsHistory (addresses : Endpoint.Reader) (calls : List Call)
    (around : Surroundings) : FollowsHistory addresses calls (build addresses calls around) := by
  have recalled := Settings.ofCalls_eq_recalled calls
  have accepted : (∀ other, (Settings.ofCalls calls).credentials ≠ .error other) ↔
      ∀ other, ¬Uncredentialed calls other :=
    forall_congr' fun _ => not_congr credentials_ofCalls
  have misaddressed : ∀ text fault,
      check addresses (.ofCalls calls) = .error (.endpoint text fault) ↔
        (∀ other, ¬Uncredentialed calls other) ∧ text = lastEndpoint calls ∧
          Misread addresses text fault := fun text fault => by
    rw [check_endpoint_iff, accepted, recalled]
    rfl
  rw [build_eq]
  constructor
  case endpoint => rw [recalled]; rfl
  case swapped =>
    rintro before first second behind rfl apart
    exact Settings.ofCalls_swap before behind apart
  case repeated =>
    rintro before call between behind rfl apart
    exact Settings.ofCalls_repeat before behind apart
  case uncredentialed =>
    simp only [check_credentials_iff, credentials_ofCalls]
    exact exists_uncredentialed
  case blamed => exact fun fault => check_credentials_iff.trans credentials_ofCalls
  case unaddressed =>
    simp only [misaddressed, true_and, exists_and_left, exists_misread]
  case misaddressed => exact misaddressed
  case made =>
    intro loader
    rw [check_ok_iff, accepted, recalled]
    rfl
  case authenticated =>
    intro loader done
    have sent : loader.token = latest? Call.token? calls := by
      rw [(check_ok_iff.mp done).2.2.2.1, recalled]
      rfl
    rw [isAuthenticated, sent, Option.isSome_iff_ne_none, latest?_token_ne_none]

-- An empty token is no fault as long as another one comes later.
def revived : List Call := [.token "", .region .eu, .token "key"]

theorem build_followsHistory_revived :
    (∃ loader, build Endpoint.plainReader revived {} = .ok loader ∧ loader.token = some "key" ∧
      loader.origin = "https://eu.api.mondoo.com" ∧ loader.isAuthenticated = true) ∧
    build Endpoint.plainReader (.withoutAuthentication :: revived) {} =
      .error (.credentials .contradictory) ∧
    build Endpoint.plainReader [.token "key", .region .eu, .token ""] {} =
      .error (.credentials .emptyToken) := by
  have credentialed : ∀ other, ¬Uncredentialed revived other := fun other wrong => by
    cases wrong with
    | contradictory declined _ => simp [revived] at declined
    | unset _ missing => exact missing "key" (by simp [revived])
    | emptyToken _ last => exact absurd last (by decide)
  have parsed : Endpoint.plainReader (lastEndpoint revived) =
      .ok (some ⟨"https", "", "", "eu.api.mondoo.com", none, "/query", none, none⟩) := by
    decide +kernel
  have history := build_followsHistory Endpoint.plainReader revived {}
  have made := (history.made ⟨_, some "key", defaultUserAgent, 30000⟩).mpr
    ⟨credentialed, parsed, by decide +kernel, rfl, rfl, rfl⟩
  have given : ∃ text, .token text ∈ revived := ⟨"key", by simp [revived]⟩
  refine ⟨⟨_, made, rfl, rfl, (history.authenticated _ made).mpr given⟩, ?_, ?_⟩
  · exact ((build_followsHistory _ _ {}).blamed _).mpr
      (.contradictory (List.mem_cons_self ..) (List.mem_cons_of_mem _ (List.mem_cons_self ..)))
  · exact ((build_followsHistory _ _ {}).blamed _).mpr (.emptyToken (by simp) rfl)

end SchemaBindings.Loader
