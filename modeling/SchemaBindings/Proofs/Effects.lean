import SchemaBindings.Program
import SchemaBindings.Proofs.Files.Writing

namespace SchemaBindings

namespace Http.Client

section Pursuits
variable {client : Client} {server : List Request → Request → Reply} {earlier : List Request}
  {request next : Request}

theorem pursue_stay (stays : client.onward request (server earlier request) = .stay)
    (left : Nat) :
    client.pursue server left earlier request = settled request (server earlier request) := by
  rw [pursue.eq_def, stays]

theorem pursue_stop
    (stops : client.onward request (server earlier request) = .stop message causes) (left : Nat) :
    client.pursue server left earlier request =
      settled request (.lost true message causes) := by
  rw [pursue.eq_def, stops]

theorem pursue_next (led : client.onward request (server earlier request) = .next next)
    (left : Nat) :
    client.pursue server (left + 1) earlier request =
      ⟨request :: (client.pursue server left (earlier ++ [request]) next).requests,
        (client.pursue server left (earlier ++ [request]) next).outcome⟩ := by
  rw [pursue.eq_def, led]

theorem pursue_tired (led : client.onward request (server earlier request) = .next next) :
    client.pursue server 0 earlier request = settled request (tooManyRedirects request) := by
  rw [pursue.eq_def, led]

theorem requests_settled (request : Request) (reply : Reply) :
    (settled request reply).requests = [] ∨ (settled request reply).requests = [request] := by
  rw [settled]
  cases reply.isUnreachable with
  | true => exact .inl rfl
  | false => exact .inr rfl

-- Nothing is received, or the request is and perhaps others that it was followed by.
theorem requests_pursue (client : Client) (server : List Request → Request → Reply) (left : Nat)
    (earlier : List Request) (request : Request) :
    (client.pursue server left earlier request).requests = [] ∨
    (client.pursue server left earlier request).requests = [request] ∨
    ∃ code location next fewer, left = fewer + 1 ∧
      client.follow request code location = .next next ∧
      (client.pursue server left earlier request).requests =
        request :: (client.pursue server fewer (earlier ++ [request]) next).requests := by
  have alone (reply : Reply) (same : client.pursue server left earlier request =
      settled request reply) :
      (client.pursue server left earlier request).requests = [] ∨
        (client.pursue server left earlier request).requests = [request] := by
    rw [same]
    exact requests_settled request reply
  cases onward : client.onward request (server earlier request) with
  | stay => exact (alone _ (pursue_stay onward left)).imp_right .inl
  | stop message causes => exact (alone _ (pursue_stop onward left)).imp_right .inl
  | next next =>
    cases left with
    | zero => exact (alone _ (pursue_tired onward)).imp_right .inl
    | succ fewer =>
      cases answered : server earlier request with
      | moved code location _ =>
        have followed := onward
        rw [answered] at followed
        refine .inr (.inr ⟨code, location, next, fewer, rfl, followed, ?_⟩)
        rw [pursue_next onward]
      | _ =>
        rw [answered] at onward
        cases onward

-- Without redirects there is one request at most.
theorem length_pursue (direct : (server earlier request).isMoved = false) (left : Nat) :
    (client.pursue server left earlier request).requests.length ≤ 1 := by
  have stays : client.onward request (server earlier request) = .stay := by
    cases answered : server earlier request with
    | moved _ _ _ =>
      rw [answered] at direct
      cases direct
    | _ => rfl
  rw [pursue_stay stays]
  rcases requests_settled request (server earlier request) with none | one
  · rw [none]
    exact Nat.zero_le 1
  · rw [one]
    exact Nat.le_refl 1

end Pursuits
end Http.Client

inductive Effect where
  | read (path : String) (answer : Except Files.Fault String)
  | write (path content : String) (answer : Except Files.Fault Unit)
  | exchange (request : Http.Request) (sent : Http.Sent)

namespace Effect

def isExchange : Effect → Bool
  | .exchange _ _ => true
  | _ => false

-- The requests that reached someone.
def received : Effect → List Http.Request
  | .exchange _ sent => sent.requests
  | _ => []

def target? : Effect → Option String
  | .write path _ _ => some path
  | _ => none

-- Only a write that succeeds changes the files.
def change (tree : Files.Tree) : Effect → Files.Tree
  | .write path content (.ok ()) => (tree.writeText path content).toOption.getD tree
  | _ => tree

end Effect

namespace Program

-- Reports are no effects: they are not seen by the files or by a server.
def effects : Program α → Surroundings → List Effect
  | .done _, _ => []
  | .readText path next, around =>
    .read path (around.load path) :: (next (around.load path)).effects around
  | .writeText path content next, around =>
    .write path content (around.save path content).1 ::
      (next (around.save path content).1).effects (around.save path content).2
  | .exchange request next, around =>
    .exchange request (around.send request) ::
      (next (around.answer request).1).effects (around.answer request).2
  | .report event next, around => next.effects { around with events := around.events ++ [event] }

theorem run_pure (value : α) (around : Surroundings) :
    (pure value : Program α).run around = (value, around) := rfl

theorem effects_pure (value : α) (around : Surroundings) :
    (pure value : Program α).effects around = [] := rfl

-- The way in which steps are put in a row is that of the notation.
theorem run_then (program : Program α) (f : α → Program β) (around : Surroundings) :
    (program >>= f).run around = (f (program.run around).1).run (program.run around).2 :=
  run_bind program f around

theorem effects_then (program : Program α) (f : α → Program β) (around : Surroundings) :
    (program >>= f).effects around =
      program.effects around ++ (f (program.run around).1).effects (program.run around).2 := by
  change (program.bind f).effects around = _
  induction program generalizing around with
  | done value => rfl
  | readText path next ih => exact congrArg (List.cons _) (ih _ _)
  | writeText path content next ih => exact congrArg (List.cons _) (ih _ _)
  | exchange request next ih => exact congrArg (List.cons _) (ih _ _)
  | report event next ih => exact ih _

end Program

section Changes
variable {effect : Effect} {effects : List Effect} {tree : Files.Tree} {location : Files.Location}

-- A write that succeeds is a write of the file system, and nothing else does anything.
theorem change_cases (effect : Effect) (tree : Files.Tree) :
    effect.change tree = tree ∨
      ∃ path content, effect.target? = some path ∧
        tree.writeText path content = .ok (effect.change tree) := by
  cases effect with
  | read path answer => exact .inl rfl
  | exchange request sent => exact .inl rfl
  | write path content answer =>
    cases answer with
    | error cause => exact .inl rfl
    | ok _ =>
      rw [Effect.change]
      cases written : tree.writeText path content with
      | error cause => exact .inl rfl
      | ok after => exact .inr ⟨path, content, rfl, written⟩

theorem sameDirectories_change (effect : Effect) (tree : Files.Tree) :
    tree.SameDirectories (effect.change tree) := by
  rcases change_cases effect tree with same | ⟨path, content, _, written⟩
  · rw [same]
    exact .refl tree
  · obtain ⟨_, _, _, replaces⟩ := Files.Tree.writeText_ok written
    exact replaces.directories

theorem entry?_change (apart : ∀ path, effect.target? = some path → tree.locate path ≠ .ok location) :
    Files.Tree.entry? (effect.change tree) location = tree.entry? location := by
  rcases change_cases effect tree with same | ⟨path, content, target, written⟩
  · rw [same]
  · obtain ⟨place, found, _, replaces⟩ := Files.Tree.writeText_ok written
    refine replaces.rest location fun here => apart path target ?_
    rw [here, found]

theorem sameDirectories_foldl (effects : List Effect) (tree : Files.Tree) :
    tree.SameDirectories (effects.foldl Effect.change tree) := by
  induction effects generalizing tree with
  | nil => exact .refl tree
  | cons first rest ih => exact (sameDirectories_change first tree).trans (ih _)

-- What no write leads to stays as it is, since paths lead where they led.
theorem entry?_foldl
    (apart : ∀ path ∈ effects.filterMap Effect.target?, tree.locate path ≠ .ok location) :
    Files.Tree.entry? (effects.foldl Effect.change tree) location = tree.entry? location := by
  induction effects generalizing tree with
  | nil => rfl
  | cons first rest ih =>
    have same := sameDirectories_change first tree
    rw [List.foldl_cons, ih, entry?_change]
    · exact fun path target => apart path (List.mem_filterMap.mpr ⟨first, List.mem_cons_self .., target⟩)
    · intro path inside found
      refine apart path ?_ (same.locate_ok_iff.mp found)
      rw [List.mem_filterMap] at inside ⊢
      obtain ⟨effect, among, target⟩ := inside
      exact ⟨effect, List.mem_cons_of_mem first among, target⟩

-- What was written is there until something else is written to where its path leads.
theorem readText_foldl (written : tree.writeText path content = .ok middle)
    (apart : ∀ other ∈ effects.filterMap Effect.target?, tree.locate other ≠ tree.locate path) :
    (effects.foldl Effect.change middle).readText path = .ok content := by
  obtain ⟨location, found, file, replaces⟩ := Files.Tree.writeText_ok written
  have same := replaces.directories.trans (sameDirectories_foldl effects middle)
  refine Files.Tree.readText_of_entry? (same.locate_ok found) file ?_
  rw [entry?_foldl, replaces.held]
  intro other target there
  refine apart other target ?_
  rw [found]
  exact replaces.directories.locate_ok_iff.mp there

end Changes

-- Who keeps the files and who is asked.
structure Surroundings.SameWorld (here there : Surroundings) : Prop where
  medium : here.medium = there.medium
  server : here.server = there.server
  client : here.client = there.client

-- Nothing is different but what was told.
structure Surroundings.Alike (here there : Surroundings) : Prop extends
    SameWorld here there where
  files : here.files = there.files
  requests : here.requests = there.requests

section Steps
variable {here middle there : Surroundings}

namespace Surroundings

theorem SameWorld.refl (around : Surroundings) : SameWorld around around := ⟨rfl, rfl, rfl⟩

theorem SameWorld.trans (first : SameWorld here middle) (second : SameWorld middle there) :
    SameWorld here there :=
  ⟨first.medium.trans second.medium, first.server.trans second.server,
    first.client.trans second.client⟩

theorem Alike.trans (first : Alike here middle) (second : Alike middle there) :
    Alike here there :=
  ⟨first.toSameWorld.trans second.toSameWorld, first.files.trans second.files,
    first.requests.trans second.requests⟩

theorem sameWorld_save (around : Surroundings) (path content : String) :
    SameWorld (around.save path content).2 around := by
  rw [save]
  cases around.medium.writeText around.files path content <;> exact ⟨rfl, rfl, rfl⟩

theorem requests_save (around : Surroundings) (path content : String) :
    (around.save path content).2.requests = around.requests := by
  rw [save]
  cases around.medium.writeText around.files path content <;> rfl

theorem files_save (around : Surroundings) (path content : String) :
    (around.save path content).2.files =
      Effect.change around.files (.write path content (around.save path content).1) := by
  rw [save]
  cases written : around.medium.writeText around.files path content with
  | error _ => rfl
  | ok files =>
    simp [Effect.change, (Files.Medium.writeText_ok_iff.mp written).2, Except.toOption]

theorem save_ok (saved : (here.save path content).1 = .ok ()) :
    ∃ files, here.medium.writeText here.files path content = .ok files ∧
      (here.save path content).2.files = files := by
  rw [save] at saved ⊢
  cases written : here.medium.writeText here.files path content with
  | error _ =>
    rw [written] at saved
    cases saved
  | ok files => exact ⟨files, rfl, rfl⟩

theorem Alike.load_eq (alike : Alike here there) (path : String) :
    here.load path = there.load path := by
  rw [load, load, alike.medium, alike.files]

theorem Alike.send_eq (alike : Alike here there) (request : Http.Request) :
    here.send request = there.send request := by
  rw [send, send, alike.server, alike.client, alike.requests]

theorem Alike.save (alike : Alike here there) (path content : String) :
    (here.save path content).1 = (there.save path content).1 ∧
      Alike (here.save path content).2 (there.save path content).2 := by
  rw [Surroundings.save, Surroundings.save, alike.medium, alike.files]
  cases there.medium.writeText there.files path content with
  | error _ => exact ⟨rfl, alike⟩
  | ok files => exact ⟨rfl, ⟨rfl, alike.server, alike.client⟩, rfl, alike.requests⟩

theorem Alike.answer (alike : Alike here there) (request : Http.Request) :
    (here.answer request).1 = (there.answer request).1 ∧
      Alike (here.answer request).2 (there.answer request).2 := by
  rw [Surroundings.answer, Surroundings.answer, alike.send_eq, alike.requests]
  exact ⟨rfl, ⟨alike.medium, alike.server, alike.client⟩, alike.files, rfl⟩

end Surroundings
end Steps

section Runs
namespace Program
open Surroundings

-- The files after a run are those before with every write that succeeded.
theorem files_run (program : Program α) (around : Surroundings) :
    (program.run around).2.files = (program.effects around).foldl Effect.change around.files := by
  induction program generalizing around with
  | done value => rfl
  | readText path next ih => exact ih _ _
  | writeText path content next ih =>
    rw [run, effects, List.foldl_cons, ← files_save]
    exact ih _ _
  | exchange request next ih => exact ih _ _
  | report event next ih => exact ih _

theorem sameWorld_run (program : Program α) (around : Surroundings) :
    SameWorld (program.run around).2 around := by
  induction program generalizing around with
  | done value => exact .refl around
  | readText path next ih => exact ih _ _
  | writeText path content next ih => exact (ih _ _).trans (sameWorld_save around path content)
  | exchange request next ih => exact (ih _ _).trans ⟨rfl, rfl, rfl⟩
  | report event next ih => exact (ih _).trans ⟨rfl, rfl, rfl⟩

-- What reached someone is what was sent and did not miss them.
theorem requests_run (program : Program α) (around : Surroundings) :
    (program.run around).2.requests =
      around.requests ++ (program.effects around).flatMap Effect.received := by
  induction program generalizing around with
  | done value => exact (List.append_nil _).symm
  | readText path next ih => exact ih _ _
  | writeText path content next ih =>
    rw [run, effects, ih, requests_save]
    rfl
  | exchange request next ih =>
    rw [run, effects, ih, List.flatMap_cons, ← List.append_assoc]
    rfl
  | report event next ih => exact ih _

-- What was told before plays no part in what a run brings and does.
theorem run_congr (program : Program α) {here there : Surroundings} (alike : Alike here there) :
    (program.run here).1 = (program.run there).1 ∧
      Alike (program.run here).2 (program.run there).2 := by
  induction program generalizing here there with
  | done value => exact ⟨rfl, alike⟩
  | readText path next ih =>
    rw [run, run, alike.load_eq]
    exact ih _ alike
  | writeText path content next ih =>
    obtain ⟨same, after⟩ := alike.save path content
    rw [run, run, same]
    exact ih _ after
  | exchange request next ih =>
    obtain ⟨same, after⟩ := alike.answer request
    rw [run, run, same]
    exact ih _ after
  | report event next ih =>
    exact ih ⟨⟨alike.medium, alike.server, alike.client⟩, alike.files, alike.requests⟩

theorem effects_logAll (events : List Event) (around : Surroundings) :
    (logAll events).effects around = [] := by
  induction events generalizing around with
  | nil => rfl
  | cons event rest ih => exact ih _

-- Without effects nothing is different but what is told.
theorem alike_of_silent {program : Program α} (silent : program.effects around = []) :
    Alike (program.run around).2 around := by
  refine ⟨sameWorld_run program around, ?_, ?_⟩
  · rw [files_run, silent]
    rfl
  · rw [requests_run, silent]
    exact List.append_nil _

end Program
end Runs
end SchemaBindings
