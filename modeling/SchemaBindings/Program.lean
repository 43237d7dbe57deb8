import SchemaBindings.Event
import SchemaBindings.Files
import SchemaBindings.Http

namespace SchemaBindings

-- What answers the steps of a program is left to the surroundings that it runs in.
inductive Program (α : Type) where
  | done (value : α)
  | readText (path : String) (next : Except Files.Fault String → Program α)
  | writeText (path content : String) (next : Except Files.Fault Unit → Program α)
  | exchange (request : Http.Request) (next : Http.Outcome → Program α)
  | report (event : Event) (next : Program α)

namespace Program

def bind : Program α → (α → Program β) → Program β
  | .done value, f => f value
  | .readText path next, f => .readText path fun answer => (next answer).bind f
  | .writeText path content next, f => .writeText path content fun answer => (next answer).bind f
  | .exchange request next, f => .exchange request fun outcome => (next outcome).bind f
  | .report event next, f => .report event (next.bind f)

instance : Monad Program where
  pure := .done
  bind := bind

def read (path : String) : Program (Except Files.Fault String) := .readText path .done

def write (path content : String) : Program (Except Files.Fault Unit) :=
  .writeText path content .done

def ask (request : Http.Request) : Program Http.Outcome := .exchange request .done

def log (event : Event) : Program Unit := .report event (.done ())

def logAll : List Event → Program Unit
  | [] => .done ()
  | event :: rest => .report event (logAll rest)

theorem bind_done (program : Program α) : program.bind .done = program := by
  induction program with
  | done value => rfl
  | readText path next ih => simp only [bind, ih]
  | writeText path content next ih => simp only [bind, ih]
  | exchange request next ih => simp only [bind, ih]
  | report event next ih => simp only [bind, ih]

theorem bind_assoc (program : Program α) (f : α → Program β) (g : β → Program γ) :
    (program.bind f).bind g = program.bind fun value => (f value).bind g := by
  induction program with
  | done value => rfl
  | readText path next ih => simp only [bind, ih]
  | writeText path content next ih => simp only [bind, ih]
  | exchange request next ih => simp only [bind, ih]
  | report event next ih => simp only [bind, ih]

instance : LawfulMonad Program :=
  LawfulMonad.mk' Program bind_done (fun _ _ => rfl) bind_assoc

end Program

-- `server` says what comes back for a request after others. The requests that reach someone are
-- kept, latest last, and so are the events.
structure Surroundings where
  files : Files.Tree := {}
  medium : Files.Medium := {}
  server : List Http.Request → Http.Request → Http.Reply := fun _ _ => .unreachable .refused
  client : Http.Client := {}
  requests : List Http.Request := []
  events : List Event := []

namespace Surroundings

def send (around : Surroundings) (request : Http.Request) : Http.Sent :=
  around.client.pursue around.server Http.mostRedirects around.requests request

def answer (around : Surroundings) (request : Http.Request) : Http.Outcome × Surroundings :=
  ((around.send request).outcome,
    { around with requests := around.requests ++ (around.send request).requests })

def load (around : Surroundings) (path : String) : Except Files.Fault String :=
  around.medium.readText around.files path

def save (around : Surroundings) (path content : String) :
    Except Files.Fault Unit × Surroundings :=
  match around.medium.writeText around.files path content with
  | .ok files => (.ok (), { around with files })
  | .error fault => (.error fault, around)

end Surroundings

def Program.run : Program α → Surroundings → α × Surroundings
  | .done value, around => (value, around)
  | .readText path next, around => (next (around.load path)).run around
  | .writeText path content next, around =>
    (next (around.save path content).1).run (around.save path content).2
  | .exchange request next, around =>
    (next (around.answer request).1).run (around.answer request).2
  | .report event next, around => next.run { around with events := around.events ++ [event] }

theorem Program.run_bind (program : Program α) (f : α → Program β) (around : Surroundings) :
    (program.bind f).run around =
      (f (program.run around).1).run (program.run around).2 := by
  induction program generalizing around with
  | done value => rfl
  | readText path next ih => exact ih _ _
  | writeText path content next ih => exact ih _ _
  | exchange request next ih => exact ih _ _
  | report event next ih => exact ih _

end SchemaBindings
