import Mathlib.Data.List.Forall2
import SchemaBindings.Proofs.Effects

namespace SchemaBindings

variable {R : Http.Request → Http.Request → Prop}

-- What a request of the one program is to the request of the other is said by `R`.
inductive Twins {α : Type} (R : Http.Request → Http.Request → Prop) :
    Program α → Program α → Prop where
  | done : Twins R (.done value) (.done value)
  | readText (rest : ∀ answer, Twins R (next answer) (following answer)) :
      Twins R (.readText path next) (.readText path following)
  | writeText (rest : ∀ answer, Twins R (next answer) (following answer)) :
      Twins R (.writeText path content next) (.writeText path content following)
  | exchange (requests : R request other)
      (rest : ∀ reply, Twins R (next reply) (following reply)) :
      Twins R (.exchange request next) (.exchange other following)
  | report (rest : Twins R next following) : Twins R (.report event next) (.report event following)

namespace Twins

theorem bind {p q : Program α} {f g : α → Program β} (twins : Twins R p q)
    (rest : ∀ value, Twins R (f value) (g value)) : Twins R (p >>= f) (q >>= g) := by
  change Twins R (p.bind f) (q.bind g)
  induction twins with
  | done => exact rest _
  | readText _ ih => exact .readText ih
  | writeText _ ih => exact .writeText ih
  | exchange requests _ ih => exact .exchange requests ih
  | report _ ih => exact .report ih

theorem pure (value : α) : Twins R (Pure.pure value) (Pure.pure value) := .done

theorem log (event : Event) : Twins R (Program.log event) (Program.log event) := .report .done

theorem logAll (events : List Event) : Twins R (Program.logAll events) (Program.logAll events) := by
  induction events with
  | nil => exact .done
  | cons _ _ ih => exact .report ih

theorem read (path : String) : Twins R (Program.read path) (Program.read path) :=
  .readText fun _ => .done

theorem write (path content : String) :
    Twins R (Program.write path content) (Program.write path content) :=
  .writeText fun _ => .done

theorem ask (requests : R request other) : Twins R (Program.ask request) (Program.ask other) :=
  .exchange requests fun _ => .done

end Twins

-- Two requests to go on with, or the same end twice.
inductive Http.Onward.Related (R : Http.Request → Http.Request → Prop) :
    Http.Onward → Http.Onward → Prop where
  | stay : Related R .stay .stay
  | stop : Related R (.stop message causes) (.stop message causes)
  | next (related : R request other) : Related R (.next request) (.next other)

-- Surroundings that have come to differ in their requests alone. Related ones go to the same place,
-- are answered alike after related ones, and are led on to related ones.
structure Surroundings.Twin (R : Http.Request → Http.Request → Prop) (before : List Http.Request)
    (here there : Surroundings) : Prop where
  files : here.files = there.files
  medium : here.medium = there.medium
  events : here.events = there.events
  places : ∀ request other, R request other → request.endpoint = other.endpoint
  answers : ∀ earlier others request other, List.Forall₂ R earlier others → R request other →
    here.server (before ++ earlier) request = there.server (before ++ others) other
  follows : ∀ request other code location, R request other →
    Http.Onward.Related R (here.client.follow request code location)
      (there.client.follow other code location)
  requests : ∃ sent others, here.requests = before ++ sent ∧ there.requests = before ++ others ∧
    List.Forall₂ R sent others

namespace Surroundings.Twin
variable {before earlier others : List Http.Request} {here there : Surroundings}

theorem load (twin : Twin R before here there) (path : String) :
    here.load path = there.load path := by
  rw [Surroundings.load, Surroundings.load, twin.medium, twin.files]

theorem save (twin : Twin R before here there) (path content : String) :
    (here.save path content).1 = (there.save path content).1 ∧
    Twin R before (here.save path content).2 (there.save path content).2 := by
  rw [Surroundings.save, Surroundings.save, twin.medium, twin.files]
  cases there.medium.writeText there.files path content with
  | error cause => exact ⟨rfl, twin⟩
  | ok files => exact ⟨rfl, { twin with files := rfl, medium := rfl }⟩

theorem settled (twin : Twin R before here there) (related : R request other)
    (reply : Http.Reply) :
    List.Forall₂ R (Http.Client.settled request reply).requests
        (Http.Client.settled other reply).requests ∧
      (Http.Client.settled request reply).outcome = (Http.Client.settled other reply).outcome := by
  rw [Http.Client.settled, Http.Client.settled, twin.places request other related]
  refine ⟨?_, rfl⟩
  cases reply.isUnreachable with
  | true => exact .nil
  | false => exact .cons related .nil

theorem onward (twin : Twin R before here there) (behind : List.Forall₂ R earlier others)
    (related : R request other) :
    Http.Onward.Related R (here.client.onward request (here.server (before ++ earlier) request))
      (there.client.onward other (there.server (before ++ others) other)) := by
  rw [twin.answers _ _ _ _ behind related]
  cases there.server (before ++ others) other with
  | moved code location body => exact twin.follows request other code location related
  | _ => exact .stay

-- As long as there are related requests to go on with, both go on, and with the same answers.
theorem pursue (twin : Twin R before here there) (left : Nat)
    (behind : List.Forall₂ R earlier others) (related : R request other) :
    List.Forall₂ R
        (here.client.pursue here.server left (before ++ earlier) request).requests
        (there.client.pursue there.server left (before ++ others) other).requests ∧
      (here.client.pursue here.server left (before ++ earlier) request).outcome =
        (there.client.pursue there.server left (before ++ others) other).outcome := by
  induction left using Nat.strongRecOn generalizing earlier others request other with
  | ind left ih =>
    have onward := twin.onward behind related
    generalize led : here.client.onward request _ = first at onward
    generalize followed : there.client.onward other _ = second at onward
    cases onward with
    | stay =>
      rw [Http.Client.pursue_stay led, Http.Client.pursue_stay followed,
        twin.answers _ _ _ _ behind related]
      exact twin.settled related _
    | stop =>
      rw [Http.Client.pursue_stop led, Http.Client.pursue_stop followed]
      exact twin.settled related _
    | next again =>
      cases left with
      | zero =>
        rw [Http.Client.pursue_tired led, Http.Client.pursue_tired followed,
          Http.tooManyRedirects, Http.tooManyRedirects, twin.places request other related]
        exact twin.settled related _
      | succ left =>
        have rest := ih left left.lt_succ_self (List.rel_append behind (.cons related .nil)) again
        rw [Http.Client.pursue_next led, Http.Client.pursue_next followed, List.append_assoc,
          List.append_assoc]
        exact ⟨.cons related rest.1, rest.2⟩

theorem answer (twin : Twin R before here there) (related : R request other) :
    (here.answer request).1 = (there.answer other).1 ∧
    Twin R before (here.answer request).2 (there.answer other).2 := by
  obtain ⟨sent, others, first, second, each⟩ := twin.requests
  obtain ⟨requests, outcome⟩ := twin.pursue Http.mostRedirects each related
  rw [← first, ← second] at requests outcome
  refine ⟨outcome, { twin with requests := ⟨sent ++ (here.send request).requests,
    others ++ (there.send other).requests, ?_, ?_, List.rel_append each requests⟩ }⟩
  · rw [Surroundings.answer, first, List.append_assoc]
  · rw [Surroundings.answer, second, List.append_assoc]

theorem report (twin : Twin R before here there) (event : Event) :
    Twin R before { here with events := here.events ++ [event] }
      { there with events := there.events ++ [event] } :=
  { twin with events := by rw [twin.events] }

end Surroundings.Twin

-- What the runs bring is the same, and what they leave behind differs in the requests alone.
theorem Twins.run {p q : Program α} (twins : Twins R p q)
    (twin : Surroundings.Twin R before here there) :
    (p.run here).1 = (q.run there).1 ∧
      Surroundings.Twin R before (p.run here).2 (q.run there).2 := by
  induction twins generalizing here there with
  | done => exact ⟨rfl, twin⟩
  | readText _ ih =>
    rw [Program.run, Program.run, twin.load]
    exact ih _ twin
  | writeText _ ih =>
    obtain ⟨same, after⟩ := twin.save _ _
    rw [Program.run, Program.run, same]
    exact ih _ after
  | exchange related _ ih =>
    obtain ⟨same, after⟩ := twin.answer related
    rw [Program.run, Program.run, same]
    exact ih _ after
  | report _ ih => exact ih (twin.report _)

end SchemaBindings
