import Mathlib.Data.List.Forall2

namespace SchemaBindings

-- The first of a list for which something does not hold.
theorem forall_or_first (holds : α → Prop) (values : List α) :
    (∀ value ∈ values, holds value) ∨
      ∃ before value behind, values = before ++ value :: behind ∧
        (∀ earlier ∈ before, holds earlier) ∧ ¬holds value := by
  induction values with
  | nil => exact .inl nofun
  | cons first rest ih =>
    by_cases good : holds first
    · rcases ih with all | ⟨before, value, behind, rfl, sound, bad⟩
      · exact .inl (List.forall_mem_cons.mpr ⟨good, all⟩)
      · exact .inr ⟨first :: before, value, behind, rfl, List.forall_mem_cons.mpr ⟨good, sound⟩, bad⟩
    · exact .inr ⟨[], first, rest, rfl, nofun, good⟩

theorem forall_mem_right {holds : β → Prop} {values : List α} {results : List β}
    (each : List.Forall₂ (fun _ b => holds b) values results) : ∀ b ∈ results, holds b := by
  induction each with
  | nil => exact nofun
  | cons first _ ih => exact List.forall_mem_cons.mpr ⟨first, ih⟩

theorem exists_each {related : α → β → Prop} {values : List α}
    (each : ∀ a ∈ values, ∃ b, related a b) : ∃ results, List.Forall₂ related values results := by
  induction values with
  | nil => exact ⟨[], .nil⟩
  | cons first rest ih =>
    obtain ⟨b, one⟩ := each first (List.mem_cons_self ..)
    obtain ⟨others, all⟩ := ih fun a inside => each a (List.mem_cons_of_mem _ inside)
    exact ⟨b :: others, .cons one all⟩

theorem mapM_ok {f : α → Except ε β} {values : List α} {results : List β}
    (each : List.Forall₂ (fun a b => f a = .ok b) values results) :
    values.mapM f = .ok results := by
  induction each with
  | nil => rfl
  | cons first _ ih => rw [List.mapM_cons, first, ih]; rfl

theorem mapM_error {f : α → Except ε β} {before behind : List α} {value : α}
    (sound : ∀ earlier ∈ before, ∃ b, f earlier = .ok b) (faulty : f value = .error error) :
    (before ++ value :: behind).mapM f = .error error := by
  induction before with
  | nil => rw [List.nil_append, List.mapM_cons, faulty]; rfl
  | cons first rest ih =>
    obtain ⟨b, good⟩ := sound first (List.mem_cons_self ..)
    have later := ih fun earlier inside => sound earlier (List.mem_cons_of_mem _ inside)
    rw [List.cons_append, List.mapM_cons, good, later]
    rfl

-- What is made of the results may as well be made of each at once.
theorem map_mapM (f : α → Except ε β) (g : β → γ) (values : List α) :
    (values.mapM f).map (List.map g) = values.mapM fun a => (f a).map g := by
  induction values with
  | nil => rfl
  | cons first rest ih =>
    rw [List.mapM_cons, List.mapM_cons, ← ih]
    cases f first with
    | error _ => rfl
    | ok _ => cases rest.mapM f with
      | error _ => rfl
      | ok _ => rfl

-- Two steps that fail alike and have results that look alike, and something made of each result.
theorem map_bind_congr {x : Except ε α} {y : Except ε β} {look : α → γ} {peek : β → γ} {f : α → δ}
    {g : β → δ} {view : δ → φ} (same : x.map look = y.map peek)
    (next : ∀ a b, look a = peek b → view (f a) = view (g b)) :
    (x >>= fun a => pure (f a)).map view = (y >>= fun b => pure (g b)).map view := by
  cases x with
  | error _ => cases y with
    | error _ => exact congrArg Except.error (Except.error.inj same)
    | ok _ => cases same
  | ok a => cases y with
    | error _ => cases same
    | ok b => exact congrArg Except.ok (next a b (Except.ok.inj same))

theorem parts_of_bind {x : Except ε α} {f : α → Except ε β} (done : x >>= f = .ok b) :
    ∃ a, x = .ok a ∧ f a = .ok b := by
  cases x with
  | error _ => cases done
  | ok a => exact ⟨a, rfl, done⟩

-- Whatever comes out has a property.
def Ensures (holds : α → Prop) (x : Except ε α) : Prop := ∀ a, x = .ok a → holds a

namespace Ensures
variable {holds : α → Prop} {further : β → Prop} {x : Except ε α}

theorem ok (good : holds a) : Ensures holds (.ok a : Except ε α) := by
  rintro _ ⟨⟩
  exact good

theorem error : Ensures holds (.error e : Except ε α) := nofun

theorem bind {f : α → Except ε β} (first : Ensures holds x)
    (next : ∀ a, holds a → Ensures further (f a)) : Ensures further (x >>= f) := by
  cases x with
  | error _ => exact error
  | ok a => exact next a (first a rfl)

-- Each step keeps the property, and so does a row of them.
theorem foldlM {f : α → β → Except ε α} (step : ∀ a b, holds a → Ensures holds (f a b))
    (values : List β) (good : holds a) : Ensures holds (values.foldlM f a) := by
  induction values generalizing a with
  | nil => exact ok good
  | cons first rest ih =>
    rw [List.foldlM_cons]
    exact (step a first good).bind fun _ kept => ih kept

end Ensures

-- Both fail, or both have results that are related. What is reported of a failure does not count.
inductive Agree (R : α → β → Prop) : Except ε α → Except ε β → Prop where
  | done (related : R a b) : Agree R (.ok a) (.ok b)
  | failed : Agree R (.error e) (.error f)

namespace Agree

theorem of_toOption {x y : Except ε α} (same : x.toOption = y.toOption) : Agree Eq x y := by
  cases x with
  | error _ => cases y with
    | error _ => exact .failed
    | ok _ => cases same
  | ok _ => cases y with
    | error _ => cases same
    | ok _ => exact .done (Option.some.inj same)

theorem ok_exact {R : α → β → Prop} {x : Except ε α} {y : Except ε β} (both : Agree R x y) :
    (∃ a, x = .ok a) ↔ ∃ b, y = .ok b := by
  cases both with
  | done _ => exact ⟨fun _ => ⟨_, rfl⟩, fun _ => ⟨_, rfl⟩⟩
  | failed =>
    constructor
    · rintro ⟨_, ok⟩; cases ok
    · rintro ⟨_, ok⟩; cases ok

theorem related {R : α → β → Prop} {x : Except ε α} {y : Except ε β} (both : Agree R x y)
    (first : x = .ok a) (second : y = .ok b) : R a b := by
  subst first
  subst second
  cases both with
  | done related => exact related

theorem done_of {R : α → β → Prop} {x : Except ε α} {y : Except ε β} (both : Agree R x y)
    (first : x = .ok a) : ∃ b, y = .ok b ∧ R a b := by
  cases both with
  | done related =>
    cases first
    exact ⟨_, rfl, related⟩
  | failed => cases first

theorem mono {R S : α → β → Prop} {x : Except ε α} {y : Except ε β} (both : Agree R x y)
    (weaker : ∀ a b, R a b → S a b) : Agree S x y := by
  cases both with
  | done related => exact .done (weaker _ _ related)
  | failed => exact .failed

theorem bind {R : α → β → Prop} {S : γ → δ → Prop} {x : Except ε α} {y : Except ε β}
    {f : α → Except ε γ} {g : β → Except ε δ} (both : Agree R x y)
    (next : ∀ a b, R a b → Agree S (f a) (g b)) : Agree S (x >>= f) (y >>= g) := by
  cases both with
  | done related => exact next _ _ related
  | failed => exact .failed

theorem map {R : α → β → Prop} {S : γ → δ → Prop} {x : Except ε α} {y : Except ε β} {f : α → γ}
    {g : β → δ} (both : Agree R x y) (next : ∀ a b, R a b → S (f a) (g b)) :
    Agree S (x.map f) (y.map g) := by
  cases both with
  | done related => exact .done (next _ _ related)
  | failed => exact .failed

theorem mapError {R : α → β → Prop} {x : Except ε α} {y : Except ε β} {f : ε → φ}
    (both : Agree R x y) : Agree R (x.mapError f) (y.mapError f) := by
  cases both with
  | done related => exact .done related
  | failed => exact .failed

theorem trans {R : α → β → Prop} {S : β → γ → Prop} {T : α → γ → Prop} {x : Except ε α}
    {y : Except ε β} {z : Except ε γ} (first : Agree R x y) (second : Agree S y z)
    (through : ∀ a b c, R a b → S b c → T a c) : Agree T x z := by
  cases first with
  | done related => cases second with
    | done further => exact .done (through _ _ _ related further)
  | failed => cases second with
    | failed => exact .failed

theorem mapM {R : β → δ → Prop} {f : α → Except ε β} {g : γ → Except ε δ} {values : List α}
    {others : List γ} (each : List.Forall₂ (fun a b => Agree R (f a) (g b)) values others) :
    Agree (List.Forall₂ R) (values.mapM f) (others.mapM g) := by
  induction each with
  | nil => exact .done .nil
  | cons first _ ih =>
    rw [List.mapM_cons, List.mapM_cons]
    exact first.bind fun _ _ related => ih.bind fun _ _ rest => .done (.cons related rest)

-- In whatever order the values are taken, the results are the same up to that order.
theorem mapM_perm {f : α → Except ε β} {values others : List α} (perm : values.Perm others) :
    Agree List.Perm (values.mapM f) (others.mapM f) := by
  induction perm with
  | nil => exact .done .nil
  | cons value _ ih =>
    rw [List.mapM_cons, List.mapM_cons]
    cases f value with
    | error _ => exact .failed
    | ok b => exact ih.bind fun _ _ rest => .done (rest.cons b)
  | swap first second rest =>
    rw [List.mapM_cons, List.mapM_cons, List.mapM_cons, List.mapM_cons]
    cases f first with
    | error _ => cases f second <;> exact .failed
    | ok a => cases f second with
      | error _ => exact .failed
      | ok b => cases rest.mapM f with
        | error _ => exact .failed
        | ok others => exact .done (.swap a b others)
  | trans _ _ first second => exact first.trans second fun _ _ _ => List.Perm.trans

end Agree

-- The first of a list at which something is wrong; everything before it is sound.
def FirstOf (sound : α → Prop) (fault : α → ε → Prop) (values : List α) (error : ε) : Prop :=
  ∃ before value behind, values = before ++ value :: behind ∧
    (∀ earlier ∈ before, sound earlier) ∧ fault value error

-- Either all is sound and a result comes out, or something is wrong and that is what is reported.
structure Decided (x : Except ε α) (sound : Prop) (fault : ε → Prop) : Prop where
  done : sound → ∃ a, x = .ok a
  blamed : ∀ error, fault error → x = .error error
  settled : sound ∨ ∃ error, fault error

namespace Decided
variable {x : Except ε α} {sound : Prop} {fault : ε → Prop}

theorem ok_iff (decided : Decided x sound fault) : (∃ a, x = .ok a) ↔ sound := by
  constructor
  · rintro ⟨a, ok⟩
    rcases decided.settled with good | ⟨error, bad⟩
    · exact good
    · have refused := decided.blamed error bad
      rw [ok] at refused
      cases refused
  · exact decided.done

theorem error_iff (decided : Decided x sound fault) : x = .error error ↔ fault error := by
  constructor
  · intro refused
    rcases decided.settled with good | ⟨other, bad⟩
    · obtain ⟨a, ok⟩ := decided.done good
      rw [refused] at ok
      cases ok
    · have same := decided.blamed other bad
      rw [refused] at same
      cases same
      exact bad
  · exact decided.blamed error

theorem pure (a : α) : Decided (Pure.pure a : Except ε α) True fun _ => False :=
  ⟨fun _ => ⟨a, rfl⟩, fun _ => False.elim, .inl trivial⟩

-- The second step is looked at only when nothing is wrong with the first.
theorem bind {f : α → Except ε β} {further : Prop} {later : ε → Prop}
    (first : Decided x sound fault) (next : ∀ a, x = .ok a → Decided (f a) further later) :
    Decided (x >>= f) (sound ∧ further) fun error => fault error ∨ sound ∧ later error := by
  constructor
  · rintro ⟨good, more⟩
    obtain ⟨a, ok⟩ := first.done good
    obtain ⟨b, last⟩ := (next a ok).done more
    refine ⟨b, ?_⟩
    rw [ok]
    exact last
  · rintro error (bad | ⟨good, bad⟩)
    · rw [first.blamed error bad]
      rfl
    · obtain ⟨a, ok⟩ := first.done good
      rw [ok]
      exact (next a ok).blamed error bad
  · rcases first.settled with good | ⟨error, bad⟩
    · obtain ⟨a, ok⟩ := first.done good
      rcases (next a ok).settled with more | ⟨error, bad⟩
      · exact .inl ⟨good, more⟩
      · exact .inr ⟨error, .inr ⟨good, bad⟩⟩
    · exact .inr ⟨error, .inl bad⟩

theorem congr {other : Prop} {blame : ε → Prop} (decided : Decided x sound fault)
    (same : sound ↔ other) (alike : ∀ error, fault error ↔ blame error) :
    Decided x other blame :=
  ⟨fun good => decided.done (same.mpr good), fun error bad => decided.blamed error ((alike error).mpr bad),
    decided.settled.imp same.mp fun ⟨error, bad⟩ => ⟨error, (alike error).mp bad⟩⟩

theorem map (decided : Decided x sound fault) (g : α → β) :
    Decided (x >>= fun a => Pure.pure (g a)) sound fault :=
  (decided.bind fun a _ => pure (g a)).congr (and_iff_left trivial) (by simp)

theorem mapM {f : α → Except ε β} {sound : α → Prop} {fault : α → ε → Prop} {values : List α}
    (each : ∀ a ∈ values, Decided (f a) (sound a) (fault a)) :
    Decided (values.mapM f) (∀ a ∈ values, sound a) (FirstOf sound fault values) := by
  constructor
  · intro good
    obtain ⟨results, related⟩ := exists_each fun a inside => (each a inside).done (good a inside)
    exact ⟨results, mapM_ok related⟩
  · rintro error ⟨before, value, behind, rfl, good, bad⟩
    have here : value ∈ before ++ value :: behind := by simp
    refine mapM_error (fun earlier inside => ?_) ((each value here).blamed error bad)
    exact (each earlier (List.mem_append_left _ inside)).done (good earlier inside)
  · rcases forall_or_first sound values with good | ⟨before, value, behind, rfl, good, bad⟩
    · exact .inl good
    · have here : value ∈ before ++ value :: behind := by simp
      rcases (each value here).settled with fine | ⟨error, fault⟩
      · exact (bad fine).elim
      · exact .inr ⟨error, before, value, behind, rfl, good, fault⟩

end Decided

end SchemaBindings
