import Mathlib.Data.List.Induction
import Mathlib.Data.List.Nodup
import SchemaBindings.Binding
import SchemaBindings.Proofs.Fallible

namespace SchemaBindings.Binding

-- The names before the second one have identifiers of their own, so only one of them is the first.
inductive Clash (owner : String) (normalize : String → String) (names : List String) :
    Error → Prop where
  | taken (split : names = before ++ second :: behind) (distinct : (before.map normalize).Nodup)
      (earlier : first ∈ before) (same : normalize first = normalize second) :
      Clash owner normalize names (.collision owner (normalize second) first second)

variable {owner : String} {normalize : String → String} {seen : Std.HashMap String String}

-- What is seen are the earlier names, each under its own identifier.
def Remembers (normalize : String → String) (seen : Std.HashMap String String)
    (earlier : List String) : Prop :=
  ∀ identifier name, seen[identifier]? = some name ↔ name ∈ earlier ∧ normalize name = identifier

theorem remembers_nothing : Remembers normalize {} [] := by
  intro identifier name
  simp

theorem Remembers.absent (remembers : Remembers normalize seen earlier)
    (fresh : identifier ∉ earlier.map normalize) : seen[identifier]? = none := by
  cases found : seen[identifier]? with
  | none => rfl
  | some name =>
    obtain ⟨inside, rfl⟩ := (remembers identifier name).mp found
    exact (fresh (List.mem_map_of_mem inside)).elim

theorem Remembers.insert (remembers : Remembers normalize seen earlier)
    (fresh : normalize name ∉ earlier.map normalize) :
    Remembers normalize (seen.insert (normalize name) name) (earlier ++ [name]) := by
  intro identifier other
  rw [Std.HashMap.getElem?_insert, List.mem_append, List.mem_singleton]
  by_cases same : normalize name = identifier
  · subst same
    rw [if_pos (beq_self_eq_true _)]
    constructor
    · intro found
      cases found
      exact ⟨.inr rfl, rfl⟩
    · rintro ⟨inside | rfl, same⟩
      · exact (fresh (same ▸ List.mem_map_of_mem inside)).elim
      · rfl
  · rw [if_neg (by simpa using same), remembers]
    constructor
    · exact fun ⟨inside, its⟩ => ⟨.inl inside, its⟩
    · rintro ⟨inside | rfl, its⟩
      · exact ⟨inside, its⟩
      · exact (same its).elim

theorem uniqueFrom_cons (remembers : Remembers normalize seen earlier)
    (fresh : normalize name ∉ earlier.map normalize) (rest : List String) :
    uniqueFrom owner normalize seen (name :: rest) = do
      let others ← uniqueFrom owner normalize (seen.insert (normalize name) name) rest
      return normalize name :: others := by
  simp only [uniqueFrom, remembers.absent fresh]

theorem fresh_of_nodup (distinct : ((earlier ++ name :: rest).map normalize).Nodup) :
    normalize name ∉ earlier.map normalize := by
  rw [List.map_append, List.map_cons] at distinct
  intro inside
  exact List.disjoint_of_nodup_append distinct inside (List.mem_cons_self ..)

-- The induction is on the names that are still to come; those passed are remembered.
theorem uniqueFrom_ok (remembers : Remembers normalize seen earlier)
    (distinct : ((earlier ++ names).map normalize).Nodup) :
    uniqueFrom owner normalize seen names = .ok (names.map normalize) := by
  induction names generalizing seen earlier with
  | nil => rfl
  | cons name rest ih =>
    have fresh := fresh_of_nodup distinct
    have others := ih (remembers.insert fresh) (by simpa using distinct)
    rw [uniqueFrom_cons remembers fresh, others]
    rfl

theorem uniqueFrom_clash (remembers : Remembers normalize seen earlier)
    (distinct : ((earlier ++ before).map normalize).Nodup) (taken : first ∈ earlier ++ before)
    (same : normalize first = normalize second) (behind : List String) :
    uniqueFrom owner normalize seen (before ++ second :: behind) =
      .error (.collision owner (normalize second) first second) := by
  induction before generalizing seen earlier with
  | nil =>
    rw [List.append_nil] at taken
    have found : seen[normalize second]? = some first := (remembers _ _).mpr ⟨taken, same⟩
    simp only [List.nil_append, uniqueFrom, found]
  | cons name rest ih =>
    have fresh := fresh_of_nodup distinct
    have others := ih (remembers.insert fresh) (by simpa using distinct) (by simpa using taken)
    rw [List.cons_append, uniqueFrom_cons remembers fresh, others]
    rfl

theorem nodup_or_clash (owner : String) (normalize : String → String) (names : List String) :
    (names.map normalize).Nodup ∨ ∃ error, Clash owner normalize names error := by
  induction names using List.reverseRecOn with
  | nil => exact .inl .nil
  | append_singleton before name ih =>
    rcases ih with distinct | ⟨_, ⟨rfl, distinct, earlier, same⟩⟩
    · by_cases taken : normalize name ∈ before.map normalize
      · obtain ⟨first, earlier, same⟩ := List.mem_map.mp taken
        exact .inr ⟨_, .taken rfl distinct earlier same⟩
      · left
        rw [List.map_append, List.map_singleton]
        exact List.nodup_append.mpr ⟨distinct, List.nodup_singleton _, by
          rintro identifier inside _ last rfl
          exact taken (List.mem_singleton.mp last ▸ inside)⟩
    · exact .inr ⟨_, .taken (List.append_assoc _ (_ :: _) [name]) distinct earlier same⟩

theorem uniqueIdentifiers_ok (distinct : (names.map normalize).Nodup) :
    uniqueIdentifiers owner names normalize = .ok (names.map normalize) :=
  uniqueFrom_ok remembers_nothing distinct

theorem Clash.uniqueIdentifiers (clash : Clash owner normalize names error) :
    uniqueIdentifiers owner names normalize = .error error := by
  obtain ⟨rfl, distinct, earlier, same⟩ := clash
  exact uniqueFrom_clash remembers_nothing distinct earlier same _

theorem uniqueIdentifiers_decided (owner : String) (names : List String)
    (normalize : String → String) :
    Decided (uniqueIdentifiers owner names normalize) (names.map normalize).Nodup
      (Clash owner normalize names) :=
  ⟨fun distinct => ⟨_, uniqueIdentifiers_ok distinct⟩, fun _ => Clash.uniqueIdentifiers,
    nodup_or_clash owner normalize names⟩

-- The later position is the first one whose identifier is taken, and the earlier one took it.
structure EarliestClash (identifiers : List String) (i j : Nat) : Prop where
  inside : j < identifiers.length
  earlier : i < j
  same : identifiers[i]? = identifiers[j]?
  only : ∀ k < j, identifiers[k]? = identifiers[j]? → k = i
  smallest : ∀ k < j, ∀ l < k, identifiers[l]? ≠ identifiers[k]?

theorem earliestClash_append {front : List String} (distinct : front.Nodup)
    (taken : front[i]? = some identifier) (behind : List String) :
    EarliestClash (front ++ identifier :: behind) i front.length := by
  have apart := List.nodup_iff_getElem?_ne_getElem?.mp distinct
  obtain ⟨bound, _⟩ := List.getElem?_eq_some_iff.mp taken
  have last : (front ++ identifier :: behind)[front.length]? = some identifier := by simp
  have known (k : Nat) (below : k < front.length) :
      (front ++ identifier :: behind)[k]? = front[k]? := List.getElem?_append_left below
  refine ⟨by simp, bound, ?_, fun k below same => ?_, fun k below l before same => ?_⟩
  · rw [known i bound, last, taken]
  · rw [known k below, last, ← taken] at same
    rcases Nat.lt_trichotomy k i with before | rfl | behind
    · exact (apart k i before bound same).elim
    · rfl
    · exact (apart i k behind below same.symm).elim
  · rw [known k below, known l (Nat.lt_trans before below)] at same
    exact apart l k before below same

theorem clash_iff {names : List String} {error : Error} :
    Clash owner normalize names error ↔
      ∃ i j first second, EarliestClash (names.map normalize) i j ∧
        names[i]? = some first ∧ names[j]? = some second ∧
        error = .collision owner (normalize second) first second := by
  constructor
  · rintro ⟨rfl, distinct, earlier, same⟩
    rename_i before second behind first
    obtain ⟨i, found⟩ := List.mem_iff_getElem?.mp earlier
    have taken : (before.map normalize)[i]? = some (normalize second) := by
      rw [List.getElem?_map, found, Option.map_some, same]
    have clash := earliestClash_append distinct taken (behind.map normalize)
    refine ⟨i, before.length, first, second, ?_, ?_, by simp, rfl⟩
    · rwa [List.map_append, List.map_cons, ← List.length_map normalize]
    · have bound := (List.getElem?_eq_some_iff.mp found).1
      rw [List.getElem?_append_left bound, found]
  · rintro ⟨i, j, first, second, clash, firstAt, secondAt, rfl⟩
    obtain ⟨bound, its⟩ := List.getElem?_eq_some_iff.mp secondAt
    have split : names = names.take j ++ second :: names.drop (j + 1) := by
      rw [← its, List.getElem_cons_drop, List.take_append_drop]
    have same := clash.same
    rw [List.getElem?_map, List.getElem?_map, firstAt, secondAt] at same
    refine .taken split ?_ ?_ (Option.some.inj same)
    · refine List.nodup_iff_getElem?_ne_getElem?.mpr fun l k before inside => ?_
      have below : k < j := by simp at inside; omega
      rw [List.map_take, List.getElem?_take_of_lt below,
        List.getElem?_take_of_lt (Nat.lt_trans before below)]
      exact clash.smallest k below l before
    · refine List.mem_iff_getElem?.mpr ⟨i, ?_⟩
      rw [List.getElem?_take_of_lt clash.earlier, firstAt]

-- Identifiers come out one for each name, in order, exactly if no two names share one. Otherwise
-- the error names the first position whose identifier is taken and the one position that took it;
-- so a name that comes twice is never let through.
theorem uniqueIdentifiers_exact (owner : String) (names : List String)
    (normalize : String → String) :
    (∀ identifiers, uniqueIdentifiers owner names normalize = .ok identifiers ↔
      (names.map normalize).Nodup ∧ identifiers = names.map normalize) ∧
    (∀ error, uniqueIdentifiers owner names normalize = .error error ↔
      ∃ i j first second, EarliestClash (names.map normalize) i j ∧
        names[i]? = some first ∧ names[j]? = some second ∧
        error = .collision owner (normalize second) first second) ∧
    (¬names.Nodup → ∃ error, uniqueIdentifiers owner names normalize = .error error) := by
  have decided := uniqueIdentifiers_decided owner names normalize
  refine ⟨fun identifiers => ⟨fun made => ?_, ?_⟩, fun error => ?_, fun repeated => ?_⟩
  · have distinct := decided.ok_iff.mp ⟨identifiers, made⟩
    rw [uniqueIdentifiers_ok distinct] at made
    exact ⟨distinct, (Except.ok.inj made).symm⟩
  · rintro ⟨distinct, rfl⟩
    exact uniqueIdentifiers_ok distinct
  · rw [decided.error_iff, clash_iff]
  · rcases decided.settled with distinct | ⟨error, clash⟩
    · exact (repeated (List.Nodup.of_map normalize distinct)).elim
    · exact ⟨error, clash.uniqueIdentifiers⟩

-- The second `id` comes too late to be blamed.
theorem uniqueIdentifiers_exact_userId :
    uniqueIdentifiers "User" ["id", "userId", "name", "user_id", "id"] Naming.fieldIdentifier =
      .error (.collision "User" "user_id" "userId" "user_id") ∧
    ¬["id", "name", "id"].Nodup ∧
    ∃ error, uniqueIdentifiers "User" ["id", "name", "id"] Naming.fieldIdentifier = .error error := by
  have repeated : ¬["id", "name", "id"].Nodup := by decide
  have clash : EarliestClash
      (["id", "userId", "name", "user_id", "id"].map Naming.fieldIdentifier) 1 3 := by
    constructor
    all_goals decide +kernel
  have same : Naming.fieldIdentifier "user_id" = "user_id" := by decide +kernel
  refine ⟨((uniqueIdentifiers_exact _ _ _).2.1 _).mpr ⟨1, 3, _, _, clash, rfl, rfl, ?_⟩, repeated,
    (uniqueIdentifiers_exact _ _ _).2.2 repeated⟩
  rw [same]

end SchemaBindings.Binding
