import SchemaBindings.Proofs.Introspection.Resolution

namespace SchemaBindings

namespace Schema

-- What a schema answers about the types that were added to it, in the order in which they were.
structure Answers (schema : Schema) (added : List TypeDescriptor) : Prop where
  types : schema.types.toList = added
  inside : ∀ name position, schema.index[name]? = some position →
    ∃ bound : position < schema.types.size, schema.get? name = some schema.types[position]
  has : ∀ name, schema.has name = true ↔ ∃ type ∈ added, type.name = name
  latest : ∀ name, schema.get? name = (added.filter (·.name == name)).getLast?

section Adding
variable {schema : Schema} {added : List TypeDescriptor}

theorem answers_nil (types : schema.types = #[]) (index : schema.index = {}) :
    schema.Answers [] where
  types := by rw [types]
  inside name position found := by simp [index] at found
  has name := by simp [Schema.has, index]
  latest name := by simp [get?, index]

theorem index_add (schema : Schema) (type : TypeDescriptor) (name : String) :
    (schema.add type).index[name]? =
      if type.name = name then some schema.types.size else schema.index[name]? := by
  simp [add, Std.HashMap.getElem?_insert]

-- A position that was handed out leads to the same type ever after.
theorem Answers.get?_add (answers : schema.Answers added) (type : TypeDescriptor) (name : String) :
    (schema.add type).get? name = if type.name = name then some type else schema.get? name := by
  rw [get?, index_add, types_add]
  split
  · exact Array.getElem?_push_size
  · rw [get?]
    cases found : schema.index[name]? with
    | none => rfl
    | some position =>
      obtain ⟨bound, _⟩ := answers.inside name position found
      exact Array.getElem?_push_lt bound |>.trans (Array.getElem?_eq_getElem bound).symm

theorem Answers.add (answers : schema.Answers added) (type : TypeDescriptor) :
    (schema.add type).Answers (added ++ [type]) := by
  constructor
  case types => rw [types_add, Array.toList_push, answers.types]
  case inside =>
    intro name position found
    have known : position < (schema.add type).types.size := by
      rw [index_add] at found
      rw [types_add, Array.size_push]
      split at found
      · cases found
        exact Nat.lt_succ_self _
      · obtain ⟨bound, _⟩ := answers.inside name position found
        exact Nat.lt_succ_of_lt bound
    refine ⟨known, ?_⟩
    rw [get?, found]
    exact Array.getElem?_eq_getElem known
  case has =>
    intro name
    rw [has_add, Bool.or_eq_true, answers.has, beq_iff_eq]
    simp only [List.mem_append, List.mem_singleton, or_and_right, exists_or, exists_eq_left,
      or_comm]
  case latest =>
    intro name
    rw [answers.get?_add, answers.latest, List.filter_append, List.getLast?_append]
    split
    · rename_i named
      simp [named]
    · rename_i other
      simp [other]

theorem Answers.foldl_add (answers : schema.Answers added) (more : List TypeDescriptor) :
    (more.foldl Schema.add schema).Answers (added ++ more) := by
  induction more generalizing schema added with
  | nil => rwa [List.append_nil]
  | cons type more ih =>
    rw [List.foldl_cons, List.append_cons]
    exact ih (answers.add type)

theorem answers_ofTypes (added : List TypeDescriptor) : (ofTypes added).Answers added :=
  (answers_nil rfl rfl).foldl_add added

theorem answers_assemble (query mutation subscription : Option String)
    (added : List TypeDescriptor) : (assemble query mutation subscription added).Answers added :=
  (answers_nil rfl rfl).foldl_add added

-- What the index leads to has the name that was looked for.
theorem Answers.named (answers : schema.Answers added)
    (found : schema.index[name]? = some position) :
    ∃ bound : position < schema.types.size, schema.types[position].name = name := by
  obtain ⟨bound, answered⟩ := answers.inside name position found
  rw [answers.latest] at answered
  exact ⟨bound, beq_iff_eq.mp (List.mem_filter.mp (List.mem_of_getLast? answered)).2⟩

-- With one type for each name, a name leads back to where its type stands.
theorem Answers.index_name (answers : schema.Answers added)
    (distinct : (added.map (·.name)).Nodup) (place : Nat) (bound : place < schema.types.size) :
    schema.index[schema.types[place].name]? = some place := by
  have known : schema.has schema.types[place].name = true :=
    (answers.has _).mpr ⟨_, answers.types ▸ Array.getElem_mem_toList bound, rfl⟩
  obtain ⟨position, found⟩ := Option.isSome_iff_exists.mp
    (Std.HashMap.isSome_getElem?_eq_contains.trans known)
  obtain ⟨inside, same⟩ := answers.named found
  rw [← answers.types] at distinct
  have places : position = place := by
    refine (List.getElem?_inj (by simpa using inside) distinct).mp ?_
    simp [inside, bound, same]
  rw [found, places]

end Adding

open Introspection Introspection.Wire

-- Index and list agree from the empty schema on, however many types are added and however often a
-- name comes among them. Of a document a schema holds the types in their order, and by the name of
-- each it is found where it stands.
theorem answers_about_types :
    (∀ added : List TypeDescriptor, (ofTypes added).Answers added) ∧
    ∀ text schema, parse text = .ok schema →
      (∃ document described added, Document.ofText text = .ok document ∧
        document.schema? = some described ∧
        List.Forall₂ TypeEntry.Means described.types added ∧ schema.Answers added) ∧
      ∀ place (bound : place < schema.types.size),
        schema.index[schema.types[place].name]? = some place ∧
        schema.get? schema.types[place].name = some schema.types[place] := by
  refine ⟨answers_ofTypes, fun text schema parsed => ?_⟩
  obtain ⟨document, described, decoded, chosen, ⟨added, means, rfl⟩, sound⟩ :=
    described_of_parse parsed
  have answers := answers_assemble described.queryType described.mutationType
    described.subscriptionType added
  have distinct : (added.map (·.name)).Nodup := names_of_means means ▸ sound.distinct
  refine ⟨⟨document, described, added, decoded, chosen, means, answers⟩, fun place bound => ?_⟩
  have found := answers.index_name distinct place bound
  obtain ⟨_, answered⟩ := answers.inside _ _ found
  exact ⟨found, answered⟩

-- The second of two types of one name, and the second type of a document.
theorem answers_about_types_paints :
    (ofTypes [plainPaint, huedPaint]).get? "Paint" = some huedPaint ∧
    (ofTypes [plainPaint, huedPaint]).has "Hue" = false ∧
    parse (paint.document ["late"]).text = .ok paint ∧
    paint.index["Color"]? = some 1 ∧ paint.get? "Color" = paintTypes[1]? := by
  have answers := answers_about_types.1 [plainPaint, huedPaint]
  have parsed := (decodes_paint ["late"] (by decide)).2
  obtain ⟨_, placed⟩ := answers_about_types.2 _ _ parsed
  obtain ⟨found, answered⟩ := placed 1 (by decide)
  refine ⟨(answers.latest "Paint").trans (by decide +kernel), ?_, parsed, found, answered⟩
  rw [Bool.eq_false_iff, Ne, answers.has]
  decide +kernel

end Schema
end SchemaBindings
