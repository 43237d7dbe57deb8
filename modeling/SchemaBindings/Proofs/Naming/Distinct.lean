import SchemaBindings.Proofs.Naming.Legal

namespace SchemaBindings.Naming

section Stems
variable {cs ds : List Char}

theorem wordsFrom_separators (all : ∀ c ∈ cs, isSeparator c = true) : wordsFrom [] cs = [] := by
  induction cs with
  | nil => rfl
  | cons c rest ih =>
    rw [wordsFrom, if_pos (all c (List.mem_cons_self ..)), List.isEmpty_nil, if_pos rfl]
    exact ih fun d inside => all d (List.mem_cons_of_mem c inside)

theorem separators_of_words (none : wordsFrom [] cs = []) : ∀ c ∈ cs, isSeparator c = true := by
  induction cs with
  | nil => exact List.forall_mem_nil _
  | cons c rest ih =>
    rw [wordsFrom] at none
    by_cases separator : isSeparator c = true
    · rw [if_pos separator, List.isEmpty_nil, if_pos rfl] at none
      exact List.forall_mem_cons.mpr ⟨separator, ih none⟩
    · obtain ⟨more, others, begun⟩ := wordsFrom_held (List.cons_ne_nil c []) rest
      rw [if_neg separator, begun] at none
      cases none

-- In a name the only separators are underscores.
theorem separator_iff (parts : cs.all isNamePart = true) :
    (∀ c ∈ cs, isSeparator c = true) ↔ ∀ c ∈ cs, c = '_' := by
  refine forall₂_congr fun c inside => ?_
  exact part_forall (p := fun c => isSeparator c = true ↔ c = '_') (by decide +kernel)
    (List.all_eq_true.mp parts c inside)

theorem snakeCase_eq_nil_iff (parts : cs.all isNamePart = true) :
    snakeCase cs = [] ↔ ∀ c ∈ cs, c = '_' := by
  rw [snakeCase, (joinable_words parts).eq_nil_iff, List.map_eq_nil_iff, ← separator_iff parts]
  exact ⟨separators_of_words, wordsFrom_separators⟩

-- The words of two names are the same up to the case of their letters.
def SameWords (cs ds : List Char) : Prop :=
  (words cs).map (·.map Text.lowerAscii) = (words ds).map (·.map Text.lowerAscii)

instance (cs ds : List Char) : Decidable (SameWords cs ds) := inferInstanceAs (Decidable (_ = _))

-- The underscores in front of a name.
def leading (cs : List Char) : List Char := cs.takeWhile (· == '_')

theorem map_lower_words (parts : cs.all isNamePart = true) :
    (words cs).map Text.lower = (words cs).map (·.map Text.lowerAscii) :=
  List.map_congr_left fun _ inside => lower_parts (all_of_mem_words parts inside)

theorem snakeCase_eq_iff (first : cs.all isNamePart = true) (second : ds.all isNamePart = true) :
    snakeCase cs = snakeCase ds ↔ SameWords cs ds := by
  rw [SameWords, ← map_lower_words first, ← map_lower_words second]
  constructor
  · exact (joinable_words first).injective (joinable_words second)
  · intro same
    rw [snakeCase, snakeCase, same]

theorem under_of_mem_leading (inside : c ∈ leading cs) : (c == '_') = true :=
  List.mem_takeWhile_imp (p := (· == '_')) inside

theorem leading_eq_replicate (cs : List Char) :
    leading cs = List.replicate (leading cs).length '_' :=
  List.eq_replicate_of_mem fun _ inside => beq_iff_eq.mp (under_of_mem_leading inside)

theorem leading_eq_iff : leading cs = leading ds ↔ (leading cs).length = (leading ds).length := by
  constructor
  · exact congrArg List.length
  · intro same
    rw [leading_eq_replicate cs, same, ← leading_eq_replicate ds]

-- The underscores of a stem end where its words begin.
theorem leading_stem (parts : cs.all isNamePart = true) (worded : ∃ c ∈ cs, c ≠ '_') :
    stem cs = leading cs ++ snakeCase cs ∧ leading (stem cs) = leading cs := by
  have filled : snakeCase cs ≠ [] := by
    intro empty
    obtain ⟨c, inside, other⟩ := worded
    exact other ((snakeCase_eq_nil_iff parts).mp empty c inside)
  obtain ⟨c, rest, begins, other⟩ := exists_snakeCase parts filled
  have whole : stem cs = leading cs ++ snakeCase cs := by
    rw [stem, if_neg (List.isEmpty_iff.not.mpr filled), leading]
  refine ⟨whole, ?_⟩
  have ends : ∀ d ∈ (c :: rest).head?, (d == '_') = false := by simpa using other
  rw [whole, begins, leading, takeWhile_front (fun _ => under_of_mem_leading) ends]

theorem stem_eq_iff (first : cs.all isNamePart = true) (second : ds.all isNamePart = true)
    (worded : ∃ c ∈ cs, c ≠ '_') (other : ∃ d ∈ ds, d ≠ '_') :
    stem cs = stem ds ↔ (leading cs).length = (leading ds).length ∧ SameWords cs ds := by
  obtain ⟨wholeFirst, frontFirst⟩ := leading_stem first worded
  obtain ⟨wholeSecond, frontSecond⟩ := leading_stem second other
  rw [← leading_eq_iff, ← snakeCase_eq_iff first second]
  constructor
  · intro same
    have front : leading cs = leading ds := by rw [← frontFirst, same, frontSecond]
    rw [wholeFirst, wholeSecond, front] at same
    exact ⟨front, List.append_cancel_left same⟩
  · rintro ⟨front, words⟩
    rw [wholeFirst, wholeSecond, front, words]

end Stems

section Escaping
variable {cs ds : List Char}

-- An identifier that is written raw is the one without the two signs.
def unraw : List Char → List Char
  | 'r' :: '#' :: rest => rest
  | cs => cs

theorem unraw_parts (parts : cs.all isNamePart = true) : unraw cs = cs := by
  unfold unraw
  split
  · rename_i rest
    have known : isNamePart '#' = true := List.all_eq_true.mp parts '#' (by simp)
    exact absurd known (by decide)
  · rfl

-- What is escaped is kept, but for an underscore behind a word that cannot be written raw.
theorem unraw_escapeKeyword (name : isName cs = true) :
    unraw (escapeKeyword cs) = cs ∨ unraw (escapeKeyword cs) = cs ++ ['_'] := by
  have parts := parts_of_name name
  unfold escapeKeyword
  split
  · right
    refine unraw_parts ?_
    rw [List.all_append, parts]
    decide
  · split
    · exact .inl (unraw_parts parts)
    · exact .inl rfl

theorem IsStem.ne_append (its : IsStem cs) (ds : List Char) : cs ≠ ds ++ ['_'] := by
  rintro rfl
  exact its.closed List.getLast?_concat

theorem IsStem.eq_of_unraw (first : IsStem cs) (second : IsStem ds)
    (same : unraw (escapeKeyword cs) = unraw (escapeKeyword ds)) : cs = ds := by
  rcases unraw_escapeKeyword first.name with kept | longer
  · rcases unraw_escapeKeyword second.name with its | longer
    · rw [← kept, same, its]
    · rw [kept, longer] at same
      exact (first.ne_append ds same).elim
  · rcases unraw_escapeKeyword second.name with kept | its
    · rw [kept, longer] at same
      exact (second.ne_append cs same.symm).elim
    · rw [longer, its] at same
      exact List.append_cancel_right same

end Escaping

-- The identifier as the language of the source compares it with others.
def unrawIdentifier (identifier : String) : String := String.ofList (unraw identifier.toList)

theorem stem_of_unrawIdentifier {a b : String} (first : IsName a) (second : IsName b)
    (same : unrawIdentifier (fieldIdentifier a) = unrawIdentifier (fieldIdentifier b)) :
    stem a.toList = stem b.toList := by
  have chars := String.ofList_injective same
  simp only [fieldIdentifier, String.toList_ofList, fieldIdentifierChars_eq] at chars
  exact (isStem_stem first).eq_of_unraw (isStem_stem second) chars

theorem fieldIdentifier_of_stem {a b : String} (same : stem a.toList = stem b.toList) :
    fieldIdentifier a = fieldIdentifier b := by
  rw [fieldIdentifier, fieldIdentifier, fieldIdentifierChars_eq, fieldIdentifierChars_eq, same]

theorem fieldIdentifier_eq_iff {a b : String} (first : IsName a) (second : IsName b) :
    fieldIdentifier a = fieldIdentifier b ↔ stem a.toList = stem b.toList := by
  constructor
  · intro same
    exact stem_of_unrawIdentifier first second (congrArg unrawIdentifier same)
  · exact fieldIdentifier_of_stem

theorem fieldIdentifier_wordless {a : String} (name : IsName a) (wordless : ∀ c ∈ a.toList, c = '_') :
    fieldIdentifier a = "field" := by
  have empty := (snakeCase_eq_nil_iff (parts_of_name name)).mpr wordless
  rw [fieldIdentifier, fieldIdentifierChars, empty]
  rfl

-- A field gets an identifier that is no keyword, or a keyword that may be written raw. Two fields
-- share it exactly if their names begin with as many underscores and have the same words up to the
-- case of letters; names without words are all called the same. Identifiers that differ do so
-- without what makes them raw, too.
theorem fieldIdentifier_exact {a b : String} (first : IsName a) (second : IsName b) :
    Legal (fieldIdentifier a) ∧
    ((∀ c ∈ a.toList, c = '_') → fieldIdentifier a = "field") ∧
    ((∃ c ∈ a.toList, c ≠ '_') → (∃ c ∈ b.toList, c ≠ '_') →
      (fieldIdentifier a = fieldIdentifier b ↔
        (leading a.toList).length = (leading b.toList).length ∧ SameWords a.toList b.toList)) ∧
    (fieldIdentifier a ≠ fieldIdentifier b →
      unrawIdentifier (fieldIdentifier a) ≠ unrawIdentifier (fieldIdentifier b)) := by
  refine ⟨legal_fieldIdentifier first, fieldIdentifier_wordless first, ?_, ?_⟩
  · intro worded other
    rw [fieldIdentifier_eq_iff first second]
    exact stem_eq_iff (parts_of_name first) (parts_of_name second) worded other
  · intro apart same
    exact apart (fieldIdentifier_of_stem (stem_of_unrawIdentifier first second same))

-- Two spellings of one name clash, and two keywords do not, whichever way they are escaped.
theorem fieldIdentifier_exact_userId :
    IsName "_userID" ∧ IsName "_User_id" ∧ Legal (fieldIdentifier "_userID") ∧
      fieldIdentifier "_userID" = fieldIdentifier "_User_id" ∧
      unrawIdentifier (fieldIdentifier "Type") ≠ unrawIdentifier (fieldIdentifier "Self") := by
  have first : IsName "_userID" := by decide +kernel
  have second : IsName "_User_id" := by decide +kernel
  obtain ⟨legal, _, clash, _⟩ := fieldIdentifier_exact first second
  refine ⟨first, second, legal, ?_, ?_⟩
  · have worded : ∃ c ∈ "_userID".toList, c ≠ '_' := ⟨'u', by decide +kernel, by decide⟩
    have other : ∃ c ∈ "_User_id".toList, c ≠ '_' := ⟨'U', by decide +kernel, by decide⟩
    exact (clash worded other).mpr (by decide +kernel)
  · have apart : fieldIdentifier "Type" ≠ fieldIdentifier "Self" := by decide +kernel
    exact (fieldIdentifier_exact (by decide +kernel) (by decide +kernel)).2.2.2 apart

end SchemaBindings.Naming
