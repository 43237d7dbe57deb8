import Mathlib.Data.List.TakeWhile
import SchemaBindings.Proofs.Source.Lexing

namespace SchemaBindings.Naming

-- An identifier of the source: a name that is no keyword, or a keyword that is written raw.
inductive Legal (identifier : String) : Prop where
  | word (name : IsName identifier) (free : Source.isKeyword identifier = false)
  | raw (known : keyword ∈ Source.keywords) (may : keyword ∉ Source.Lexeme.neverRaw)
      (written : identifier = "r#" ++ keyword)

theorem IsName.legal_iff (name : IsName identifier) :
    Legal identifier ↔ Source.isKeyword identifier = false := by
  constructor
  · rintro (⟨_, free⟩ | ⟨_, _, written⟩)
    · exact free
    · rw [IsName, written, String.toList_append] at name
      cases name
  · exact .word name

section Words
variable {word : List Char}

-- The words are never empty, and the separators are gone.
theorem solid_of_mem_wordsFrom (inside : word ∈ wordsFrom held cs)
    (plain : ∀ c ∈ held, isSeparator c = false) :
    word ≠ [] ∧ ∀ c ∈ word, isSeparator c = false := by
  induction cs generalizing held with
  | nil =>
    rw [wordsFrom] at inside
    split at inside
    · cases inside
    · rename_i some
      cases List.mem_singleton.mp inside
      exact ⟨by simpa using some, fun c there => plain c (List.mem_reverse.mp there)⟩
  | cons d rest ih =>
    have closed (some : ¬held.isEmpty = true) :
        held.reverse ≠ [] ∧ ∀ c ∈ held.reverse, isSeparator c = false :=
      ⟨by simpa using some, fun c there => plain c (List.mem_reverse.mp there)⟩
    unfold wordsFrom at inside
    split at inside
    · split at inside
      · exact ih inside (List.forall_mem_nil _)
      · rename_i some
        rcases List.mem_cons.mp inside with rfl | inside
        · exact closed some
        · exact ih inside (List.forall_mem_nil _)
    · rename_i letter
      have alone : ∀ c ∈ [d], isSeparator c = false := by simpa using letter
      split at inside
      · exact ih inside alone
      · split at inside
        · rcases List.mem_cons.mp inside with rfl | inside
          · exact closed (by simp)
          · exact ih inside alone
        · exact ih inside (List.forall_mem_cons.mpr ⟨alone d (List.mem_cons_self ..), plain⟩)

theorem solid_of_mem_words (inside : word ∈ words cs) :
    word ≠ [] ∧ ∀ c ∈ word, isSeparator c = false :=
  solid_of_mem_wordsFrom inside nofun

theorem all_of_mem_words {p : Char → Bool} (all : cs.all p = true) (inside : word ∈ words cs) :
    word.all p = true := by
  refine List.all_eq_true.mpr fun c there => ?_
  rcases mem_of_mem_wordsFrom inside there with held | known
  · cases held
  · exact List.all_eq_true.mp all c known

-- A word that has been begun goes on.
theorem wordsFrom_held (some : held ≠ []) (cs : List Char) :
    ∃ more others, wordsFrom held cs = (held.reverse ++ more) :: others := by
  induction cs generalizing held with
  | nil => exact ⟨[], [], by simp [wordsFrom, some]⟩
  | cons d rest ih =>
    unfold wordsFrom
    split
    · exact ⟨[], wordsFrom [] rest, by simp [some]⟩
    · split
      · exact (some rfl).elim
      · rename_i previous behind
        split
        · exact ⟨[], _, by rw [List.append_nil]⟩
        · obtain ⟨more, others, same⟩ := ih (List.cons_ne_nil d (previous :: behind))
          exact ⟨d :: more, others, by rw [same]; simp⟩

end Words

section Casing
variable {c : Char}

theorem lowerChar_ascii (ascii : Text.isAscii c = true) :
    Text.lowerChar c = [Text.lowerAscii c] := by
  rw [Text.lowerChar, if_pos ascii]

theorem upperChar_ascii (ascii : Text.isAscii c = true) :
    Text.upperChar c = [Text.upperAscii c] := by
  rw [Text.upperChar, if_pos ascii]

theorem lowerFrom_ascii {cs : List Char} (ascii : cs.all Text.isAscii = true)
    (before : List Char) : Text.lowerFrom before cs = cs.map Text.lowerAscii := by
  induction cs generalizing before with
  | nil => rfl
  | cons c rest ih =>
    rw [List.all_cons, Bool.and_eq_true] at ascii
    have plain : (c == 'Σ') = false :=
      ascii_forall (p := fun c => (c == 'Σ') = false) (by decide +kernel) ascii.1
    rw [Text.lowerFrom, plain, lowerChar_ascii ascii.1, ih ascii.2]
    rfl

theorem lower_ascii {cs : List Char} (ascii : cs.all Text.isAscii = true) :
    Text.lower cs = cs.map Text.lowerAscii := lowerFrom_ascii ascii []

theorem ascii_of_parts {cs : List Char} (parts : cs.all isNamePart = true) :
    cs.all Text.isAscii = true :=
  List.all_eq_true.mpr fun c inside => isAscii_of_part (List.all_eq_true.mp parts c inside)

theorem lower_parts {cs : List Char} (parts : cs.all isNamePart = true) :
    Text.lower cs = cs.map Text.lowerAscii := lower_ascii (ascii_of_parts parts)

theorem part_lowerAscii (part : isNamePart c = true) : isNamePart (Text.lowerAscii c) = true :=
  part_forall (p := fun c => isNamePart (Text.lowerAscii c) = true) (by decide +kernel) part

theorem parts_lower {cs : List Char} (parts : cs.all isNamePart = true) :
    (Text.lower cs).all isNamePart = true := by
  rw [lower_parts parts, List.all_map]
  exact List.all_eq_true.mpr fun c inside => part_lowerAscii (List.all_eq_true.mp parts c inside)

theorem lowerAscii_ne_underscore (part : isNamePart c = true) (letter : isSeparator c = false) :
    Text.lowerAscii c ≠ '_' := by
  revert letter
  exact part_forall (p := fun c => isSeparator c = false → Text.lowerAscii c ≠ '_')
    (by decide +kernel) part

-- What stands first in Pascal case: no letter is small there.
def isCapitalOrDigit (c : Char) : Bool := Text.isAsciiUpper c || Text.isAsciiDigit c

theorem capital_upperAscii (part : isNamePart c = true) (letter : isSeparator c = false) :
    isCapitalOrDigit (Text.upperAscii c) = true ∧ isNamePart (Text.upperAscii c) = true := by
  revert letter
  exact part_forall (p := fun c => isSeparator c = false →
    isCapitalOrDigit (Text.upperAscii c) = true ∧ isNamePart (Text.upperAscii c) = true)
    (by decide +kernel) part

end Casing

section Fields

theorem parts_snakeCase {cs : List Char} (parts : cs.all isNamePart = true) :
    (snakeCase cs).all isNamePart = true := by
  refine List.all_eq_true.mpr fun c inside => ?_
  rcases mem_intercalate inside with between | ⟨row, among, its⟩
  · cases List.mem_singleton.mp between
    decide
  · obtain ⟨word, there, rfl⟩ := List.mem_map.mp among
    exact List.all_eq_true.mp (parts_lower (all_of_mem_words parts there)) c its

theorem joinable_words {cs : List Char} (parts : cs.all isNamePart = true) :
    Joinable ((words cs).map Text.lower) := by
  constructor
  · intro row inside
    obtain ⟨word, there, rfl⟩ := List.mem_map.mp inside
    rw [lower_parts (all_of_mem_words parts there)]
    exact List.map_eq_nil_iff.not.mpr (solid_of_mem_words there).1
  · intro row inside under
    obtain ⟨word, there, rfl⟩ := List.mem_map.mp inside
    have known := all_of_mem_words parts there
    rw [lower_parts known, List.mem_map] at under
    obtain ⟨c, its, same⟩ := under
    exact lowerAscii_ne_underscore (List.all_eq_true.mp known c its)
      ((solid_of_mem_words there).2 c its) same

-- Underscores in front of a name are not part of its snake case.
theorem exists_snakeCase {cs : List Char} (parts : cs.all isNamePart = true)
    (filled : snakeCase cs ≠ []) : ∃ c rest, snakeCase cs = c :: rest ∧ c ≠ '_' := by
  refine (joinable_words parts).exists_cons fun none => filled ?_
  rw [snakeCase, none]
  rfl

-- A name that begins with a letter still does so in snake case.
theorem snakeCase_letter {c : Char} {rest : List Char} (parts : (c :: rest).all isNamePart = true)
    (letter : isSeparator c = false) :
    ∃ others, snakeCase (c :: rest) = Text.lowerAscii c :: others ∧
      others.all isNamePart = true := by
  obtain ⟨more, others, same⟩ := wordsFrom_held (List.cons_ne_nil c []) rest
  have words : words (c :: rest) = (c :: more) :: others := by
    rw [words, wordsFrom, letter]
    exact same
  have lowered := lower_parts (all_of_mem_words parts (words ▸ List.mem_cons_self ..))
  have first : ∃ others, snakeCase (c :: rest) = Text.lowerAscii c :: others := by
    rw [snakeCase, words, List.map_cons, lowered, List.map_cons]
    cases others with
    | nil => exact ⟨_, rfl⟩
    | cons next others => exact ⟨_, rfl⟩
  obtain ⟨others, same⟩ := first
  have all := parts_snakeCase parts
  rw [same, List.all_cons, Bool.and_eq_true] at all
  exact ⟨others, same, all.2⟩

-- Underscores in front make a name of whatever stands behind them.
theorem isName_underscores {cs others : List Char} (under : ∀ c ∈ cs, (c == '_') = true)
    (some : cs ≠ []) (parts : others.all isNamePart = true) : isName (cs ++ others) = true := by
  cases cs with
  | nil => exact (some rfl).elim
  | cons c rest =>
    have only : ∀ d ∈ c :: rest, d = '_' := fun d inside => beq_iff_eq.mp (under d inside)
    have front : rest.all isNamePart = true := List.all_eq_true.mpr fun d inside => by
      rw [only d (List.mem_cons_of_mem _ inside)]
      decide
    rw [List.cons_append, isName, only c (List.mem_cons_self ..), List.all_append, front, parts]
    decide

theorem legal_escapeKeyword {cs : List Char} (name : isName cs = true) (other : cs ≠ ['_']) :
    Legal (String.ofList (escapeKeyword cs)) := by
  have word : IsName (String.ofList cs) := by rwa [IsName, String.toList_ofList]
  rw [escapeKeyword]
  split
  · rename_i known
    have lengthened : ∀ keyword ∈ unescapable,
        IsName (keyword ++ "_") ∧ Source.isKeyword (keyword ++ "_") = false := by decide +kernel
    obtain ⟨its, free⟩ := lengthened _ (List.contains_iff_mem.mp known)
    rw [String.ofList_append]
    exact .word its free
  · rename_i escapable
    rw [Source.isIdentifier_name name]
    split
    · rename_i free
      exact .word word (Bool.not_eq_true' _ ▸ free)
    · rename_i keyword
      have known : Source.isKeyword (String.ofList cs) = true := by simpa using keyword
      have written : String.ofList (['r', '#'] ++ cs) = "r#" ++ String.ofList cs :=
        String.ofList_append
      refine .raw (List.contains_iff_mem.mp known) (fun never => ?_) written
      have others : ∀ keyword ∈ Source.Lexeme.neverRaw, keyword = "_" ∨ keyword ∈ unescapable := by
        decide
      rcases others _ never with alone | there
      · exact other (String.ofList_injective alone)
      · exact escapable (List.contains_iff_mem.mpr there)

-- What a field is called as long as that is no keyword.
def stem (cs : List Char) : List Char :=
  if (snakeCase cs).isEmpty then "field".toList else cs.takeWhile (· == '_') ++ snakeCase cs

theorem fieldIdentifierChars_eq (cs : List Char) :
    fieldIdentifierChars cs = escapeKeyword (stem cs) := by
  rw [fieldIdentifierChars, stem]
  split
  · decide +kernel
  · rfl

theorem isName_stem {cs : List Char} (name : isName cs = true) : isName (stem cs) = true := by
  rw [stem]
  split
  · decide +kernel
  · cases cs with
    | nil => cases name
    | cons c rest =>
      have parts := parts_of_name name
      by_cases under : (c == '_') = true
      · refine isName_underscores (fun d => List.mem_takeWhile_imp) ?_ (parts_snakeCase parts)
        rw [List.takeWhile_cons, if_pos under]
        exact List.cons_ne_nil _ _
      · have first := (Bool.and_eq_true _ _ ▸ name).1
        have letter : isSeparator c = false :=
          start_forall (p := fun c => ¬(c == '_') = true → isSeparator c = false)
            (by decide +kernel) first under
        have start : isNameStart (Text.lowerAscii c) = true :=
          start_forall (p := fun c => isNameStart (Text.lowerAscii c) = true) (by decide +kernel)
            first
        obtain ⟨others, same, its⟩ := snakeCase_letter parts letter
        rw [List.takeWhile_cons, if_neg under, List.nil_append, same, isName, start, its,
          Bool.and_self]

theorem getLast?_stem {cs : List Char} (parts : cs.all isNamePart = true) :
    (stem cs).getLast? ≠ some '_' := by
  rw [stem]
  split
  · decide +kernel
  · rename_i filled
    obtain ⟨c, rest, begins, _⟩ := exists_snakeCase parts (List.isEmpty_iff.not.mp filled)
    have last := (joinable_words parts).getLast?_ne
    rw [← snakeCase, begins, List.getLast?_cons] at last
    rw [begins, List.getLast?_append, List.getLast?_cons, Option.some_or]
    exact last

-- A name that does not end in an underscore, so that one more tells it from all others.
structure IsStem (cs : List Char) : Prop where
  name : isName cs = true
  closed : cs.getLast? ≠ some '_'

theorem isStem_stem {cs : List Char} (name : isName cs = true) : IsStem (stem cs) :=
  ⟨isName_stem name, getLast?_stem (parts_of_name name)⟩

theorem IsStem.ne_underscore {cs : List Char} (its : IsStem cs) : cs ≠ ['_'] := by
  rintro rfl
  exact its.closed rfl

theorem legal_fieldIdentifier (name : IsName fieldName) : Legal (fieldIdentifier fieldName) := by
  rw [fieldIdentifier, fieldIdentifierChars_eq]
  have its := isStem_stem name
  exact legal_escapeKeyword its.name its.ne_underscore

end Fields

section Values

theorem parts_capitalize {word : List Char} (parts : word.all isNamePart = true)
    (letters : ∀ c ∈ word, isSeparator c = false) :
    (capitalize word).all isNamePart = true := by
  cases word with
  | nil => rfl
  | cons c rest =>
    rw [List.all_cons, Bool.and_eq_true] at parts
    have first := (capital_upperAscii parts.1 (letters c (List.mem_cons_self ..))).2
    rw [capitalize, upperChar_ascii (isAscii_of_part parts.1), List.all_append, parts_lower parts.2,
      List.all_cons, first]
    rfl

theorem parts_pascalCase {cs : List Char} (parts : cs.all isNamePart = true) :
    (pascalCase cs).all isNamePart = true := by
  refine List.all_eq_true.mpr fun c inside => ?_
  obtain ⟨word, there, its⟩ := List.mem_flatMap.mp inside
  exact List.all_eq_true.mp (parts_capitalize (all_of_mem_words parts there)
    (solid_of_mem_words there).2) c its

theorem pascalCase_head {cs : List Char} (parts : cs.all isNamePart = true) :
    (pascalCase cs).head?.all isCapitalOrDigit = true := by
  rw [pascalCase]
  cases found : words cs with
  | nil => rfl
  | cons word others =>
    have there : word ∈ words cs := found ▸ List.mem_cons_self ..
    obtain ⟨some, letters⟩ := solid_of_mem_words there
    have known := all_of_mem_words parts there
    cases word with
    | nil => exact (some rfl).elim
    | cons c rest =>
      rw [List.all_cons, Bool.and_eq_true] at known
      have first := (capital_upperAscii known.1 (letters c (List.mem_cons_self ..))).1
      rw [List.flatMap_cons, capitalize, upperChar_ascii (isAscii_of_part known.1)]
      exact first

theorem isName_enumValueIdentifier (owner : IsName enumName) (name : IsName value) :
    IsName (enumValueIdentifier enumName value) := by
  have parts := parts_pascalCase (parts_of_name name)
  rw [IsName] at owner
  rw [IsName, enumValueIdentifier, String.toList_append, String.toList_ofList]
  cases chars : enumName.toList with
  | nil =>
    rw [chars] at owner
    cases owner
  | cons c rest =>
    rw [chars, isName, Bool.and_eq_true] at owner
    rw [List.cons_append, isName, List.all_append, owner.1, owner.2, parts]
    rfl

-- No keyword has a capital or a digit behind its first letter.
theorem isKeyword_owner (owner : IsName enumName) (name : IsName value)
    (known : Source.isKeyword (enumValueIdentifier enumName value) = true) :
    Source.isKeyword enumName = true := by
  have small : ∀ keyword ∈ Source.keywords,
      keyword.toList.tail.all (!isCapitalOrDigit ·) = true := by decide +kernel
  have head := pascalCase_head (parts_of_name name)
  have letters := small _ (List.contains_iff_mem.mp known)
  rw [IsName] at owner
  rw [enumValueIdentifier, String.toList_append, String.toList_ofList] at letters
  cases pascal : pascalCase value.toList with
  | nil =>
    rw [enumValueIdentifier, pascal] at known
    rwa [show enumName ++ String.ofList [] = enumName from String.append_empty] at known
  | cons c rest =>
    rw [pascal] at head letters
    cases chars : enumName.toList with
    | nil =>
      rw [chars] at owner
      cases owner
    | cons d others =>
      rw [chars, List.cons_append, List.tail_cons] at letters
      have plain := List.all_eq_true.mp letters c (List.mem_append_right _ (List.mem_cons_self ..))
      rw [Bool.not_eq_true'] at plain
      rw [List.head?_cons, Option.all_some, plain] at head
      cases head

theorem legal_enumValueIdentifier (owner : IsName enumName) (name : IsName value)
    (free : Source.isKeyword enumName = false) : Legal (enumValueIdentifier enumName value) := by
  refine .word (isName_enumValueIdentifier owner name) (Bool.eq_false_iff.mpr fun known => ?_)
  rw [isKeyword_owner owner name known] at free
  cases free

end Values
end SchemaBindings.Naming
