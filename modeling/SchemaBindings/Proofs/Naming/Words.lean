import SchemaBindings.Naming
import SchemaBindings.Proofs.Text.Lines

namespace SchemaBindings.Naming

def isNameStart (c : Char) : Bool := Text.isAsciiLetter c || c == '_'

def isNamePart (c : Char) : Bool := isNameStart c || Text.isAsciiDigit c

def isName : List Char → Bool
  | [] => false
  | c :: rest => isNameStart c && rest.all isNamePart

def IsName (name : String) : Prop := isName name.toList = true

instance (name : String) : Decidable (IsName name) := inferInstanceAs (Decidable (_ = true))

section Characters
variable {c : Char}

theorem ascii_of_letter (letter : Text.isAsciiLetter c = true) : c.toNat < 128 := by
  simp only [Text.isAsciiLetter, Text.isAsciiUpper, Text.isAsciiLower, Bool.or_eq_true,
    Bool.and_eq_true, decide_eq_true_eq, Char.le_def, UInt32.le_iff_toNat_le] at letter
  rcases letter with ⟨_, high⟩ | ⟨_, high⟩
  · exact Nat.lt_of_le_of_lt high (by decide)
  · exact Nat.lt_of_le_of_lt high (by decide)

theorem ascii_of_part (part : isNamePart c = true) : c.toNat < 128 := by
  simp only [isNamePart, isNameStart, Bool.or_eq_true, beq_iff_eq] at part
  rcases part with (letter | rfl) | digit
  · exact ascii_of_letter letter
  · decide
  · simp only [Text.isAsciiDigit, Bool.and_eq_true, decide_eq_true_eq, Char.le_def,
      UInt32.le_iff_toNat_le] at digit
    exact Nat.lt_of_le_of_lt digit.2 (by decide)

theorem part_of_start (start : isNameStart c = true) : isNamePart c = true := by
  rw [isNamePart, start, Bool.true_or]

theorem isAscii_of_part (part : isNamePart c = true) : Text.isAscii c = true :=
  decide_eq_true (ascii_of_part part)

-- What holds of all characters of a small alphabet can be tried out.
theorem ascii_forall {p : Char → Prop} (low : ∀ n < 128, p (Char.ofNat n))
    (ascii : Text.isAscii c = true) : p c := by
  simpa using low c.toNat (of_decide_eq_true ascii)

theorem part_forall {p : Char → Prop}
    (low : ∀ n < 128, isNamePart (Char.ofNat n) = true → p (Char.ofNat n))
    (part : isNamePart c = true) : p c :=
  ascii_forall (p := fun c => isNamePart c = true → p c) low (isAscii_of_part part) part

theorem start_forall {p : Char → Prop}
    (low : ∀ n < 128, isNameStart (Char.ofNat n) = true → p (Char.ofNat n))
    (start : isNameStart c = true) : p c := by
  simpa [start] using low c.toNat (ascii_of_part (part_of_start start))

theorem isIdentifierPart_of_part (part : isNamePart c = true) : Text.isIdentifierPart c = true :=
  part_forall (p := fun c => Text.isIdentifierPart c = true) (by decide +kernel) part

theorem isIdentifierStart_of_start (start : isNameStart c = true) :
    Text.isIdentifierStart c = true :=
  start_forall (p := fun c => Text.isIdentifierStart c = true) (by decide +kernel) start

end Characters

theorem parts_of_name {cs : List Char} (name : isName cs = true) : cs.all isNamePart = true := by
  cases cs with
  | nil => cases name
  | cons c rest =>
    rw [isName, Bool.and_eq_true] at name
    rw [List.all_cons, part_of_start name.1, name.2, Bool.and_self]

structure Joinable (rows : List (List Char)) : Prop where
  filled : ∀ row ∈ rows, row ≠ []
  plain : ∀ row ∈ rows, '_' ∉ row

namespace Joinable
variable {rows others : List (List Char)}

theorem tail (joinable : Joinable (row :: rows)) : Joinable rows :=
  ⟨fun other inside => joinable.filled other (List.mem_cons_of_mem _ inside),
    fun other inside => joinable.plain other (List.mem_cons_of_mem _ inside)⟩

theorem first_ne (joinable : Joinable ((c :: cs) :: rows)) : c ≠ '_' := by
  intro same
  exact joinable.plain (c :: cs) (List.mem_cons_self ..) (same ▸ List.mem_cons_self ..)

-- Whatever follows the first word, the whole begins with its first character.
theorem exists_cons (joinable : Joinable rows) (some : rows ≠ []) :
    ∃ c rest, ['_'].intercalate rows = c :: rest ∧ c ≠ '_' := by
  cases rows with
  | nil => exact (some rfl).elim
  | cons row rows =>
    cases row with
    | nil => exact (joinable.filled [] (List.mem_cons_self ..) rfl).elim
    | cons c cs =>
      cases rows with
      | nil => exact ⟨c, cs, List.intercalate_singleton, joinable.first_ne⟩
      | cons next rows =>
        refine ⟨c, cs ++ ['_'] ++ ['_'].intercalate (next :: rows), ?_, joinable.first_ne⟩
        rw [List.intercalate_cons_cons]
        simp

theorem eq_nil_iff (joinable : Joinable rows) : ['_'].intercalate rows = [] ↔ rows = [] := by
  constructor
  · intro empty
    by_cases none : rows = []
    · exact none
    · obtain ⟨c, rest, begins, _⟩ := joinable.exists_cons none
      rw [begins] at empty
      cases empty
  · rintro rfl
    rfl

theorem getLast?_ne (joinable : Joinable rows) : (['_'].intercalate rows).getLast? ≠ some '_' := by
  intro last
  induction rows with
  | nil => cases last
  | cons row rows ih =>
    cases rows with
    | nil =>
      rw [List.intercalate_singleton] at last
      exact joinable.plain row (List.mem_cons_self ..) (List.mem_of_getLast? last)
    | cons next rows =>
      obtain ⟨c, rest, begins, _⟩ := joinable.tail.exists_cons (List.cons_ne_nil next rows)
      refine ih joinable.tail ?_
      rw [List.intercalate_cons_cons, begins, List.getLast?_append, List.getLast?_cons,
        Option.some_or] at last
      rw [begins, List.getLast?_cons, last]

theorem injective (first : Joinable rows) (second : Joinable others)
    (same : ['_'].intercalate rows = ['_'].intercalate others) : rows = others := by
  by_cases none : rows = []
  · subst none
    exact (second.eq_nil_iff.mp same.symm).symm
  · have some : others ≠ [] := by
      intro empty
      rw [empty] at same
      exact none (first.eq_nil_iff.mp same)
    rw [← List.splitOn_intercalate '_' first.plain none, same,
      List.splitOn_intercalate '_' second.plain some]

end Joinable

-- The words of a name are made of its characters.
theorem mem_of_mem_wordsFrom {word : List Char} (inside : word ∈ wordsFrom held cs)
    (there : c ∈ word) : c ∈ held ∨ c ∈ cs := by
  induction cs generalizing held with
  | nil =>
    rw [wordsFrom] at inside
    split at inside
    · cases inside
    · rw [List.mem_singleton.mp inside] at there
      exact .inl (List.mem_reverse.mp there)
  | cons d rest ih =>
    have closed (same : word = held.reverse) : c ∈ held ∨ c ∈ d :: rest := by
      rw [same] at there
      exact .inl (List.mem_reverse.mp there)
    have opened (kept : List Char) (known : ∀ e ∈ kept, e ∈ held ∨ e = d)
        (found : word ∈ wordsFrom kept rest) : c ∈ held ∨ c ∈ d :: rest := by
      rcases ih found with before | behind
      · rcases known c before with earlier | rfl
        · exact .inl earlier
        · exact .inr (List.mem_cons_self ..)
      · exact .inr (List.mem_cons_of_mem _ behind)
    unfold wordsFrom at inside
    split at inside
    · split at inside
      · exact opened [] nofun inside
      · rcases List.mem_cons.mp inside with same | inside
        · exact closed same
        · exact opened [] nofun inside
    · split at inside
      · exact opened [d] (by simp) inside
      · split at inside
        · rcases List.mem_cons.mp inside with same | inside
          · exact closed same
          · exact opened [d] (by simp) inside
        · exact opened _ (by simp [or_comm]) inside

theorem noBreak_words (unbroken : '\n' ∉ cs) : ∀ word ∈ words cs, '\n' ∉ word := by
  intro word inside there
  rcases mem_of_mem_wordsFrom inside there with none | some
  · cases none
  · exact unbroken some

theorem mem_intercalate {sep : List Char} {rows : List (List Char)}
    (inside : c ∈ sep.intercalate rows) : c ∈ sep ∨ ∃ row ∈ rows, c ∈ row := by
  induction rows with
  | nil => cases inside
  | cons row rest ih =>
    cases rest with
    | nil => exact .inr ⟨row, List.mem_cons_self .., by simpa using inside⟩
    | cons next others =>
      rw [List.intercalate_cons_cons, List.mem_append, List.mem_append] at inside
      rcases inside with (here | between) | later
      · exact .inr ⟨row, List.mem_cons_self .., here⟩
      · exact .inl between
      · exact (ih later).imp_right fun ⟨row, among, its⟩ => ⟨row, List.mem_cons_of_mem _ among, its⟩

theorem noBreak_snakeCase (unbroken : '\n' ∉ cs) : '\n' ∉ snakeCase cs := by
  intro inside
  rcases mem_intercalate inside with between | ⟨row, among, its⟩
  · cases List.mem_singleton.mp between
  · obtain ⟨word, there, rfl⟩ := List.mem_map.mp among
    exact Text.noBreak_lower (noBreak_words unbroken word there) its

theorem noBreak_capitalize {word : List Char} (unbroken : '\n' ∉ word) : '\n' ∉ capitalize word := by
  cases word with
  | nil => exact nofun
  | cons first rest =>
    have other := List.ne_of_not_mem_cons unbroken
    exact List.not_mem_append (Text.noBreak_upperChar (Ne.symm other))
      (Text.noBreak_lower (List.not_mem_of_not_mem_cons unbroken))

theorem noBreak_pascalCase (unbroken : '\n' ∉ cs) : '\n' ∉ pascalCase cs := by
  intro inside
  obtain ⟨word, there, its⟩ := List.mem_flatMap.mp inside
  exact noBreak_capitalize (noBreak_words unbroken word there) its

theorem noBreak_enumValueIdentifier (owner : '\n' ∉ enumName.toList)
    (unbroken : '\n' ∉ value.toList) : '\n' ∉ (enumValueIdentifier enumName value).toList := by
  rw [enumValueIdentifier, String.toList_append, String.toList_ofList]
  exact List.not_mem_append owner (noBreak_pascalCase unbroken)

theorem noBreak_escapeKeyword {name : List Char} (unbroken : '\n' ∉ name) :
    '\n' ∉ escapeKeyword name := by
  rw [escapeKeyword]
  split
  · simpa using unbroken
  · split
    · exact unbroken
    · simpa using unbroken

theorem noBreak_fieldIdentifier (unbroken : '\n' ∉ name.toList) :
    '\n' ∉ (fieldIdentifier name).toList := by
  rw [fieldIdentifier, String.toList_ofList, fieldIdentifierChars]
  split
  · decide
  · apply noBreak_escapeKeyword
    refine List.not_mem_append (fun front => ?_) (noBreak_snakeCase unbroken)
    exact unbroken ((List.takeWhile_sublist _).subset front)

end SchemaBindings.Naming
