import SchemaBindings.Proofs.Naming.Splitting

namespace SchemaBindings.Naming

section Characters
variable {c : Char}

-- Only the last change of case counts.
structure Recased (c : Char) : Prop where
  lowerLower : Text.lowerAscii (Text.lowerAscii c) = Text.lowerAscii c
  lowerUpper : Text.lowerAscii (Text.upperAscii c) = Text.lowerAscii c
  upperLower : Text.upperAscii (Text.lowerAscii c) = Text.upperAscii c
  lowered : Text.isAscii (Text.lowerAscii c) = true
  raised : Text.isAscii (Text.upperAscii c) = true

theorem recased_ascii (ascii : Text.isAscii c = true) : Recased c := by
  have all : Text.lowerAscii (Text.lowerAscii c) = Text.lowerAscii c ∧
      Text.lowerAscii (Text.upperAscii c) = Text.lowerAscii c ∧
      Text.upperAscii (Text.lowerAscii c) = Text.upperAscii c ∧
      Text.isAscii (Text.lowerAscii c) = true ∧ Text.isAscii (Text.upperAscii c) = true :=
    ascii_forall (p := fun c => Text.lowerAscii (Text.lowerAscii c) = Text.lowerAscii c ∧
      Text.lowerAscii (Text.upperAscii c) = Text.lowerAscii c ∧
      Text.upperAscii (Text.lowerAscii c) = Text.upperAscii c ∧
      Text.isAscii (Text.lowerAscii c) = true ∧ Text.isAscii (Text.upperAscii c) = true)
      (by decide +kernel) ascii
  obtain ⟨lowerLower, lowerUpper, upperLower, lowered, raised⟩ := all
  exact ⟨lowerLower, lowerUpper, upperLower, lowered, raised⟩

theorem inner_lowerAscii (ascii : Text.isAscii c = true) (letter : isSeparator c = false) :
    Inner (Text.lowerAscii c) := by
  have both : isSeparator (Text.lowerAscii c) = false ∧ Text.isUpper (Text.lowerAscii c) = false := by
    revert letter
    exact ascii_forall (p := fun c => isSeparator c = false →
      isSeparator (Text.lowerAscii c) = false ∧ Text.isUpper (Text.lowerAscii c) = false)
      (by decide +kernel) ascii
  exact ⟨both.1, both.2⟩

theorem letter_upperAscii (ascii : Text.isAscii c = true) (letter : isSeparator c = false) :
    isSeparator (Text.upperAscii c) = false := by
  revert letter
  exact ascii_forall (p := fun c => isSeparator c = false → isSeparator (Text.upperAscii c) = false)
    (by decide +kernel) ascii

theorem part_of_letter (known : Text.isAsciiLetter c = true ∨ Text.isAsciiDigit c = true) :
    isNamePart c = true := by
  rcases known with letter | digit
  · simp [isNamePart, isNameStart, letter]
  · simp [isNamePart, digit]

theorem part_of_capital (capital : Text.isAsciiUpper c = true) : isNamePart c = true :=
  part_of_letter (.inl (by simp [Text.isAsciiLetter, capital]))

structure Capital (c : Char) : Prop where
  letter : isSeparator c = false
  upper : Text.isUpper c = true
  lower : Text.isLower c = false
  digit : Text.isAsciiDigit c = false
  kept : Text.upperAscii c = c
  lowered : Text.isLower (Text.lowerAscii c) = true
  back : Text.upperAscii (Text.lowerAscii c) = c

theorem capital_of_upper (capital : Text.isAsciiUpper c = true) : Capital c := by
  have all : isSeparator c = false ∧ Text.isUpper c = true ∧ Text.isLower c = false ∧
      Text.isAsciiDigit c = false ∧ Text.upperAscii c = c ∧
      Text.isLower (Text.lowerAscii c) = true ∧ Text.upperAscii (Text.lowerAscii c) = c := by
    have part := part_of_capital capital
    revert capital
    exact part_forall (p := fun c => Text.isAsciiUpper c = true →
      isSeparator c = false ∧ Text.isUpper c = true ∧ Text.isLower c = false ∧
      Text.isAsciiDigit c = false ∧ Text.upperAscii c = c ∧
      Text.isLower (Text.lowerAscii c) = true ∧ Text.upperAscii (Text.lowerAscii c) = c)
      (by decide +kernel) part
  obtain ⟨letter, upper, lower, digit, kept, lowered, back⟩ := all
  exact ⟨letter, upper, lower, digit, kept, lowered, back⟩

end Characters

section Words
variable {row : List Char}

theorem ascii_lowered (ascii : row.all Text.isAscii = true) :
    (row.map Text.lowerAscii).all Text.isAscii = true := by
  rw [List.all_map]
  exact List.all_eq_true.mpr fun c inside => (recased_ascii (List.all_eq_true.mp ascii c inside)).lowered

theorem lowered_lowered (ascii : row.all Text.isAscii = true) :
    (row.map Text.lowerAscii).map Text.lowerAscii = row.map Text.lowerAscii := by
  rw [List.map_map]
  exact List.map_congr_left fun c inside =>
    (recased_ascii (List.all_eq_true.mp ascii c inside)).lowerLower

theorem lower_lower (ascii : row.all Text.isAscii = true) :
    Text.lower (Text.lower row) = Text.lower row := by
  rw [lower_ascii ascii, lower_ascii (ascii_lowered ascii), lowered_lowered ascii]

theorem capitalize_ascii (ascii : (c :: tail).all Text.isAscii = true) :
    capitalize (c :: tail) = Text.upperAscii c :: tail.map Text.lowerAscii := by
  rw [List.all_cons, Bool.and_eq_true] at ascii
  rw [capitalize, upperChar_ascii ascii.1, lower_ascii ascii.2]
  rfl

theorem lower_capitalize (ascii : row.all Text.isAscii = true) :
    Text.lower (capitalize row) = Text.lower row := by
  cases row with
  | nil => rfl
  | cons c tail =>
    have known := ascii
    rw [List.all_cons, Bool.and_eq_true] at known
    have first := recased_ascii known.1
    have all : (Text.upperAscii c :: tail.map Text.lowerAscii).all Text.isAscii = true := by
      rw [List.all_cons, first.raised, ascii_lowered known.2, Bool.and_self]
    rw [capitalize_ascii ascii, lower_ascii all, lower_ascii ascii, List.map_cons, List.map_cons,
      first.lowerUpper, lowered_lowered known.2]

theorem capitalize_lower (ascii : row.all Text.isAscii = true) :
    capitalize (Text.lower row) = capitalize row := by
  rw [lower_ascii ascii]
  have lowered := ascii_lowered ascii
  cases row with
  | nil => rfl
  | cons c tail =>
    rw [List.map_cons] at lowered ⊢
    rw [capitalize_ascii lowered, capitalize_ascii ascii]
    rw [List.all_cons, Bool.and_eq_true] at ascii
    rw [(recased_ascii ascii.1).upperLower, lowered_lowered ascii.2]

-- Behind its first letter, which is whatever it is, a word in small letters opens no other word.
theorem opened_lowered {first : Char} (letter : isSeparator first = false)
    (ascii : row.all Text.isAscii = true) (letters : ∀ c ∈ row, isSeparator c = false) :
    Opened (first :: row.map Text.lowerAscii) := by
  refine .mk letter fun d inside => ?_
  obtain ⟨e, there, rfl⟩ := List.mem_map.mp inside
  exact inner_lowerAscii (List.all_eq_true.mp ascii e there) (letters e there)

theorem opened_capitalize (some : row ≠ []) (ascii : row.all Text.isAscii = true)
    (letters : ∀ c ∈ row, isSeparator c = false) : Opened (capitalize row) := by
  obtain ⟨c, tail, rfl⟩ := List.exists_cons_of_ne_nil some
  obtain ⟨letter, others⟩ := List.forall_mem_cons.mp letters
  rw [capitalize_ascii ascii]
  rw [List.all_cons, Bool.and_eq_true] at ascii
  exact opened_lowered (letter_upperAscii ascii.1 letter) ascii.2 others

theorem opened_lower (some : row ≠ []) (ascii : row.all Text.isAscii = true)
    (letters : ∀ c ∈ row, isSeparator c = false) : Opened (Text.lower row) := by
  obtain ⟨c, tail, rfl⟩ := List.exists_cons_of_ne_nil some
  obtain ⟨letter, others⟩ := List.forall_mem_cons.mp letters
  rw [lower_ascii ascii, List.map_cons]
  rw [List.all_cons, Bool.and_eq_true] at ascii
  exact opened_lowered (inner_lowerAscii ascii.1 letter).letter ascii.2 others

end Words

section Names
variable {cs ds : List Char}

theorem words_snakeCase (ascii : cs.all Text.isAscii = true) :
    words (snakeCase cs) = (words cs).map Text.lower := by
  refine words_intercalate fun row inside => ?_
  obtain ⟨word, there, rfl⟩ := List.mem_map.mp inside
  obtain ⟨some, letters⟩ := solid_of_mem_words there
  exact (opened_lower some (all_of_mem_words ascii there) letters).whole

theorem snakeCase_snakeCase (ascii : cs.all Text.isAscii = true) :
    snakeCase (snakeCase cs) = snakeCase cs := by
  have kept : ((words cs).map Text.lower).map Text.lower = (words cs).map Text.lower := by
    rw [List.map_map]
    exact List.map_congr_left fun word inside => lower_lower (all_of_mem_words ascii inside)
  rw [snakeCase, words_snakeCase ascii, kept, snakeCase]

theorem pascalCase_snakeCase (ascii : cs.all Text.isAscii = true) :
    pascalCase (snakeCase cs) = pascalCase cs := by
  rw [pascalCase, words_snakeCase ascii, List.flatMap_map, pascalCase]
  exact List.flatMap_congr fun word inside => capitalize_lower (all_of_mem_words ascii inside)

end Names

-- Snake case has the words of the name, in small letters; so it is its own snake case, and it has
-- the Pascal case of the name. Names that agree in snake case agree in Pascal case.
theorem casings_agree {cs : List Char} (ascii : cs.all Text.isAscii = true) :
    words (snakeCase cs) = (words cs).map Text.lower ∧
    snakeCase (snakeCase cs) = snakeCase cs ∧
    pascalCase (snakeCase cs) = pascalCase cs ∧
    ∀ ds, ds.all Text.isAscii = true → snakeCase ds = snakeCase cs →
      pascalCase ds = pascalCase cs := by
  refine ⟨words_snakeCase ascii, snakeCase_snakeCase ascii, pascalCase_snakeCase ascii, ?_⟩
  intro ds other same
  rw [← pascalCase_snakeCase other, same, pascalCase_snakeCase ascii]

-- An acronym, a digit before a capital, a sign that is no separator, and separators at both ends.
theorem casings_agree_acronym :
    "-HTTPServer_v2X.y--".toList.all Text.isAscii = true ∧
    words (snakeCase "-HTTPServer_v2X.y--".toList) =
      ["http".toList, "server".toList, "v2".toList, "x.y".toList] ∧
    snakeCase (snakeCase "-HTTPServer_v2X.y--".toList) = "http_server_v2_x.y".toList ∧
    pascalCase (snakeCase "-HTTPServer_v2X.y--".toList) = "HttpServerV2X.y".toList ∧
    pascalCase "http_Server__V2_X.Y".toList = pascalCase "-HTTPServer_v2X.y--".toList := by
  have ascii : "-HTTPServer_v2X.y--".toList.all Text.isAscii = true := by decide +kernel
  obtain ⟨words, snake, pascal, same⟩ := casings_agree ascii
  refine ⟨ascii, ?_, ?_, ?_, same _ (by decide +kernel) (by decide +kernel)⟩
  · rw [words]
    decide +kernel
  · rw [snake]
    decide +kernel
  · rw [pascal]
    decide +kernel

end SchemaBindings.Naming
