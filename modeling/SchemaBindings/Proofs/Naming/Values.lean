import SchemaBindings.Proofs.Binding.Emission
import SchemaBindings.Proofs.Naming.Casing

namespace SchemaBindings.Naming

-- One capital or more, and behind the capitals nothing but digits.
def isValueWord (row : List Char) : Bool :=
  row.head?.any Text.isAsciiUpper && (row.dropWhile Text.isAsciiUpper).all Text.isAsciiDigit

-- A letter that stands alone would run together with a single letter behind it.
structure ValueWords (rows : List (List Char)) : Prop where
  filled : rows ≠ []
  words : ∀ row ∈ rows, isValueWord row = true
  apart : rows.IsChain fun row next =>
    row.length = 1 → (next.filter Text.isAsciiUpper).length ≠ 1

def IsValueName (name : String) : Prop :=
  ∃ rows, ValueWords rows ∧ name.toList = ['_'].intercalate rows

section Characters
variable {c : Char}

theorem part_of_digit (digit : Text.isAsciiDigit c = true) : isNamePart c = true :=
  part_of_letter (.inr digit)

structure Digit (c : Char) : Prop where
  inner : Inner c
  lower : Text.isLower c = false
  upper : Text.isAsciiUpper c = false
  kept : Text.lowerAscii c = c
  back : Text.upperAscii c = c

theorem digit_of_digit (digit : Text.isAsciiDigit c = true) : Digit c := by
  have all : isSeparator c = false ∧ Text.isUpper c = false ∧ Text.isLower c = false ∧
      Text.isAsciiUpper c = false ∧ Text.lowerAscii c = c ∧ Text.upperAscii c = c := by
    have part := part_of_digit digit
    revert digit
    exact part_forall (p := fun c => Text.isAsciiDigit c = true →
      isSeparator c = false ∧ Text.isUpper c = false ∧ Text.isLower c = false ∧
      Text.isAsciiUpper c = false ∧ Text.lowerAscii c = c ∧ Text.upperAscii c = c)
      (by decide +kernel) part
  obtain ⟨letter, small, lower, upper, kept, back⟩ := all
  exact ⟨⟨letter, small⟩, lower, upper, kept, back⟩

end Characters

section Words
variable {row next : List Char}

-- The word in its parts: the first capital, the others, and the digits.
inductive Shape : List Char → Prop where
  | mk (first : Text.isAsciiUpper c = true) (capitals : ∀ d ∈ more, Text.isAsciiUpper d = true)
      (digits : ∀ d ∈ numbers, Text.isAsciiDigit d = true) : Shape (c :: (more ++ numbers))

theorem shape_of_word (word : isValueWord row = true) : Shape row := by
  rw [isValueWord, Bool.and_eq_true] at word
  obtain ⟨first, digits⟩ := word
  cases row with
  | nil => cases first
  | cons c tail =>
    have capital : Text.isAsciiUpper c = true := by simpa using first
    rw [List.dropWhile_cons_of_pos capital] at digits
    rw [← List.takeWhile_append_dropWhile (p := Text.isAsciiUpper) (l := tail)]
    exact .mk capital (fun d => List.mem_takeWhile_imp) (List.all_eq_true.mp digits)

theorem Shape.parts (shape : Shape row) : ∀ c ∈ row, isNamePart c = true ∧ isSeparator c = false := by
  obtain ⟨first, capitals, digits⟩ := shape
  have capital {c : Char} (known : Text.isAsciiUpper c = true) :
      isNamePart c = true ∧ isSeparator c = false :=
    ⟨part_of_capital known, (capital_of_upper known).letter⟩
  rw [List.forall_mem_cons, List.forall_mem_append]
  exact ⟨capital first, fun d inside => capital (capitals d inside), fun d inside =>
    ⟨part_of_digit (digits d inside), (digit_of_digit (digits d inside)).inner.letter⟩⟩

theorem Shape.ascii (shape : Shape row) : row.all Text.isAscii = true :=
  List.all_eq_true.mpr fun c inside => isAscii_of_part (shape.parts c inside).1

theorem opensWord_capitals (capital : Text.isAsciiUpper p = true) (c : Char)
    (quiet : ahead.any Text.isLower = false) : opensWord p c ahead = false := by
  have its := capital_of_upper capital
  rw [opensWord, its.lower, its.digit, quiet, Bool.and_false, Bool.or_false, Bool.or_false,
    Bool.and_false]

theorem wordsFrom_capitals {p : Char} (first : Text.isAsciiUpper p = true)
    (capitals : ∀ c ∈ row, Text.isAsciiUpper c = true)
    (quiet : rest.head?.any Text.isLower = false) (behind : List Char) :
    wordsFrom (p :: behind) (row ++ rest) = wordsFrom (row.reverse ++ p :: behind) rest := by
  induction row generalizing p behind with
  | nil => rfl
  | cons c more ih =>
    obtain ⟨capital, others⟩ := List.forall_mem_cons.mp capitals
    have ahead : (more ++ rest).head?.any Text.isLower = false := by
      cases more with
      | nil => exact quiet
      | cons d _ => exact (capital_of_upper (others d (List.mem_cons_self ..))).lower
    rw [List.cons_append, wordsFrom_joins (capital_of_upper capital).letter
      (opensWord_capitals first c ahead), ih capital others]
    simp

theorem Shape.whole (shape : Shape row) : Whole row := by
  refine ⟨?_, fun rest quiet => ?_⟩
  · rintro rfl
    cases shape
  · obtain @⟨c, more, numbers, first, capitals, digits⟩ := shape
    have ahead : (numbers ++ rest).head?.any Text.isLower = false := by
      cases numbers with
      | nil => exact quiet
      | cons d _ => exact (digit_of_digit (digits d (List.mem_cons_self ..))).lower
    rw [List.cons_append, wordsFrom_first (capital_of_upper first).letter, List.append_assoc,
      wordsFrom_capitals first capitals ahead,
      wordsFrom_inner (fun d inside => (digit_of_digit (digits d inside)).inner) (by simp)]
    simp

-- Behind a digit or a small letter any capital opens a word; behind a capital that stands alone the
-- next one does so because a small letter follows it.
theorem Shape.seam (shape : Shape row) (following : Shape next)
    (apart : row.length = 1 → (next.filter Text.isAsciiUpper).length ≠ 1) :
    Seam (capitalize row) (capitalize next) := by
  have ascii := shape.ascii
  have others := following.ascii
  obtain @⟨c, more, numbers, first, capitals, digits⟩ := shape
  obtain @⟨d, rest, behind, second, letters, ends⟩ := following
  have opens := capital_of_upper second
  rw [capitalize_ascii ascii, capitalize_ascii others, opens.kept]
  rcases List.eq_nil_or_concat' (more ++ numbers) with alone | ⟨front, e, split⟩
  · have kept := capital_of_upper first
    rw [alone, kept.kept]
    refine .mk rfl (opensWord_iff.mpr ⟨opens.upper, .inr (.inr ⟨kept.upper, ?_⟩)⟩)
    cases rest with
    | nil =>
      have none : behind.filter Text.isAsciiUpper = [] := List.filter_eq_nil_iff.mpr fun e inside => by
        simp [(digit_of_digit (ends e inside)).upper]
      have single := apart (by simp [alone])
      simp [second, none] at single
    | cons e rest =>
      exact ⟨_, rfl, (capital_of_upper (letters e (List.mem_cons_self ..))).lowered⟩
  · have last : (Text.upperAscii c :: (more ++ numbers).map Text.lowerAscii).getLast? =
        some (Text.lowerAscii e) := by
      rw [split, List.map_append, ← List.cons_append]
      exact List.getLast?_concat
    refine .mk last (opensWord_iff.mpr ⟨opens.upper, ?_⟩)
    have inside : e ∈ more ++ numbers := by simp [split]
    rcases List.mem_append.mp inside with capital | digit
    · exact .inl (capital_of_upper (capitals e capital)).lowered
    · rw [(digit_of_digit (digits e digit)).kept]
      exact .inr (.inl (digits e digit))

end Words

section Names
variable {rows : List (List Char)}

theorem map_intercalate {sign : List Char} (f : Char → Char) (kept : sign.map f = sign)
    (rows : List (List Char)) :
    (sign.intercalate rows).map f = sign.intercalate (rows.map (·.map f)) := by
  induction rows with
  | nil => rfl
  | cons row others ih =>
    cases others with
    | nil => simp
    | cons next others =>
      rw [List.intercalate_cons_cons, List.map_append, List.map_append, ih, kept]
      simp only [List.map_cons, List.intercalate_cons_cons]

theorem ValueWords.shape (values : ValueWords rows) : ∀ row ∈ rows, Shape row :=
  fun row inside => shape_of_word (values.words row inside)

theorem ValueWords.pascalCase (values : ValueWords rows) :
    pascalCase (['_'].intercalate rows) = (rows.map capitalize).flatten := by
  rw [Naming.pascalCase, words_intercalate fun row inside => (values.shape row inside).whole,
    List.flatMap_def]

theorem ValueWords.words_pascalCase (values : ValueWords rows) :
    Naming.words (rows.map capitalize).flatten = rows.map capitalize := by
  refine words_flatten (fun row inside => ?_) ?_
  · obtain ⟨word, there, rfl⟩ := List.mem_map.mp inside
    have shape := values.shape word there
    exact opened_capitalize shape.whole.filled shape.ascii fun c its => (shape.parts c its).2
  · refine (List.isChain_map capitalize).mpr (List.IsChain.imp_of_mem_imp ?_ values.apart)
    intro row next first second apart
    exact (values.shape row first).seam (values.shape next second) apart

-- A capital or a digit, or an underscore between the words.
theorem ValueWords.characters (values : ValueWords rows) (inside : c ∈ ['_'].intercalate rows) :
    isNamePart c = true ∧ Text.upperAscii (Text.lowerAscii c) = c := by
  rcases mem_intercalate inside with between | ⟨row, among, its⟩
  · rw [List.mem_singleton.mp between]
    decide
  · obtain ⟨first, capitals, digits⟩ := values.shape row among
    have capital {c : Char} (known : Text.isAsciiUpper c = true) :
        isNamePart c = true ∧ Text.upperAscii (Text.lowerAscii c) = c :=
      ⟨part_of_capital known, (capital_of_upper known).back⟩
    rcases List.mem_cons.mp its with rfl | its
    · exact capital first
    · rcases List.mem_append.mp its with letter | digit
      · exact capital (capitals c letter)
      · have known := digit_of_digit (digits c digit)
        exact ⟨part_of_digit (digits c digit), by rw [known.kept, known.back]⟩

theorem ValueWords.snakeCase (values : ValueWords rows) :
    snakeCase (Naming.pascalCase (['_'].intercalate rows)) =
      Text.lower (['_'].intercalate rows) := by
  have parts : (['_'].intercalate rows).all isNamePart = true :=
    List.all_eq_true.mpr fun c inside => (values.characters inside).1
  have lowered : (rows.map capitalize).map Text.lower = rows.map (·.map Text.lowerAscii) := by
    rw [List.map_map]
    refine List.map_congr_left fun row inside => ?_
    have ascii := (values.shape row inside).ascii
    rw [Function.comp, lower_capitalize ascii, lower_ascii ascii]
  rw [values.pascalCase, Naming.snakeCase, values.words_pascalCase, lowered, lower_parts parts,
    map_intercalate Text.lowerAscii rfl]

theorem IsValueName.snakeCase (name : IsValueName value) :
    snakeCase (pascalCase value.toList) = Text.lower value.toList := by
  obtain ⟨rows, values, same⟩ := name
  rw [same, values.snakeCase]

-- Small letters do not occur in such a name, so nothing is lost in lower case.
theorem IsValueName.upper_lower (name : IsValueName value) :
    (Text.lower value.toList).map Text.upperAscii = value.toList := by
  obtain ⟨rows, values, same⟩ := name
  rw [same, lower_parts (List.all_eq_true.mpr fun c inside => (values.characters inside).1),
    List.map_map]
  exact (List.map_congr_left fun c inside => (values.characters inside).2).trans (List.map_id _)

theorem IsValueName.eq_of_identifier (first : IsValueName a) (second : IsValueName b)
    (same : enumValueIdentifier owner a = enumValueIdentifier owner b) : a = b := by
  have chars := congrArg String.toList same
  simp only [enumValueIdentifier, String.toList_append, String.toList_ofList] at chars
  have pascal := List.append_cancel_left chars
  have lower : Text.lower a.toList = Text.lower b.toList := by
    rw [← first.snakeCase, pascal, second.snakeCase]
  rw [← String.toList_inj, ← first.upper_lower, lower, second.upper_lower]

theorem sound_of_valueNames {decl : EnumDecl}
    (names : ∀ value ∈ decl.values, IsValueName value.name)
    (distinct : (decl.values.map (·.name)).Nodup) : decl.Sound := by
  have each : ((decl.values.map (·.name)).map (enumValueIdentifier decl.name)).Nodup := by
    refine distinct.map_on fun a first b second same => ?_
    obtain ⟨value, inside, rfl⟩ := List.mem_map.mp first
    obtain ⟨other, there, rfl⟩ := List.mem_map.mp second
    exact (names value inside).eq_of_identifier (names other there) same
  rwa [List.map_map] at each

end Names

-- Snake case makes the name again out of the variant, in small letters. So names that differ have
-- variants that differ, and an enum whose values have names of this form, all of them distinct, is
-- emitted.
theorem valueNames_kept :
    (∀ name, IsValueName name →
      snakeCase (pascalCase name.toList) = Text.lower name.toList) ∧
    (∀ owner a b, IsValueName a → IsValueName b → a ≠ b →
      enumValueIdentifier owner a ≠ enumValueIdentifier owner b) ∧
    (∀ decl : EnumDecl, (∀ value ∈ decl.values, IsValueName value.name) →
      (decl.values.map (·.name)).Nodup → Binding.enumIdentifiers decl = .ok decl.identifiers) ∧
    (∀ decls : Declarations, (∀ decl ∈ decls.enums,
        (∀ value ∈ decl.values, IsValueName value.name) ∧ (decl.values.map (·.name)).Nodup) →
      ∃ text, Binding.enumsText decls = .ok text) := by
  refine ⟨fun name => IsValueName.snakeCase, ?_, ?_, ?_⟩
  · intro owner a b first second apart same
    exact apart (first.eq_of_identifier second same)
  · intro decl names distinct
    exact Binding.enumIdentifiers_sound (sound_of_valueNames names distinct)
  · intro decls each
    exact (Binding.enumsText_decided decls).done fun decl inside =>
      sound_of_valueNames (each decl inside).1 (each decl inside).2

-- Names that differ in nothing but an underscore.
def scanDecl : EnumDecl where
  name := "Scan"
  description := none
  values := [⟨"HTTP2_X_RAY_V10_A", none, false⟩, ⟨"HTTP2_XRAY_V10_A", none, false⟩]

theorem valueNames_kept_scan :
    (∀ value ∈ scanDecl.values, IsValueName value.name) ∧
    snakeCase (pascalCase "HTTP2_X_RAY_V10_A".toList) = "http2_x_ray_v10_a".toList ∧
    enumValueIdentifier "Scan" "HTTP2_X_RAY_V10_A" ≠ enumValueIdentifier "Scan" "HTTP2_XRAY_V10_A" ∧
    Binding.enumIdentifiers scanDecl = .ok scanDecl.identifiers ∧
    ∃ text, Binding.enumsText { enums := [scanDecl] } = .ok text := by
  have first : IsValueName "HTTP2_X_RAY_V10_A" :=
    ⟨["HTTP2".toList, "X".toList, "RAY".toList, "V10".toList, "A".toList],
      ⟨by decide, by decide +kernel, by decide +kernel⟩, by decide +kernel⟩
  have second : IsValueName "HTTP2_XRAY_V10_A" :=
    ⟨["HTTP2".toList, "XRAY".toList, "V10".toList, "A".toList],
      ⟨by decide, by decide +kernel, by decide +kernel⟩, by decide +kernel⟩
  have names : ∀ value ∈ scanDecl.values, IsValueName value.name := by
    rw [scanDecl, List.forall_mem_cons, List.forall_mem_singleton]
    exact ⟨first, second⟩
  have distinct : (scanDecl.values.map (·.name)).Nodup := by decide
  obtain ⟨kept, apart, emitted, all⟩ := valueNames_kept
  refine ⟨names, ?_, apart _ _ _ first second (by decide), emitted scanDecl names distinct,
    all _ (List.forall_mem_singleton.mpr ⟨names, distinct⟩)⟩
  rw [kept _ first]
  decide +kernel

-- Two letters that stand alone run together.
example : snakeCase (pascalCase ['X', '_', 'Y']) = ['x', 'y'] := by decide +kernel

end SchemaBindings.Naming
