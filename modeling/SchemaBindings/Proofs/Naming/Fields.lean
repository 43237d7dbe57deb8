import SchemaBindings.Proofs.Binding.Emission
import SchemaBindings.Proofs.Naming.Casing
import SchemaBindings.Proofs.Naming.Distinct

namespace SchemaBindings.Naming

-- A small letter, then letters and digits, and no two capitals side by side.
structure IsFieldName (name : String) : Prop where
  first : name.toList.head?.any Text.isAsciiLower = true
  parts : ∀ c ∈ name.toList, Text.isAsciiLetter c = true ∨ Text.isAsciiDigit c = true
  apart : name.toList.IsChain fun c d => ¬(Text.isAsciiUpper c = true ∧ Text.isAsciiUpper d = true)

instance (name : String) : Decidable (IsFieldName name) :=
  decidable_of_iff (name.toList.head?.any Text.isAsciiLower = true ∧
      (name.toList.all fun c => Text.isAsciiLetter c || Text.isAsciiDigit c) = true ∧
      name.toList.IsChain fun c d => ¬(Text.isAsciiUpper c = true ∧ Text.isAsciiUpper d = true))
    ⟨fun ⟨first, parts, apart⟩ => ⟨first, by simpa using parts, apart⟩,
      fun ⟨first, parts, apart⟩ => ⟨first, by simpa using parts, apart⟩⟩

-- The first letter becomes a capital.
def raised : List Char → List Char
  | [] => []
  | c :: rest => Text.upperAscii c :: rest

section Characters
variable {c : Char}

-- A letter that is no capital, or a digit; a capital behind it opens a word.
structure Low (c : Char) : Prop where
  inner : Inner c
  kept : Text.lowerAscii c = c
  parts : (Text.isLower c || Text.isAsciiDigit c) = true

theorem low_of_letter (known : Text.isAsciiLetter c = true ∨ Text.isAsciiDigit c = true)
    (small : Text.isAsciiUpper c = false) : Low c := by
  have all : (isSeparator c = false ∧ Text.isUpper c = false) ∧ Text.lowerAscii c = c ∧
      (Text.isLower c || Text.isAsciiDigit c) = true := by
    have ascii := isAscii_of_part (part_of_letter known)
    have either : (Text.isAsciiLetter c || Text.isAsciiDigit c) = true := by simpa using known
    revert either small
    exact ascii_forall (p := fun c => Text.isAsciiUpper c = false →
      (Text.isAsciiLetter c || Text.isAsciiDigit c) = true →
      (isSeparator c = false ∧ Text.isUpper c = false) ∧ Text.lowerAscii c = c ∧
      (Text.isLower c || Text.isAsciiDigit c) = true) (by decide +kernel) ascii
  obtain ⟨⟨letter, small⟩, kept, parts⟩ := all
  exact ⟨⟨letter, small⟩, kept, parts⟩

theorem Low.opens (low : Low p) (capital : Capital c) (next : Option Char) :
    opensWord p c next = true := by
  rw [opensWord, capital.upper, low.parts, Bool.true_or, Bool.and_self]

end Characters

section Words
variable {c p : Char} {row rest behind : List Char}

theorem capitalize_concat (ascii : (c :: row).all Text.isAscii = true) (low : Low d)
    (known : Text.isAscii d = true) :
    capitalize (c :: row ++ [d]) = capitalize (c :: row) ++ [d] := by
  have all : (c :: (row ++ [d])).all Text.isAscii = true := by
    rw [← List.cons_append, List.all_append, ascii, List.all_cons, known]
    rfl
  rw [List.cons_append, capitalize_ascii all, capitalize_ascii ascii, List.map_append, List.map_cons,
    low.kept]
  rfl

-- The induction is on what is still to be read: a capital finds a small letter or a digit before it
-- and opens a word, and whatever else there is stays as it is in the word that is held.
theorem capitalize_wordsFrom
    (parts : ∀ c ∈ p :: rest, Text.isAsciiLetter c = true ∨ Text.isAsciiDigit c = true)
    (apart : (p :: rest).IsChain fun c d =>
      ¬(Text.isAsciiUpper c = true ∧ Text.isAsciiUpper d = true))
    (ascii : ((p :: behind).reverse).all Text.isAscii = true) :
    (wordsFrom (p :: behind) rest).flatMap capitalize =
      capitalize (p :: behind).reverse ++ rest := by
  induction rest generalizing p behind with
  | nil =>
    rw [wordsFrom_end (List.cons_ne_nil p behind), List.flatMap_singleton, List.append_nil]
  | cons c rest ih =>
    obtain ⟨its, others⟩ := List.forall_mem_cons.mp parts
    obtain ⟨seam, later⟩ := List.isChain_cons_cons.mp apart
    have known := others c (List.mem_cons_self ..)
    have single := isAscii_of_part (part_of_letter known)
    cases upper : Text.isAsciiUpper c with
    | true =>
      have capital := capital_of_upper upper
      have low := low_of_letter its (Bool.eq_false_iff.mpr fun first => seam ⟨first, upper⟩)
      have word : capitalize [c] = [c] := by
        rw [capitalize_ascii (by simpa using single), capital.kept]
        rfl
      rw [wordsFrom_opens capital.letter (low.opens capital _), List.flatMap_cons,
        ih others later (by simpa using single), List.reverse_singleton, word]
      rfl
    | false =>
      have low := low_of_letter known upper
      obtain ⟨front, row, held⟩ := List.exists_cons_of_ne_nil
        (List.reverse_ne_nil_iff.mpr (List.cons_ne_nil p behind))
      have all : ((c :: p :: behind).reverse).all Text.isAscii = true := by
        rw [List.reverse_cons, List.all_append, ascii, List.all_cons, single]
        rfl
      rw [wordsFrom_joins low.inner.letter (low.inner.joins p _), ih others later all,
        List.reverse_cons, held, capitalize_concat (held ▸ ascii) low single, List.append_assoc]
      rfl

end Words

section Names
variable {name a b : String}

theorem IsFieldName.chars (field : IsFieldName name) :
    ∃ c rest, name.toList = c :: rest ∧ Text.isAsciiLower c = true := by
  have first := field.first
  cases chars : name.toList with
  | nil =>
    rw [chars] at first
    cases first
  | cons c rest =>
    rw [chars] at first
    exact ⟨c, rest, rfl, by simpa using first⟩

theorem IsFieldName.allParts (field : IsFieldName name) : name.toList.all isNamePart = true :=
  List.all_eq_true.mpr fun c inside => part_of_letter (field.parts c inside)

theorem IsFieldName.pascalCase (field : IsFieldName name) :
    pascalCase (snakeCase name.toList) = raised name.toList := by
  have ascii := ascii_of_parts field.allParts
  obtain ⟨c, rest, chars, lower⟩ := field.chars
  have parts := field.parts
  have apart := field.apart
  rw [pascalCase_snakeCase ascii]
  rw [chars] at ascii parts apart ⊢
  have single : [c].all Text.isAscii = true := by
    rw [List.all_cons, Bool.and_eq_true] at ascii
    simpa using ascii.1
  have letter : isSeparator c = false := by
    have part := part_of_letter (parts c (List.mem_cons_self ..))
    revert lower
    exact part_forall (p := fun c => Text.isAsciiLower c = true → isSeparator c = false)
      (by decide +kernel) part
  rw [Naming.pascalCase, words, wordsFrom_first letter,
    capitalize_wordsFrom parts apart (by simpa using single), List.reverse_singleton,
    capitalize_ascii single]
  rfl

-- A small letter is found again from its capital.
theorem IsFieldName.eq_of_raised (first : IsFieldName a) (second : IsFieldName b)
    (same : raised a.toList = raised b.toList) : a = b := by
  have kept {c : Char} (lower : Text.isAsciiLower c = true) :
      Text.lowerAscii (Text.upperAscii c) = c := by
    have part : isNamePart c = true := part_of_letter (.inl (by simp [Text.isAsciiLetter, lower]))
    revert lower
    exact part_forall (p := fun c => Text.isAsciiLower c = true →
      Text.lowerAscii (Text.upperAscii c) = c) (by decide +kernel) part
  obtain ⟨c, rest, chars, small⟩ := first.chars
  obtain ⟨d, others, letters, low⟩ := second.chars
  rw [chars, letters, raised, raised, List.cons.injEq] at same
  rw [← String.toList_inj, chars, letters, same.2, ← kept small, same.1, kept low]

theorem IsFieldName.isName (field : IsFieldName name) : IsName name := by
  obtain ⟨c, rest, chars, lower⟩ := field.chars
  have parts := field.allParts
  rw [chars, List.all_cons, Bool.and_eq_true] at parts
  have start : isNameStart c = true := by simp [isNameStart, Text.isAsciiLetter, lower]
  rw [IsName, chars, Naming.isName, start, parts.2, Bool.and_self]

-- No underscores stand in front, and there is a word.
theorem IsFieldName.stem_eq (field : IsFieldName name) : stem name.toList = snakeCase name.toList := by
  obtain ⟨c, rest, chars, lower⟩ := field.chars
  have other : c ≠ '_' := by
    rintro rfl
    cases lower
  have none : leading name.toList = [] := by
    rw [chars, leading, List.takeWhile_cons, if_neg (beq_iff_eq.not.mpr other)]
  have worded : ∃ c ∈ name.toList, c ≠ '_' := ⟨c, chars ▸ List.mem_cons_self .., other⟩
  rw [(leading_stem field.allParts worded).1, none, List.nil_append]

theorem IsFieldName.eq_of_identifier (first : IsFieldName a) (second : IsFieldName b)
    (same : unrawIdentifier (fieldIdentifier a) = unrawIdentifier (fieldIdentifier b)) : a = b := by
  have stems := stem_of_unrawIdentifier first.isName second.isName same
  rw [first.stem_eq, second.stem_eq] at stems
  refine first.eq_of_raised second ?_
  rw [← first.pascalCase, stems, second.pascalCase]

theorem identifiers_of_fieldNames {decl : InputDecl}
    (names : ∀ field ∈ decl.fields, IsFieldName field.name)
    (distinct : (decl.fields.map (·.name)).Nodup) : decl.identifiers.Nodup := by
  have each : ((decl.fields.map (·.name)).map fieldIdentifier).Nodup := by
    refine distinct.map_on fun a first b second same => ?_
    obtain ⟨field, inside, rfl⟩ := List.mem_map.mp first
    obtain ⟨other, there, rfl⟩ := List.mem_map.mp second
    exact (names field inside).eq_of_identifier (names other there) (congrArg _ same)
  rwa [List.map_map] at each

end Names

-- Pascal case makes the name again out of its snake case, but for the first letter. So fields with
-- names that differ have identifiers that differ, raw or not, and a record whose fields have names
-- of this form, all of them distinct, is never refused because of its names.
theorem fieldNames_kept :
    (∀ name, IsFieldName name → pascalCase (snakeCase name.toList) = raised name.toList) ∧
    (∀ a b, IsFieldName a → IsFieldName b → a ≠ b →
      fieldIdentifier a ≠ fieldIdentifier b ∧
      unrawIdentifier (fieldIdentifier a) ≠ unrawIdentifier (fieldIdentifier b)) ∧
    (∀ decl : InputDecl, (∀ field ∈ decl.fields, IsFieldName field.name) →
      (decl.fields.map (·.name)).Nodup →
      Binding.inputIdentifiers decl = .ok decl.identifiers ∧
      ∀ owner identifier first second,
        Binding.inputLines decl ≠ .error (.collision owner identifier first second)) ∧
    (∀ decls : Declarations, (∀ decl ∈ decls.inputs,
        (∀ field ∈ decl.fields, IsFieldName field.name) ∧ (decl.fields.map (·.name)).Nodup) →
      ∀ owner identifier first second,
        Binding.inputsText decls ≠ .error (.collision owner identifier first second)) := by
  refine ⟨fun name => IsFieldName.pascalCase, ?_, ?_, ?_⟩
  · intro a b first second apart
    have bare : unrawIdentifier (fieldIdentifier a) ≠ unrawIdentifier (fieldIdentifier b) :=
      fun same => apart (first.eq_of_identifier second same)
    exact ⟨fun same => bare (congrArg _ same), bare⟩
  · intro decl names distinct
    have identifiers := identifiers_of_fieldNames names distinct
    refine ⟨Binding.inputIdentifiers_distinct identifiers, fun owner identifier first second refused => ?_⟩
    exact ((Binding.inputLines_decided decl).error_iff.mp refused).repeated identifiers
  · intro decls each owner identifier first second refused
    obtain ⟨before, decl, behind, split, _, fault⟩ :=
      (Binding.inputsText_decided decls).error_iff.mp refused
    have declared : decl ∈ decls.inputs := by simp [split]
    exact fault.repeated (identifiers_of_fieldNames (each decl declared).1 (each decl declared).2)

-- Two keywords, and two names that differ in nothing but the case of a letter.
def routeDecl : InputDecl where
  name := "Route"
  description := none
  required := [⟨"type", none, .nonNull (.named .scalar "Int")⟩, ⟨"self", none, .named .union "U"⟩]
  optional := [⟨"v2Route", none, .named .scalar "ID"⟩, ⟨"v2route", none, .named .scalar "ID"⟩]

theorem fieldNames_kept_route :
    (∀ field ∈ routeDecl.fields, IsFieldName field.name) ∧
    pascalCase (snakeCase "v2Route".toList) = "V2Route".toList ∧
    fieldIdentifier "v2Route" ≠ fieldIdentifier "v2route" ∧
    Binding.inputIdentifiers routeDecl = .ok routeDecl.identifiers ∧
    Binding.inputLines routeDecl ≠ .error (.collision "Route" "v2route" "v2Route" "v2route") ∧
    Binding.inputsText { inputs := [routeDecl] } ≠
      .error (.collision "Route" "v2route" "v2Route" "v2route") := by
  have names : ∀ field ∈ routeDecl.fields, IsFieldName field.name := by decide +kernel
  have distinct : (routeDecl.fields.map (·.name)).Nodup := by decide +kernel
  obtain ⟨kept, apart, record, all⟩ := fieldNames_kept
  obtain ⟨emitted, free⟩ := record routeDecl names distinct
  refine ⟨names, ?_, (apart _ _ (by decide +kernel) (by decide +kernel) (by decide)).1, emitted,
    free _ _ _ _, all _ (List.forall_mem_singleton.mpr ⟨names, distinct⟩) _ _ _ _⟩
  rw [kept _ (by decide +kernel)]
  decide +kernel

end SchemaBindings.Naming
