import SchemaBindings.Proofs.Source.Lexing

namespace SchemaBindings.Source

namespace Lexeme

section Quotes
variable {c : Char} {cs after : List Char}

-- A character that neither ends nor escapes anything between quotes.
def IsPlain (c : Char) : Prop := (c ≠ '"' ∧ c ≠ '\r') ∧ c ≠ '\\'

theorem IsPlain.quoted (plain : IsPlain c) (tail : List Char) :
    Literal.quoted .text false (c :: tail) = Literal.quoted .text false tail := by
  obtain ⟨⟨quote, feed⟩, slash⟩ := plain
  conv => lhs; unfold Literal.quoted
  split
  case h_10 =>
    rename_i same
    cases same
    rw [Bool.false_and, if_neg Bool.false_ne_true]
    simp [slash, Literal.Flavour.holds]
  all_goals
    rename_i same
    cases same
  all_goals contradiction

theorem quoted_plain (plain : ∀ c ∈ cs, IsPlain c) (after : List Char) :
    Literal.quoted .text false (cs ++ '"' :: after) = some (Literal.skipSuffix after) := by
  induction cs with
  | nil => rw [List.nil_append, Literal.quoted]
  | cons c rest ih =>
    obtain ⟨first, others⟩ := List.forall_mem_cons.mp plain
    rw [List.cons_append, first.quoted, ih others]

theorem skipSuffix_of_endsWord (ends : endsWord after = true) : Literal.skipSuffix after = after := by
  cases after with
  | nil => rfl
  | cons c rest =>
    have other : Text.isIdentifierStart c = false := by
      rw [Bool.eq_false_iff]
      intro start
      rw [endsWord, Text.isIdentifierPart_of_start start] at ends
      cases ends
    rw [Literal.skipSuffix, other, if_neg Bool.false_ne_true]

theorem takeLiteral_of_skip {text : List Char} (skipped : Literal.skip (text ++ after) = some after) :
    takeLiteral (text ++ after) = some (.literal (String.ofList text), after) := by
  rw [takeLiteral, skipped, Option.map_some, List.length_append, Nat.add_sub_cancel, List.take_left]

-- Neither a comment nor a bracket begins like this.
theorem next_literal {rest : List Char} (noGap : skipGap (c :: rest) = c :: rest)
    (noDoc : takeDoc (c :: rest) = none) (noBracket : openingOf c = none ∧ closingOf c = none)
    (literal : takeLiteral (c :: rest) = some taken) : next (skipGap (c :: rest)) = some taken := by
  rw [noGap, next, noDoc]
  simp only [noBracket.1, noBracket.2, literal]
  rfl

theorem next_quoted
    (passed : ∀ after, Literal.quoted .text false (cs ++ '"' :: after) =
      some (Literal.skipSuffix after)) (ends : endsWord after = true) :
    next (skipGap ('"' :: (cs ++ '"' :: after))) =
      some (.literal (String.ofList ('"' :: cs ++ ['"'])), after) := by
  have skipped : Literal.skip (('"' :: cs ++ ['"']) ++ after) = some after := by
    rw [List.cons_append, List.cons_append, List.append_assoc, Literal.skip, List.singleton_append,
      passed, skipSuffix_of_endsWord ends]
  have literal := takeLiteral_of_skip skipped
  rw [List.cons_append, List.cons_append, List.append_assoc] at literal
  exact next_literal rfl rfl ⟨rfl, rfl⟩ literal

end Quotes

section Comments
variable {text : List Char}

theorem takeLine_kept (feed : '\n' ∉ text) (last : text.getLast? ≠ some '\r') (rest : List Char) :
    takeLine (text ++ '\n' :: rest) = (text, '\n' :: rest) := by
  induction text with
  | nil => rw [List.nil_append, takeLine]
  | cons c others ih =>
    have other := List.ne_of_not_mem_cons feed
    have kept : takeLine (others ++ '\n' :: rest) = (others, '\n' :: rest) := by
      refine ih (List.not_mem_of_not_mem_cons feed) fun ends => last ?_
      cases others with
      | nil => cases ends
      | cons d more => rwa [List.getLast?_cons_cons]
    have ended : ∀ after, c = '\r' → others ++ '\n' :: rest = '\n' :: after → False := by
      rintro after rfl same
      cases others with
      | nil => exact last rfl
      | cons d more =>
        rw [(List.cons.inj same).1] at feed
        simp at feed
    rw [List.cons_append, takeLine.eq_4 _ _ (fun same => other same.symm) ended, kept]

theorem hasBareReturn_iff (feed : '\n' ∉ text) : hasBareReturn text = true ↔ '\r' ∈ text := by
  induction text with
  | nil => simp [hasBareReturn]
  | cons c others ih =>
    have later := ih (List.not_mem_of_not_mem_cons feed)
    unfold hasBareReturn
    split
    · rename_i same
      cases same
    · rename_i same
      cases same
      simp at feed
    · rename_i same
      cases same
      simp
    · rename_i bare same
      cases same
      have other : '\r' ≠ c := fun here => bare here.symm
      rw [later, List.mem_cons, or_iff_right other]

theorem takeDoc_line (front : text.head? ≠ some '/') (feed : '\n' ∉ text)
    (last : text.getLast? ≠ some '\r') (rest : List Char) :
    takeDoc ('/' :: '/' :: '/' :: (text ++ '\n' :: rest)) =
      if '\r' ∈ text then none else some (⟨false, text⟩, '\n' :: rest) := by
  have head : (text ++ '\n' :: rest).head? ≠ some '/' := by
    cases text with
    | nil => simp
    | cons c others => exact front
  rw [takeDoc]
  simp only [head, if_false, takeLine_kept feed last, Option.filter_some]
  by_cases inside : '\r' ∈ text
  · simp [inside, (hasBareReturn_iff feed).mpr inside]
  · have plain : hasBareReturn text = false :=
      Bool.eq_false_iff.mpr (mt (hasBareReturn_iff feed).mp inside)
    simp [inside, plain]

theorem skipGap_doc (front : text.head? ≠ some '/') (rest : List Char) :
    skipGap ('/' :: '/' :: '/' :: (text ++ '\n' :: rest)) =
      '/' :: '/' :: '/' :: (text ++ '\n' :: rest) := by
  have opens : startsDocLine ('/' :: (text ++ '\n' :: rest)) = true := by
    cases text with
    | nil => rfl
    | cons c others =>
      have other : c ≠ '/' := fun same => front (congrArg some same)
      rw [List.cons_append, startsDocLine]
      exact fun _ same => other (List.cons.inj same).1
  rw [skipGap, if_pos opens]

theorem next_doc (front : text.head? ≠ some '/') (feed : '\n' ∉ text) (plain : '\r' ∉ text)
    (rest : List Char) :
    next (skipGap ('/' :: '/' :: '/' :: (text ++ '\n' :: rest))) =
      some (.doc false (String.ofList text), '\n' :: rest) := by
  have last : text.getLast? ≠ some '\r' := fun ends => plain (List.mem_of_getLast? ends)
  rw [skipGap_doc front, next, takeDoc_line front feed last, if_neg plain]

-- What no comment begins with is no mark either, and slashes begin nothing else.
theorem next_doc_refused (front : text.head? ≠ some '/') (feed : '\n' ∉ text)
    (last : text.getLast? ≠ some '\r') (inside : '\r' ∈ text) (rest : List Char) :
    next ('/' :: '/' :: '/' :: (text ++ '\n' :: rest)) = none := by
  rw [next, takeDoc_line front feed last, if_pos inside]
  rfl

end Comments

-- A stretch that gives its lexemes whatever stands behind it, and has room for them.
structure Solid (cs : List Char) (lexemes : List Lexeme) : Prop where
  reads : ∀ rest, Lexed (cs ++ rest) lexemes rest
  short : lexemes.length ≤ cs.length

-- A stretch in which the reader stops, whatever stands behind it.
def Falters (cs : List Char) : Prop := ∀ rest, Stuck (cs ++ rest)

-- A stretch that gives its lexemes unless what stands behind it makes a word longer.
structure Loose (cs : List Char) (lexemes : List Lexeme) : Prop where
  reads : ∀ after, endsWord after = true → Lexed (cs ++ after) lexemes after
  short : lexemes.length ≤ cs.length

section Stretches
variable {cs behind : List Char} {lexemes others : List Lexeme}

theorem Solid.nil : Solid [] [] := ⟨.done, Nat.le_refl 0⟩

theorem Solid.append (first : Solid cs lexemes) (second : Solid behind others) :
    Solid (cs ++ behind) (lexemes ++ others) := by
  refine ⟨fun rest => ?_, ?_⟩
  · rw [List.append_assoc]
    exact (first.reads _).append (second.reads rest)
  · rw [List.length_append, List.length_append]
    exact Nat.add_le_add first.short second.short

theorem Falters.append (first : Falters cs) (behind : List Char) : Falters (cs ++ behind) := by
  intro rest
  rw [List.append_assoc]
  exact first _

theorem Solid.falters (first : Solid cs lexemes) (second : Falters behind) :
    Falters (cs ++ behind) := by
  intro rest
  rw [List.append_assoc]
  exact (first.reads _).stuck (second rest)

-- What is fixed is read by running the reader, up to the gap at its end.
theorem Solid.run (count : Nat) (gap : List Char)
    (read : ∀ rest, readSome count (cs ++ rest) = some (lexemes, gap ++ rest))
    (same : ∀ rest, skipGap (gap ++ rest) = skipGap rest)
    (short : lexemes.length ≤ cs.length) : Solid cs lexemes := by
  refine ⟨fun rest => ?_, short⟩
  have all := (Lexed.of_readSome (read rest)).append (.gap (same rest) (.done rest))
  rwa [List.append_nil] at all

theorem Loose.solid (first : Loose cs lexemes) (second : Solid behind others)
    (ends : ∀ rest, endsWord (behind ++ rest) = true) :
    Solid (cs ++ behind) (lexemes ++ others) := by
  refine ⟨fun rest => ?_, ?_⟩
  · rw [List.append_assoc]
    exact (first.reads _ (ends rest)).append (second.reads rest)
  · rw [List.length_append, List.length_append]
    exact Nat.add_le_add first.short second.short

theorem Solid.loose (first : Solid cs lexemes) (second : Loose behind others) :
    Loose (cs ++ behind) (lexemes ++ others) := by
  refine ⟨fun after ends => ?_, ?_⟩
  · rw [List.append_assoc]
    exact (first.reads _).append (second.reads after ends)
  · rw [List.length_append, List.length_append]
    exact Nat.add_le_add first.short second.short

theorem loose_name (name : Naming.isName cs = true) :
    Loose cs [.word false (String.ofList cs)] := by
  refine ⟨fun after ends => .lexeme (next_word name ends) (.done after), ?_⟩
  cases cs with
  | nil => cases name
  | cons c rest => exact Nat.succ_le_succ (Nat.zero_le _)

theorem loose_raw (name : Naming.isName cs = true)
    (may : neverRaw.contains (String.ofList cs) = false) :
    Loose ('r' :: '#' :: cs) [.word true (String.ofList cs)] :=
  ⟨fun after ends => .lexeme (next_raw name ends may) (.done after), Nat.succ_le_succ (Nat.zero_le _)⟩

theorem loose_quoted
    (passed : ∀ after, Literal.quoted .text false (cs ++ '"' :: after) =
      some (Literal.skipSuffix after)) :
    Loose ('"' :: (cs ++ ['"'])) [.literal (String.ofList ('"' :: cs ++ ['"']))] := by
  refine ⟨fun after ends => ?_, Nat.succ_le_succ (Nat.zero_le _)⟩
  rw [List.cons_append, List.append_assoc]
  exact .lexeme (next_quoted passed ends) (.done after)

-- Whether a mark stands alone depends on what follows it.
theorem Lexed.mark {c : Char} {joint : Bool} (taken : ∀ tail, next (skipGap (c :: tail)) =
      some (.mark c (startsMark tail), tail)) (follows : startsMark cs = joint)
    (read : Lexed cs others rest) : Lexed (c :: cs) (.mark c joint :: others) rest :=
  .lexeme (by rw [taken, follows]) read

theorem solid_doc {text : List Char} (front : text.head? ≠ some '/') (feed : '\n' ∉ text)
    (plain : '\r' ∉ text) :
    Solid ('/' :: '/' :: '/' :: (text ++ ['\n'])) [.doc false (String.ofList text)] := by
  refine ⟨fun rest => ?_, Nat.succ_le_succ (Nat.zero_le _)⟩
  have ended : skipGap ('\n' :: rest) = skipGap rest := rfl
  simp only [List.cons_append, List.append_assoc]
  exact .lexeme (next_doc front feed plain rest) (.gap ended (.done rest))

theorem falters_doc {text : List Char} (front : text.head? ≠ some '/') (feed : '\n' ∉ text)
    (last : text.getLast? ≠ some '\r') (inside : '\r' ∈ text) :
    Falters ('/' :: '/' :: '/' :: (text ++ ['\n'])) := by
  intro rest
  simp only [List.cons_append, List.append_assoc]
  exact stuck_of_next (skipGap_doc front rest) (next_doc_refused front feed last inside rest)

end Stretches

end Lexeme

open Text (hexDigit hexDigits)
open Text.Quoted (Escaped escape encode shortSigns)

section Passing

theorem quotedCode_digit : ∀ n < 16, ∀ value count rest, count < 6 →
    Literal.quotedCode .text value count (hexDigit n :: rest) =
      Literal.quotedCode .text (value * 16 + n) (count + 1) rest := by
  intro n digit value count rest room
  obtain ⟨known, its⟩ := Text.Quoted.hexDigit_read n digit
  rw [Literal.quotedCode, known, if_pos rfl, if_neg (Nat.ne_of_lt room), its]

theorem quoted_code (c : Char) (rest : List Char) :
    Literal.quoted .text false ('\\' :: 'u' :: '{' :: (hexDigits c.toNat ++ '}' :: rest)) =
      Literal.quoted .text false rest := by
  have count := Text.Quoted.length_hexDigits_char c
  have some := Text.Quoted.length_hexDigits_pos c.toNat
  have valid : c.toNat.isValidChar := c.valid
  have brace : Literal.isHexDigit '}' = false := by decide
  have none : 0 + (hexDigits c.toNat).length ≠ 0 := by omega
  have opened : Literal.quoted .text false ('\\' :: 'u' :: '{' :: (hexDigits c.toNat ++ '}' :: rest)) =
      Literal.quotedCode .text 0 0 (hexDigits c.toNat ++ '}' :: rest) := by
    rw [Literal.quoted]
  rw [opened, Text.Quoted.read_hexDigits quotedCode_digit _ _ _ (by omega), Literal.quotedCode, brace,
    if_neg Bool.false_ne_true, if_neg none]
  simp [Literal.Flavour.holdsCode, valid]

theorem quoted_escaped {text : List Char} (way : Escaped c text) (rest : List Char) :
    Literal.quoted .text false (text ++ rest) = Literal.quoted .text false rest := by
  cases way with
  | @short letter sign _ =>
    have known : shortSigns.all (fun letter => (letter != 'x' && letter != 'u') &&
        (letter != '\n' && letter != '\r') && Literal.isSimpleEscape .text letter) = true := by decide
    have its := List.all_eq_true.mp known letter sign
    simp only [Bool.and_eq_true, bne_iff_ne] at its
    obtain ⟨⟨⟨pair, braces⟩, feed, carriage⟩, simple⟩ := its
    rw [List.cons_append, List.singleton_append, Literal.quoted, simple, if_pos rfl]
    · exact fun _ _ _ same => absurd same pair
    · exact fun _ same => absurd same braces
    · exact fun same => absurd same feed
    · exact fun _ same => absurd same carriage
  | shown visible quote backslash =>
    have carriage : c ≠ '\r' := by
      rintro rfl
      cases visible
    exact Lexeme.IsPlain.quoted ⟨⟨quote, carriage⟩, backslash⟩ rest
  | code =>
    rw [List.cons_append, List.cons_append, List.cons_append, List.append_assoc]
    exact quoted_code c rest

theorem quoted_escapes (cs after : List Char) :
    Literal.quoted .text false (cs.flatMap escape ++ '"' :: after) =
      some (Literal.skipSuffix after) := by
  induction cs with
  | nil => rw [List.flatMap_nil, List.nil_append, Literal.quoted]
  | cons c rest ih =>
    rw [List.flatMap_cons, List.append_assoc, quoted_escaped (Text.Quoted.escaped_escape c), ih]

end Passing

-- One literal in quotes, on one line, whatever follows it; and what it stands for.
structure IsLiteral (literal meant : String) : Prop where
  quoted : ∃ inside, literal.toList = '"' :: (inside ++ ['"']) ∧ Text.Quoted.endsEarly inside = false
  feed : '\n' ∉ literal.toList
  carriage : '\r' ∉ literal.toList
  alone : ∀ after, Lexeme.endsWord after = true →
    Lexeme.next (skipGap (literal.toList ++ after)) = some (.literal literal, after)
  meaning : ∀ after, Text.Quoted.read (literal.toList ++ after) = some (meant, after)

theorem isLiteral_encode (text : String) : IsLiteral (encode text) text := by
  have shown := Text.Quoted.visible_encode text
  have chars : (encode text).toList = '"' :: (text.toList.flatMap escape ++ ['"']) := by
    rw [encode, String.toList_ofList]
    rfl
  refine ⟨⟨_, chars, Text.Quoted.endsEarly_escapes _⟩, fun inside => ?_, fun inside => ?_,
    fun after ends => ?_, Text.Quoted.read_encode text⟩
  · exact absurd (shown _ inside) (by decide)
  · exact absurd (shown _ inside) (by decide)
  · have taken := Lexeme.next_quoted (quoted_escapes text.toList) ends
    rwa [chars, List.cons_append, List.append_assoc]

theorem Lexeme.loose_encode (text : String) :
    Loose (encode text).toList [.literal (encode text)] := by
  rw [encode, String.toList_ofList]
  exact loose_quoted (quoted_escapes text.toList)

end SchemaBindings.Source
