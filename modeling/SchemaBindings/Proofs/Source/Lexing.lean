import SchemaBindings.Proofs.Naming.Words

namespace SchemaBindings.Source

namespace Lexeme

-- The text begins with the lexemes, and `rest` is what stands behind them.
inductive Lexed : List Char → List Lexeme → List Char → Prop where
  | done (cs : List Char) : Lexed cs [] cs
  | gap (same : skipGap cs = skipGap after) (others : Lexed after lexemes rest) :
      Lexed cs lexemes rest
  | lexeme (taken : next (skipGap cs) = some (first, after)) (others : Lexed after lexemes rest) :
      Lexed cs (first :: lexemes) rest

theorem Lexed.append (first : Lexed cs lexemes behind) (second : Lexed behind others rest) :
    Lexed cs (lexemes ++ others) rest := by
  induction first with
  | done => exact second
  | gap same _ ih => exact .gap same (ih second)
  | lexeme taken _ ih => exact .lexeme taken (ih second)

theorem scanWith_eq_of_skipGap (same : skipGap cs = skipGap after) (fuel : Nat) :
    scanWith fuel cs = scanWith fuel after := by
  cases fuel with
  | zero => rfl
  | succ fuel => rw [scanWith, scanWith, same]

theorem scanWith_succ (taken : next (skipGap cs) = some (first, after)) (fuel : Nat) :
    scanWith (fuel + 1) cs = (scanWith fuel after).map (first :: ·) := by
  rw [scanWith]
  cases front : skipGap cs with
  | nil =>
    rw [front] at taken
    cases taken
  | cons c rest =>
    rw [front] at taken
    simp only [taken, Option.bind_some]

theorem Lexed.scanWith_eq (lexed : Lexed cs lexemes rest) (fuel : Nat) :
    scanWith (fuel + lexemes.length) cs = (scanWith fuel rest).map (lexemes ++ ·) := by
  induction lexed with
  | done => simp
  | gap same _ ih => rw [scanWith_eq_of_skipGap same, ih]
  | lexeme taken _ ih =>
    rw [List.length_cons, ← Nat.add_assoc, scanWith_succ taken, ih, Option.map_map]
    rfl

-- All of the text, if there is room for its lexemes.
theorem Lexed.scan_eq (lexed : Lexed cs lexemes []) (short : lexemes.length ≤ cs.length) :
    scan cs = some lexemes := by
  obtain ⟨room, spare⟩ := Nat.exists_eq_add_of_le short
  rw [scan, show cs.length + 1 = (room + 1) + lexemes.length by omega, lexed.scanWith_eq]
  simp [scanWith, skipGap]

-- The reader stops somewhere in the text, however much room it has.
def Stuck (cs : List Char) : Prop := ∀ fuel, scanWith fuel cs = none

theorem stuck_of_next (front : skipGap cs = c :: rest) (refused : next (c :: rest) = none) :
    Stuck cs := by
  intro fuel
  cases fuel with
  | zero => rfl
  | succ fuel =>
    rw [scanWith, front]
    simp only [refused, Option.bind_none]

theorem Lexed.stuck (lexed : Lexed cs lexemes rest) (stuck : Stuck rest) : Stuck cs := by
  induction lexed with
  | done => exact stuck
  | gap same _ ih =>
    intro fuel
    rw [scanWith_eq_of_skipGap same]
    exact ih stuck fuel
  | lexeme taken _ ih =>
    intro fuel
    cases fuel with
    | zero => rfl
    | succ fuel => rw [scanWith_succ taken, ih stuck fuel, Option.map_none]

-- As many lexemes as are asked for; what is fixed in a text is read by running it.
def readSome : Nat → List Char → Option (List Lexeme × List Char)
  | 0, cs => some ([], cs)
  | count + 1, cs =>
    (next (skipGap cs)).bind fun (first, after) =>
      (readSome count after).map fun (others, rest) => (first :: others, rest)

theorem Lexed.of_readSome (read : readSome count cs = some (lexemes, rest)) :
    Lexed cs lexemes rest := by
  induction count generalizing cs lexemes with
  | zero =>
    cases read
    exact .done _
  | succ count ih =>
    rw [readSome, Option.bind_eq_some_iff] at read
    obtain ⟨⟨first, after⟩, taken, others⟩ := read
    obtain ⟨⟨more, left⟩, read, same⟩ := Option.map_eq_some_iff.mp others
    cases same
    exact .lexeme taken (ih read)

section Words
variable {c : Char} {cs after : List Char}

-- What may stand behind a word that is read as one.
def endsWord : List Char → Bool
  | [] => true
  | c :: _ => !Text.isIdentifierPart c && c != '"' && c != '\'' && c != '#'

-- Neither a quote nor a hash, which would turn some letters in front of them into a literal.
def isPlainFront (cs : List Char) : Bool :=
  cs.head?.all fun c => c != '"' && c != '\'' && c != '#'

theorem isPlainFront_append (parts : cs.all Naming.isNamePart = true)
    (ends : endsWord after = true) : isPlainFront (cs ++ after) = true := by
  cases cs with
  | nil =>
    cases after with
    | nil => rfl
    | cons c rest =>
      simp only [endsWord, Bool.and_eq_true] at ends
      simp [isPlainFront, ends]
  | cons c rest =>
    rw [List.all_cons, Bool.and_eq_true] at parts
    exact Naming.part_forall (p := fun c => (c != '"' && c != '\'' && c != '#') = true)
      (by decide +kernel) parts.1

theorem isPlainFront_behind (parts : cs.all Naming.isNamePart = true)
    (ends : endsWord after = true) (same : cs ++ after = 'r' :: rest) :
    isPlainFront rest = true := by
  cases cs with
  | nil =>
    rw [← List.nil_append after, same] at ends
    cases ends
  | cons c rest =>
    cases same
    rw [List.all_cons, Bool.and_eq_true] at parts
    exact isPlainFront_append parts.2 ends

theorem raw_plain (plain : isPlainFront cs = true) (flavour : Literal.Flavour) :
    Literal.raw flavour cs = none := by
  cases cs with
  | nil => rfl
  | cons c rest =>
    simp only [isPlainFront, List.head?_cons, Option.all_some, Bool.and_eq_true, bne_iff_ne] at plain
    simp only [Literal.raw, beq_eq_false_iff_ne.mpr plain.2, List.takeWhile_cons,
      Bool.false_eq_true, if_false, List.length_nil, List.drop_zero]
    split
    · simp_all
    · rfl

theorem integer_word (start : Naming.isNameStart c = true) (rest : List Char) :
    Literal.integer (c :: rest) = none := by
  have digit : Text.isAsciiDigit c = false :=
    Naming.start_forall (p := fun c => Text.isAsciiDigit c = false) (by decide +kernel) start
  have value : (Literal.isHexDigit c && decide (Literal.hexValue c < 10)) = false :=
    Naming.start_forall
      (p := fun c => (Literal.isHexDigit c && decide (Literal.hexValue c < 10)) = false)
      (by decide +kernel) start
  unfold Literal.integer
  split
  case h_4 =>
    rw [Literal.digitsInBase, digit, value]
    simp
  all_goals
    rename_i same
    cases same
    cases digit

-- Some letters open literals, but only together with what stands behind them.
theorem skip_word (start : Naming.isNameStart c = true) (parts : cs.all Naming.isNamePart = true)
    (ends : endsWord after = true) : Literal.skip (c :: (cs ++ after)) = none := by
  have first := isPlainFront_append parts ends
  have second : ∀ rest, cs ++ after = 'r' :: rest → isPlainFront rest = true := fun _ =>
    isPlainFront_behind parts ends
  have digit : Text.isAsciiDigit c = false :=
    Naming.start_forall (p := fun c => Text.isAsciiDigit c = false) (by decide +kernel) start
  generalize cs ++ after = tail at first second
  unfold Literal.skip
  split
  case h_9 =>
    rw [Literal.float, digit, if_neg Bool.false_ne_true, Option.none_or]
    exact integer_word start _
  all_goals
    rename_i same
    cases same
  case h_1 | h_8 => cases start
  case h_2 => exact raw_plain first _
  case h_4 | h_7 => exact raw_plain (second _ rfl) _
  all_goals cases first

theorem startsQuotedForm_word (parts : cs.all Naming.isNamePart = true)
    (ends : endsWord after = true) : startsQuotedForm (c :: (cs ++ after)) = false := by
  have first := isPlainFront_append parts ends
  have second : ∀ rest, cs ++ after = 'r' :: rest → isPlainFront rest = true := fun _ =>
    isPlainFront_behind parts ends
  generalize cs ++ after = tail at first second
  unfold startsQuotedForm
  split
  case h_11 => rfl
  all_goals
    rename_i same
    cases same
  case h_6 | h_7 | h_9 | h_10 => cases second _ rfl
  all_goals cases first

theorem takePlainWord_name (name : Naming.isName cs = true) (ends : endsWord after = true) :
    takePlainWord (cs ++ after) = some (cs, after) := by
  cases cs with
  | nil => cases name
  | cons c rest =>
    rw [Naming.isName, Bool.and_eq_true] at name
    have parts : ∀ d ∈ rest, Text.isIdentifierPart d = true := fun d inside =>
      Naming.isIdentifierPart_of_part (List.all_eq_true.mp name.2 d inside)
    have stops : ∀ d ∈ after.head?, Text.isIdentifierPart d = false := by
      intro d first
      obtain ⟨behind, rfl⟩ := List.head?_eq_some_iff.mp first
      simp only [endsWord, Bool.and_eq_true, Bool.not_eq_true'] at ends
      exact ends.1.1.1
    rw [List.cons_append, takePlainWord, if_pos (Naming.isIdentifierStart_of_start name.1),
      takeWhile_front parts stops, dropWhile_front parts stops]

-- A letter begins neither a comment nor a bracket nor a mark, and it is no gap.
structure OpensWord (c : Char) : Prop where
  noSlash : c ≠ '/'
  noQuote : c ≠ '\''
  noGap : isGap c = false
  noOpening : openingOf c = none
  noClosing : closingOf c = none
  noMark : marks.contains c = false

instance (c : Char) : Decidable (OpensWord c) :=
  decidable_of_iff (c ≠ '/' ∧ c ≠ '\'' ∧ isGap c = false ∧ openingOf c = none ∧
      closingOf c = none ∧ marks.contains c = false)
    ⟨fun ⟨slash, quote, gap, front, back, sign⟩ => ⟨slash, quote, gap, front, back, sign⟩,
      fun ⟨slash, quote, gap, front, back, sign⟩ => ⟨slash, quote, gap, front, back, sign⟩⟩

theorem opensWord_of_start (start : Naming.isNameStart c = true) : OpensWord c :=
  Naming.start_forall (p := OpensWord) (by decide +kernel) start

theorem OpensWord.skipGap (opens : OpensWord c) (rest : List Char) :
    skipGap (c :: rest) = c :: rest := by
  unfold Source.skipGap
  split
  case h_4 =>
    rename_i same
    cases same
    rw [opens.noGap]
    rfl
  all_goals
    rename_i same
    cases same
  all_goals exact (opens.noSlash rfl).elim

theorem OpensWord.takeDoc (opens : OpensWord c) (rest : List Char) :
    takeDoc (c :: rest) = none := by
  unfold Source.takeDoc
  split
  case h_5 => rfl
  all_goals
    rename_i same
    cases same
    exact (opens.noSlash rfl).elim

theorem OpensWord.startsMark (opens : OpensWord c) (rest : List Char) :
    startsMark (c :: rest) = false := by
  unfold Lexeme.startsMark
  split
  case h_3 =>
    rename_i same
    cases same
    exact opens.noMark
  all_goals
    rename_i same
    cases same
  all_goals exact (opens.noSlash rfl).elim

theorem OpensWord.takeMark (opens : OpensWord c) (rest : List Char) :
    takeMark (c :: rest) = none := by
  unfold Lexeme.takeMark
  split
  case h_1 =>
    rename_i same
    cases same
    exact (opens.noQuote rfl).elim
  case h_2 =>
    rename_i same
    cases same
    rw [opens.startsMark]
    rfl
  case h_3 => rfl

theorem startsMark_name (name : Naming.isName cs = true) (after : List Char) :
    startsMark (cs ++ after) = false := by
  cases cs with
  | nil => cases name
  | cons c rest =>
    rw [Naming.isName, Bool.and_eq_true] at name
    exact (opensWord_of_start name.1).startsMark _

theorem takeWord_word (name : Naming.isName cs = true) (ends : endsWord after = true) :
    takeWord (cs ++ after) = some (false, cs, after) := by
  have plain := takePlainWord_name name ends
  cases cs with
  | nil => cases name
  | cons c rest =>
    rw [Naming.isName, Bool.and_eq_true] at name
    have first := isPlainFront_append name.2 ends
    rw [List.cons_append] at plain ⊢
    generalize rest ++ after = tail at first plain
    unfold takeWord
    split
    · rename_i same
      cases same
      cases first
    · rw [plain]
      rfl

theorem next_word (name : Naming.isName cs = true) (ends : endsWord after = true) :
    next (skipGap (cs ++ after)) = some (.word false (String.ofList cs), after) := by
  have word := takeWord_word name ends
  cases cs with
  | nil => cases name
  | cons c rest =>
    rw [Naming.isName, Bool.and_eq_true] at name
    have opens := opensWord_of_start name.1
    rw [List.cons_append] at word ⊢
    rw [opens.skipGap, next, opens.takeDoc]
    simp only [opens.noOpening, opens.noClosing]
    rw [takeLiteral, skip_word name.1 name.2 ends, opens.takeMark, takeName,
      startsQuotedForm_word name.2 ends, word]
    rfl

-- A word behind `r#` means no keyword.
theorem next_raw (name : Naming.isName cs = true) (ends : endsWord after = true)
    (may : neverRaw.contains (String.ofList cs) = false) :
    next (skipGap ('r' :: '#' :: (cs ++ after))) = some (.word true (String.ofList cs), after) := by
  have plain := takePlainWord_name name ends
  have front := isPlainFront_append (Naming.parts_of_name name) ends
  generalize cs ++ after = tail at front plain
  have noLiteral : Literal.skip ('r' :: '#' :: tail) = none := by
    cases tail with
    | nil => rfl
    | cons d behind =>
      simp only [isPlainFront, List.head?_cons, Option.all_some, Bool.and_eq_true, bne_iff_ne] at front
      have one : (('#' :: d :: behind).takeWhile (· == '#')).length = 1 := by
        simp [front.2]
      rw [Literal.skip, Literal.raw, one]
      simp only [List.drop_succ_cons, List.drop_zero]
      split
      · simp_all
      · rfl
  have noQuote : startsQuotedForm ('r' :: '#' :: tail) = false := by
    unfold startsQuotedForm
    split
    case h_11 => rfl
    all_goals
      rename_i same
      cases same
    all_goals cases front
  have skipped : skipGap ('r' :: '#' :: tail) = 'r' :: '#' :: tail :=
    OpensWord.skipGap (by decide +kernel) _
  have word : takeWord ('r' :: '#' :: tail) = some (true, cs, after) := by
    simp only [takeWord, plain, Option.bind_some, may, Bool.false_eq_true, if_false]
  rw [skipped, next, OpensWord.takeDoc (by decide +kernel)]
  simp only [show openingOf 'r' = none from rfl, show closingOf 'r' = none from rfl]
  rw [takeLiteral, noLiteral, OpensWord.takeMark (by decide +kernel), takeName, noQuote, word]
  rfl

end Words

end Lexeme

theorem read_word (name : Naming.isName cs = true) :
    Token.read cs = some [.word false (String.ofList cs)] := by
  have lexed : Lexeme.Lexed (cs ++ []) [.word false (String.ofList cs)] [] :=
    .lexeme (Lexeme.next_word name rfl) (.done [])
  rw [List.append_nil] at lexed
  cases cs with
  | nil => cases name
  | cons c rest =>
    have start : Token.dropByteOrderMark (c :: rest) = c :: rest := by
      unfold Token.dropByteOrderMark
      split
      · rename_i same
        cases same
        cases name
      · rfl
    rw [Token.read, start, lexed.scan_eq (Nat.le_add_left 1 _)]
    rfl

-- The source takes a name for an identifier unless it keeps the word for itself.
theorem isIdentifier_name (name : Naming.isName cs = true) :
    isIdentifier cs = !isKeyword (String.ofList cs) := by
  rw [isIdentifier, read_word name]
  exact Bool.false_or _

mutual
def Token.flatten : Token → List Lexeme
  | .word raw name => [.word raw name]
  | .mark c joint => [.mark c joint]
  | .literal text => [.literal text]
  | .doc inner text => [.doc inner text]
  | .group bracket content => .opening bracket :: (flattenAll content ++ [.closing bracket])

def flattenAll : List Token → List Lexeme
  | [] => []
  | token :: rest => token.flatten ++ flattenAll rest
end

theorem flattenAll_append (tokens others : List Token) :
    flattenAll (tokens ++ others) = flattenAll tokens ++ flattenAll others := by
  induction tokens with
  | nil => rfl
  | cons token rest ih => rw [List.cons_append, flattenAll, flattenAll, ih, List.append_assoc]

theorem flattenAll_flatMap (values : List α) (tokens : α → List Token) :
    flattenAll (values.flatMap tokens) = values.flatMap fun a => flattenAll (tokens a) := by
  induction values with
  | nil => rfl
  | cons a rest ih => rw [List.flatMap_cons, flattenAll_append, ih, List.flatMap_cons]

-- Every token is made of at least one lexeme.
theorem length_le_flattenAll (tokens : List Token) : tokens.length ≤ (flattenAll tokens).length := by
  induction tokens with
  | nil => exact Nat.le_refl 0
  | cons token rest ih =>
    have some : 1 ≤ token.flatten.length := by
      cases token <;> simp [Token.flatten]
    rw [flattenAll, List.length_append, List.length_cons]
    omega

theorem length_front_le (front rest : List Token) :
    front.length ≤ (flattenAll (front ++ rest)).length := by
  rw [flattenAll_append, List.length_append]
  exact Nat.le_add_right_of_le (length_le_flattenAll front)

-- What is in a group is part of the whole.
theorem flattenAll_content_le (inside : .group bracket content ∈ tokens) :
    (flattenAll content).length ≤ (flattenAll tokens).length := by
  obtain ⟨front, behind, rfl⟩ := List.append_of_mem inside
  rw [flattenAll_append, flattenAll, Token.flatten]
  simp only [List.length_append, List.length_cons]
  omega

theorem length_part_le {values : List α} (part : α → List β) (inside : a ∈ values) :
    (part a).length ≤ (values.flatMap part).length :=
  (List.infix_of_mem_flatten (List.mem_map_of_mem inside)).length_le

theorem length_values_le {values : List α} {part : α → List β} (each : ∀ a ∈ values, part a ≠ []) :
    values.length ≤ (values.flatMap part).length := by
  induction values with
  | nil => exact Nat.le_refl 0
  | cons a rest ih =>
    obtain ⟨some, others⟩ := List.forall_mem_cons.mp each
    have first := List.length_pos_iff.mpr some
    have later := ih others
    rw [List.flatMap_cons, List.length_append, List.length_cons]
    omega

theorem flattenAll_item_le {items : List (List Token)} (inside : item ∈ items) :
    (flattenAll item).length ≤ (flattenAll items.flatten).length := by
  have part := length_part_le flattenAll inside
  rwa [← List.flatMap_id', flattenAll_flatMap]

theorem length_items_le {items : List (List Token)} (each : ∀ item ∈ items, item ≠ []) :
    items.length ≤ (flattenAll items.flatten).length := by
  have count := length_values_le each
  rw [List.flatMap_id'] at count
  exact Nat.le_trans count (length_le_flattenAll _)

mutual
theorem Token.nest_flatten (token : Token) (stack : List (Bracket × List Token)) (held : List Token)
    (rest : List Lexeme) :
    Token.nest stack held (token.flatten ++ rest) = Token.nest stack (token :: held) rest := by
  cases token with
  | word | mark | literal | doc => rfl
  | group bracket content =>
    rw [Token.flatten, List.cons_append, List.append_assoc, Token.nest, nest_flattenAll content]
    simp [Token.nest]

theorem nest_flattenAll (tokens : List Token) (stack : List (Bracket × List Token))
    (held : List Token) (rest : List Lexeme) :
    Token.nest stack held (flattenAll tokens ++ rest) =
      Token.nest stack (tokens.reverse ++ held) rest := by
  cases tokens with
  | nil => rfl
  | cons token others =>
    rw [flattenAll, List.append_assoc, Token.nest_flatten token, nest_flattenAll others]
    simp
end

-- The brackets of a row are matched, so the whole text is read as that row.
theorem Token.read_eq (lexed : Lexeme.Lexed cs (flattenAll tokens) [])
    (short : (flattenAll tokens).length ≤ cs.length)
    (front : Token.dropByteOrderMark cs = cs) : Token.read cs = some tokens := by
  have nested := nest_flattenAll tokens [] [] []
  rw [List.append_nil, List.append_nil] at nested
  rw [Token.read, front, lexed.scan_eq short, Option.bind_some, nested, Token.nest,
    List.reverse_reverse]
  rfl

end SchemaBindings.Source
