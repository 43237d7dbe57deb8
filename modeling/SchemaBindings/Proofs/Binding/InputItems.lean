import SchemaBindings.Proofs.Binding.Lexed

namespace SchemaBindings
open Source

namespace Binding
open Source.Lexeme

section Types
variable {cs : List Char} {lexemes : List Lexeme} {depth : Nat}

def TypeExpr.tokens : TypeExpr → List Token
  | .named name => [plain name]
  | .boxed inner => wrapped "Box" inner.tokens
  | .list inner => wrapped "Vec" inner.tokens
  | .optional inner => wrapped "Option" inner.tokens

-- A type as a text has it, in front of a mark.
structure LexedType (cs : List Char) (lexemes : List Lexeme) : Prop where
  reads : ∀ after, endsWord after = true → startsMark after = true →
    Lexed (cs ++ after) lexemes after
  apart : ∀ after, startsMark (cs ++ after) = false
  short : lexemes.length ≤ cs.length

theorem lexedType_name (name : Naming.isName cs = true) :
    LexedType cs [.word false (String.ofList cs)] :=
  ⟨fun after ends _ => (loose_name name).reads after ends, startsMark_name name,
    (loose_name name).short⟩

-- The angle in front stands before a word, the one behind before a mark.
theorem LexedType.wrapped {wrapper : List Char} (name : Naming.isName wrapper = true)
    (inner : LexedType cs lexemes) :
    LexedType (wrapper ++ '<' :: (cs ++ ['>']))
      (.word false (String.ofList wrapper) :: .mark '<' false :: (lexemes ++ [.mark '>' true])) := by
  have outer := loose_name name
  refine ⟨fun after _ mark => ?_, fun after => ?_, ?_⟩
  · have last : Lexed ('>' :: after) [.mark '>' true] after :=
      .mark (fun _ => rfl) mark (.done after)
    have content := (inner.reads ('>' :: after) rfl rfl).append last
    have angle : Lexed ('<' :: (cs ++ '>' :: after)) (.mark '<' false :: (lexemes ++ [.mark '>' true]))
        after := .mark (fun _ => rfl) (inner.apart _) content
    have all := (outer.reads ('<' :: (cs ++ '>' :: after)) rfl).append angle
    simpa using all
  · rw [List.append_assoc]
    exact startsMark_name name _
  · have first := outer.short
    have others := inner.short
    simp only [List.length_append, List.length_cons, List.length_nil] at first ⊢
    omega

theorem LexedType.solid {behind : List Char} {others : List Lexeme} (inner : LexedType cs lexemes)
    (last : Solid behind others)
    (ends : ∀ rest, endsWord (behind ++ rest) = true ∧ startsMark (behind ++ rest) = true) :
    Solid (cs ++ behind) (lexemes ++ others) := by
  refine ⟨fun rest => ?_, ?_⟩
  · rw [List.append_assoc]
    exact (inner.reads _ (ends rest).1 (ends rest).2).append (last.reads rest)
  · rw [List.length_append, List.length_append]
    exact Nat.add_le_add inner.short last.short

theorem lexedType_text {type : TypeExpr} (leaf : Naming.IsName type.leafName) :
    LexedType type.text.toList (flattenAll type.tokens) := by
  have layer : ∀ (wrapper : List Char) (inner : TypeExpr), Naming.isName wrapper = true →
      LexedType inner.text.toList (flattenAll inner.tokens) →
      LexedType (String.ofList wrapper ++ "<" ++ inner.text ++ ">").toList
        (flattenAll (wrapped (String.ofList wrapper) inner.tokens)) := by
    intro wrapper inner name within
    have around := within.wrapped name
    simp only [String.toList_append, String.toList_ofList, List.append_assoc]
    simp only [Source.wrapped, flattenAll, flattenAll_append, Token.flatten]
    exact around
  induction type with
  | named name =>
    have word := lexedType_name leaf
    rwa [String.ofList_toList] at word
  | boxed inner ih => exact layer ['B', 'o', 'x'] inner (by decide) (ih leaf)
  | list inner ih => exact layer ['V', 'e', 'c'] inner (by decide) (ih leaf)
  | optional inner ih => exact layer ['O', 'p', 't', 'i', 'o', 'n'] inner (by decide) (ih leaf)

-- Every layer takes one level of the grammar.
theorem readsType_tokens {type : TypeExpr} (leaf : isKeyword type.leafName = false)
    (deep : type.tokens.length ≤ depth) : ReadsType depth type.tokens := by
  have layer : ∀ (wrapper : String) (tokens : List Token), isKeyword wrapper = false →
      (∀ depth, tokens.length ≤ depth → ReadsType depth tokens) →
      ∀ depth, (wrapped wrapper tokens).length ≤ depth → ReadsType depth (wrapped wrapper tokens) := by
    intro wrapper tokens outer inner depth deep
    simp only [wrapped, List.length_cons, List.length_append, List.length_nil] at deep
    obtain ⟨depth, rfl⟩ := Nat.exists_eq_succ_of_ne_zero (show depth ≠ 0 by omega)
    exact (inner depth (by omega)).wrapped outer
  induction type generalizing depth with
  | named name =>
    obtain ⟨depth, rfl⟩ := Nat.exists_eq_succ_of_ne_zero (Nat.ne_zero_of_lt deep)
    exact readsType_name depth leaf
  | boxed inner ih => exact layer _ _ (by decide +kernel) (fun _ => ih leaf) depth deep
  | list inner ih => exact layer _ _ (by decide +kernel) (fun _ => ih leaf) depth deep
  | optional inner ih => exact layer _ _ (by decide +kernel) (fun _ => ih leaf) depth deep

end Types

section Fields
variable {field : Field} {identifier : String}

-- The hash in front of a word that is written raw belongs to no name.
def identifierToken (identifier : String) : Token :=
  match identifier.toList with
  | 'r' :: '#' :: name => .word true (String.ofList name)
  | _ => .word false identifier

-- How an identifier is read, and that it may be the name of a field.
theorem legal_token (legal : Naming.Legal identifier) :
    ∃ raw name, identifierToken identifier = .word raw name ∧
      Loose identifier.toList [.word raw name] ∧ (raw = true ∨ isKeyword name = false) := by
  rcases legal with ⟨name, free⟩ | ⟨known, may, written⟩
  · refine ⟨false, identifier, ?_, loose_word name, .inr free⟩
    unfold identifierToken
    split
    · rename_i shown
      rw [Naming.IsName, shown] at name
      cases name
    · rfl
  · rename_i keyword
    have names : ∀ keyword ∈ keywords, Naming.isName keyword.toList = true := by decide +kernel
    have shown : identifier.toList = 'r' :: '#' :: keyword.toList := by
      rw [written, String.toList_append]
      rfl
    have raw := loose_raw (names keyword known) (by
      rwa [String.ofList_toList, Bool.eq_false_iff, ne_eq, List.contains_iff_mem])
    rw [String.ofList_toList] at raw
    refine ⟨true, keyword, ?_, shown ▸ raw, .inl rfl⟩
    rw [identifierToken, shown]
    exact congrArg (Token.word true) String.ofList_toList

def skippedIfNone : List Token :=
  [comma, plain "skip_serializing_if", .mark '=' false, .literal "\"Option::is_none\""]

def fieldNotes (field : Field) : List Token :=
  .doc false (if (boundField field).required then " (Required.)" else " (Optional.)") ::
    ((match field.description with
      | some text => .doc false "" :: docTokens text
      | none => []) ++
    renameNote field.name (if (boundField field).required then [] else skippedIfNone))

def fieldTokens (field : Field) : List Token :=
  fieldNotes field ++ isPublic :: identifierToken (Naming.fieldIdentifier field.name) ::
    .mark ':' false :: (boundField field).expr.tokens

theorem lexed_skipped (field : Field) :
    LexedLines ["    #[serde(rename = " ++ Text.Quoted.encode field.name ++
        ", skip_serializing_if = \"Option::is_none\")]"]
      (flattenAll (renameNote field.name skippedIfNone)) := by
  have plain : ∀ c ∈ "Option::is_none".toList, IsPlain c := by simp [IsPlain]
  have condition : Solid [',', ' ', 's', 'k', 'i', 'p', '_', 's', 'e', 'r', 'i', 'a', 'l', 'i', 'z',
        'i', 'n', 'g', '_', 'i', 'f', ' ', '=', ' ']
      [.mark ',' false, .word false "skip_serializing_if", .mark '=' false] :=
    .run 3 [' '] (fun _ => rfl) (fun _ => rfl) (by decide)
  have closed : Solid [')', ']', '\n'] [.closing .round, .closing .square] :=
    .run 2 ['\n'] (fun _ => rfl) (fun _ => rfl) (by decide)
  have line : LexedLines ["    #[serde(rename = " ++ Text.Quoted.encode field.name ++
        ", skip_serializing_if = \"Option::is_none\")]"]
      ([.mark '#' false, .opening .square, .word false "serde", .opening .round,
        .word false "rename", .mark '=' false] ++ ([.literal (Text.Quoted.encode field.name)] ++ _)) :=
    .around (.run 6 [' '] (fun _ => rfl) (fun _ => rfl) (by decide)) (loose_encode _)
      ((condition.loose (loose_quoted (quoted_plain plain))).solid closed fun _ => rfl) fun _ => rfl
  exact line

theorem leaf_boundName {name : String} (known : Naming.IsName name) (free : isKeyword name = false) :
    Naming.IsName (boundName name) ∧ isKeyword (boundName name) = false :=
  forall_boundName (p := fun name => Naming.IsName name ∧ isKeyword name = false)
    (by decide +kernel) ⟨known, free⟩

theorem lexed_fieldLine {type : TypeExpr} (legal : Naming.Legal identifier)
    (leaf : Naming.IsName type.leafName) :
    LexedLines ["    pub " ++ identifier ++ ": " ++ type.text ++ ","]
      (flattenAll (isPublic :: identifierToken identifier :: .mark ':' false ::
        (type.tokens ++ [comma]))) := by
  obtain ⟨raw, name, same, loose, _⟩ := legal_token legal
  have front : Solid [' ', ' ', ' ', ' ', 'p', 'u', 'b', ' '] [.word false "pub"] :=
    .run 1 [' '] (fun _ => rfl) (fun _ => rfl) (by decide)
  have last : Solid [',', '\n'] [.mark ',' false] :=
    .run 1 ['\n'] (fun _ => rfl) (fun _ => rfl) (by decide)
  have line : LexedLines ["    pub " ++ identifier ++ ": " ++ type.text ++ ","]
      (([.word false "pub"] ++ [.word raw name]) ++
        ([.mark ':' false] ++ (flattenAll type.tokens ++ [.mark ',' false]))) :=
    .twice (front.loose loose) (.run 1 [' '] (fun _ => rfl) (fun _ => rfl) (by decide))
      ((lexedType_text leaf).solid last fun _ => ⟨rfl, rfl⟩) fun _ => rfl
  rw [same]
  simp only [flattenAll, flattenAll_append, Token.flatten, isPublic, comma, List.cons_append,
    List.nil_append] at line ⊢
  exact line

theorem lexed_fieldBlock (name : Naming.IsName field.name)
    (leaf : Naming.IsName (boundField field).expr.leafName) :
    LexedWhen (Tame field.description) (fieldBlock field)
      (flattenAll (fieldTokens field ++ [comma])) := by
  have tier : LexedLines [if (boundField field).required then "    /// (Required.)"
        else "    /// (Optional.)"]
      [.doc false (if (boundField field).required then " (Required.)" else " (Optional.)")] := by
    split
    · exact lexed_doc solid_indent rfl (by decide) (by decide) (by decide)
    · exact lexed_doc solid_indent rfl (by decide) (by decide) (by decide)
  have documented : LexedWhen (Tame field.description) (match field.description with
        | some text => "    ///" :: docLines "    " text
        | none => [])
      (flattenAll (match field.description with
        | some text => .doc false "" :: docTokens text
        | none => [])) := by
    cases field.description with
    | none => exact LexedLines.nil.when tame_none
    | some text =>
      have blank : LexedLines ["    ///"] [.doc false ""] := lexed_doc solid_indent rfl nofun nofun nofun
      exact (blank.before (lexed_docLines solid_indent text)).congr tame_some.symm
  have renamed : LexedLines [renameLine field.name (boundField field).required]
      (flattenAll (renameNote field.name
        (if (boundField field).required then [] else skippedIfNone))) := by
    rw [renameLine]
    split
    · exact lexed_rename field.name
    · exact lexed_skipped field
  have own := lexed_fieldLine (Naming.legal_fieldIdentifier name) leaf
  have all := tier.before (documented.behind (renamed.append own))
  simp only [fieldBlock, inputFieldLines, fieldTokens, fieldNotes, flattenAll_append, flattenAll,
    Token.flatten, List.append_assoc, List.cons_append, List.nil_append] at all ⊢
  exact all

end Fields

section Inputs
variable {decl : InputDecl} {name : String}

def inputTraits (decl : InputDecl) : List String :=
  if decl.allOptional then ["Debug", "Clone", "Default", "PartialEq", "Serialize", "Deserialize"]
  else ["Debug", "Clone", "PartialEq", "Serialize", "Deserialize"]

def inputTokens (decl : InputDecl) : List Token :=
  (headTokens decl.name decl.description ++ deriveNote (inputTraits decl)) ++
  [isPublic, plain "struct", plain decl.name,
    .group .curly (decl.fields.flatMap fun field => fieldTokens field ++ [comma])]

def markTokens (name : String) : List Token :=
  [implements, plain "Input", plain "for", plain name, .group .curly []]

theorem lexed_deriveLine (decl : InputDecl) :
    LexedLines [deriveLine decl] (flattenAll (deriveNote (inputTraits decl))) := by
  unfold deriveLine inputTraits
  split
  · exact .fixed (fun _ => rfl) (by decide)
  · exact .fixed (fun _ => rfl) (by decide)

theorem lexed_inputBlock (known : Naming.IsName decl.name)
    (fields : ∀ field ∈ decl.fields, LexedWhen (Tame field.description) (fieldBlock field)
      (flattenAll (fieldTokens field ++ [comma]))) :
    LexedWhen decl.Tame (inputBlock decl)
      (flattenAll (inputTokens decl ++ markTokens decl.name)) := by
  have opening : LexedLines ["pub struct " ++ decl.name ++ " \x7b"]
      ([.word false "pub", .word false "struct"] ++ [.word false decl.name, .opening .curly]) :=
    lexed_body (.run 2 [' '] (fun _ => rfl) (fun _ => rfl) (by decide)) known
  have members : LexedWhen (∀ field ∈ decl.fields, Tame field.description)
      (decl.fields.flatMap fieldBlock)
      (flattenAll (decl.fields.flatMap fun field => fieldTokens field ++ [comma])) := by
    rw [flattenAll_flatMap]
    exact .flatMap fields
  have marked : LexedLines ["impl Input for " ++ decl.name ++ " \x7b\x7d"]
      ([.word false "impl", .word false "Input", .word false "for"] ++
        ([.word false decl.name] ++ [.opening .curly, .closing .curly])) :=
    .around (.run 3 [' '] (fun _ => rfl) (fun _ => rfl) (by decide)) (loose_word known)
      (.run 2 ['\n'] (fun _ => rfl) (fun _ => rfl) (by decide)) fun _ => rfl
  have front := ((lexed_headLines known decl.description).behind (lexed_deriveLine decl)).behind
    opening
  have all := (front.append members).behind ((lexed_end.append marked).append lexed_empty)
  rw [inputBlock_eq]
  simp only [inputTokens, markTokens, flattenAll_append, flattenAll, Token.flatten, plain, implements,
    isPublic, List.append_assoc, List.cons_append, List.nil_append, List.append_nil] at all ⊢
  exact all

theorem notes_fieldNotes (field : Field) : Notes (fieldNotes field) := by
  have documented : Notes (match field.description with
      | some text => .doc false "" :: docTokens text
      | none => []) := by
    cases field.description with
    | none => exact .nil
    | some text => exact .doc _ (notes_docTokens text)
  exact .doc _ (documented.append (notes_rename _ _))

theorem reads_input (free : isKeyword decl.name = false)
    (fields : ∀ field ∈ decl.fields, Naming.IsName field.name ∧
      isKeyword (boundField field).expr.leafName = false) : Reads (inputTokens decl) := by
  intro depth room enough deep
  have inItem : Token.group .curly
      (decl.fields.flatMap fun field => fieldTokens field ++ [comma]) ∈ inputTokens decl := by
    simp [inputTokens]
  obtain ⟨count, own⟩ := parts_fit inItem enough
  refine readsItem_behind ((notes_headTokens _ _).append (notes_derive _))
    ((length_front_le _ _).trans enough) fun others => ?_
  refine passes_structItem free (fun field inside => ⟨by simp [fieldTokens], fun after => ?_⟩)
    (Nat.lt_succ_of_le count) others
  obtain ⟨name, leaf⟩ := fields field inside
  have part := own field inside
  simp only [fieldTokens, List.length_append, List.length_cons] at part
  have notes : (fieldNotes field).length ≤ room + 29 := by omega
  have layers : (boundField field).expr.tokens.length ≤ depth + 8 := by omega
  obtain ⟨raw, word, same, _, known⟩ := legal_token (Naming.legal_fieldIdentifier name)
  rw [fieldTokens, same]
  exact passes_namedField (notes_fieldNotes field) notes known
    (fun others => (readsType_tokens leaf layers).passes true _ (.comma false others)) after

theorem reads_mark (free : isKeyword name = false) : Reads (markTokens name) := by
  intro depth room _ _
  have trait : ∀ after, Passes (grammarTo (depth + 8) (.type true))
      (plain "Input" :: ([] ++ plain "for" :: after)) (room + 30) (plain "for" :: after) :=
    fun _ => ⟨_, rfl⟩
  have member : Passes (repeated (implementedMember (grammarTo (depth + 8)))) [] (room + 30) [] :=
    ⟨_, rfl⟩
  exact readsItem_word fun others =>
    passes_traitItem (by decide +kernel) trait free rfl member others

theorem ofItems_inputBlock (known : Naming.IsName decl.name) (free : isKeyword decl.name = false)
    (names : ∀ field ∈ decl.fields, Naming.IsName field.name)
    (leaves : ∀ field ∈ decl.fields,
      Naming.IsName field.type.leaf.2 ∧ isKeyword field.type.leaf.2 = false) :
    OfItemsWhen decl.Tame (inputBlock decl) := by
  have bound : ∀ field ∈ decl.fields, Naming.IsName (boundField field).expr.leafName ∧
      isKeyword (boundField field).expr.leafName = false := by
    intro field inside
    rw [leafName_boundField]
    exact leaf_boundName (leaves field inside).1 (leaves field inside).2
  have lexed := lexed_inputBlock known fun field inside =>
    lexed_fieldBlock (names field inside) (bound field inside).1
  rw [← List.append_nil (markTokens decl.name)] at lexed
  refine ⟨[inputTokens decl, markTokens decl.name], lexed, ?_⟩
  simp only [List.forall_mem_cons]
  exact ⟨reads_input free fun field inside => ⟨names field inside, (bound field inside).2⟩,
    reads_mark free, nofun⟩

-- The trait, with the list of the records in its documentation.
theorem ofItems_markerLines {decls : Declarations}
    (names : ∀ decl ∈ decls.inputs, Naming.IsName decl.name) : OfItems (markerLines decls) := by
  let listed : Token :=
    .doc false (String.ofList (' ' :: ((", ".intercalate decls.inputNames).toList ++ ['.'])))
  let notes : List Token :=
    [.doc false " Input represents one of the Input structs:", .doc false "", listed]
  let item : List Token :=
    [isPublic, plain "trait", plain "Input", .mark ':' false, plain "Serialize", .group .curly []]
  have absent : ∀ c : Char, c ∉ ", ".toList → Naming.isNamePart c = false →
      c ∉ (", ".intercalate decls.inputNames).toList := by
    intro c apart other there
    rw [String.toList_intercalate] at there
    rcases Naming.mem_intercalate there with among | ⟨row, inside, its⟩
    · exact apart among
    · obtain ⟨name, known, rfl⟩ := List.mem_map.mp inside
      obtain ⟨decl, declared, rfl⟩ := List.mem_map.mp known
      have part := List.all_eq_true.mp (Naming.parts_of_name (names decl declared)) c its
      rw [other] at part
      cases part
  have feed := absent '\n' (by decide) (by decide)
  have bare := absent '\r' (by decide) (by decide)
  have first : LexedLines ["/// Input represents one of the Input structs:"]
      [.doc false " Input represents one of the Input structs:"] :=
    lexed_doc solid_margin rfl (by decide) (by decide) (by decide)
  have blank : LexedLines ["///"] [.doc false ""] := lexed_doc solid_margin rfl nofun nofun nofun
  have names : LexedLines ["/// " ++ ", ".intercalate decls.inputNames ++ "."]
      (flattenAll [listed]) := by
    refine lexed_doc solid_margin ?_ (by simp) (by simpa using feed) (by simpa using bare)
    simp only [String.toList_append, List.append_assoc]
    rfl
  have opening : LexedLines ["pub trait Input: Serialize \x7b\x7d"] (flattenAll item) :=
    .fixed (fun _ => rfl) (by decide)
  have lexed : LexedLines (markerLines decls) (flattenAll (notes ++ item)) :=
    first.append (blank.append (names.append (opening.append lexed_empty)))
  refine .one lexed fun depth room enough _ => ?_
  exact readsItem_behind (.doc _ (.doc _ (.doc _ .nil))) ((length_front_le notes item).trans enough)
    fun others => ⟨_, rfl⟩

end Inputs

end Binding
end SchemaBindings
