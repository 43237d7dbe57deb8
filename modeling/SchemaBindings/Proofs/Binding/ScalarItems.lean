import SchemaBindings.Proofs.Binding.Lexed

namespace SchemaBindings
open Source

namespace Binding
open Source.Lexeme

section Aliases
variable {decl : ScalarDecl} {name target : String}

-- What a scalar may be another name for.
structure Target (target : String) (tokens : List Token) : Prop where
  lexed : Solid (target.toList ++ [';', '\n']) (flattenAll tokens ++ [.mark ';' false])
  passes : ∀ depth room rest, Passes (grammarTo (depth + 8) (.type true))
    (tokens ++ semicolon :: rest) (room + 30) (semicolon :: rest)

def valueTokens : List Token := plain "serde_json" :: (sign [':', ':'] ++ [plain "Value"])

def mapTokens : List Token :=
  plain "std" :: (sign [':', ':'] ++ plain "collections" :: (sign [':', ':'] ++
    [plain "BTreeMap", .mark '<' false, plain "String", comma] ++ valueTokens ++ [.mark '>' true]))

theorem target_representation (represented : representation name = .alias target) :
    ∃ tokens, Target target tokens := by
  unfold representation at represented
  split at represented
  · cases represented
    exact ⟨[plain "String"], .run 2 ['\n'] (fun _ => rfl) (fun _ => rfl) (by decide),
      fun _ _ _ => ⟨_, rfl⟩⟩
  · split at represented
    · cases represented
    · split at represented
      · cases represented
        exact ⟨mapTokens, .run 16 ['\n'] (fun _ => rfl) (fun _ => rfl) (by decide),
          fun _ _ _ => ⟨_, rfl⟩⟩
      · cases represented
        exact ⟨valueTokens, .run 5 ['\n'] (fun _ => rfl) (fun _ => rfl) (by decide),
          fun _ _ _ => ⟨_, rfl⟩⟩

theorem lexed_alias {tokens : List Token} (known : Naming.IsName name)
    (reads : Target target tokens) :
    LexedLines ["pub type " ++ name ++ " = " ++ target ++ ";"]
      (flattenAll (isPublic :: plain "type" :: plain name :: .mark '=' false ::
        (tokens ++ [semicolon]))) := by
  have front : Solid ['p', 'u', 'b', ' ', 't', 'y', 'p', 'e', ' ']
      [.word false "pub", .word false "type"] :=
    .run 2 [' '] (fun _ => rfl) (fun _ => rfl) (by decide)
  have line : LexedLines ["pub type " ++ name ++ " = " ++ target ++ ";"]
      (([.word false "pub", .word false "type"] ++ [.word false name]) ++
        ([.mark '=' false] ++ (flattenAll tokens ++ [.mark ';' false]))) :=
    .twice (front.loose (loose_word known)) (.run 1 [' '] (fun _ => rfl) (fun _ => rfl) (by decide))
      reads.lexed fun _ => rfl
  simp only [flattenAll, flattenAll_append, Token.flatten, isPublic, plain, semicolon,
    List.cons_append, List.nil_append] at line ⊢
  exact line

theorem reads_alias {notes tokens : List Token} (before : Notes notes) (free : isKeyword name = false)
    (reads : Target target tokens) :
    Reads (notes ++ isPublic :: plain "type" :: plain name :: .mark '=' false ::
      (tokens ++ [semicolon])) := by
  intro depth room enough _
  refine readsItem_behind before ((length_front_le _ _).trans enough) fun others => ?_
  rw [List.cons_append, List.cons_append, List.cons_append, List.cons_append, List.append_assoc]
  exact passes_aliasItem free (reads.passes depth room) others

end Aliases

section Wrappers
variable {name : String}

def wrapperNotes : List Token :=
  deriveNote ["Debug", "Clone", "Default", "PartialEq", "Eq", "Hash", "PartialOrd", "Ord",
    "Serialize", "Deserialize"] ++ note [plain "serde", .group .round [plain "transparent"]]

def wrapperTokens (name : String) : List Token :=
  [isPublic, plain "struct", plain name, .group .round [isPublic, plain "String"], semicolon]

def textTokens : List Token :=
  .doc false " Returns the encoded text." :: (note [plain "must_use"] ++
    ([isPublic, plain "fn", plain "as_str", .group .round [.mark '&' false, plain "self"]] ++
      sign ['-', '>'] ++ [.mark '&' false, plain "str"] ++
      [.group .curly [.mark '&' false, plain "self", .mark '.' false, .literal "0"]]))

def makeTokens : List Token :=
  [plain "fn", plain "from", .group .round [plain "value", .mark ':' false, plain "String"]] ++
    sign ['-', '>'] ++ [plain "Self", .group .curly [plain "Self", .group .round [plain "value"]]]

def accessorTokens (name : String) : List Token := [implements, plain name, .group .curly textTokens]

def conversionTokens (name : String) : List Token :=
  [implements, plain "From", .mark '<' false, plain "String", .mark '>' false, plain "for", plain name,
    .group .curly makeTokens]

-- Where a number ends depends on what follows it, here the end of the line.
theorem next_zero (rest : List Char) :
    next (skipGap ('0' :: '\n' :: rest)) = some (.literal "0", '\n' :: rest) := by
  have skipped : Literal.skip (['0'] ++ '\n' :: rest) = some ('\n' :: rest) := rfl
  exact next_literal rfl rfl ⟨rfl, rfl⟩ (takeLiteral_of_skip skipped)

theorem lexed_first : LexedLines ["        &self.0"]
    ([.mark '&' false, .word false "self", .mark '.' false] ++ [.literal "0"]) := by
  refine .chars ⟨fun rest => ?_, by decide⟩
  have front : readSome 3 ([' ', ' ', ' ', ' ', ' ', ' ', ' ', ' ', '&', 's', 'e', 'l', 'f', '.'] ++
      '0' :: '\n' :: rest) =
      some ([.mark '&' false, .word false "self", .mark '.' false], '0' :: '\n' :: rest) := rfl
  have feed : skipGap ('\n' :: rest) = skipGap rest := rfl
  exact (Lexed.of_readSome front).append (.lexeme (next_zero rest) (.gap feed (.done rest)))

theorem lexed_accessor :
    LexedLines ["    /// Returns the encoded text.", "    #[must_use]",
      "    pub fn as_str(&self) -> &str \x7b", "        &self.0", "    \x7d"]
      (flattenAll textTokens) := by
  have described : LexedLines ["    /// Returns the encoded text."]
      [.doc false " Returns the encoded text."] := .fixed (fun _ => rfl) (by decide)
  have noted : LexedLines ["    #[must_use]"] (flattenAll (note [plain "must_use"])) :=
    .fixed (fun _ => rfl) (by decide)
  have head : LexedLines ["    pub fn as_str(&self) -> &str \x7b"]
      (flattenAll ([isPublic, plain "fn", plain "as_str",
        .group .round [.mark '&' false, plain "self"]] ++ sign ['-', '>'] ++
        [.mark '&' false, plain "str"]) ++ [.opening .curly]) :=
    .fixed (fun _ => rfl) (by decide)
  exact described.append (noted.append (head.append (lexed_first.append lexed_memberEnd)))

theorem lexed_conversion :
    LexedLines ["    fn from(value: String) -> Self \x7b", "        Self(value)", "    \x7d"]
      (flattenAll makeTokens) := by
  have head : LexedLines ["    fn from(value: String) -> Self \x7b"]
      (flattenAll ([plain "fn", plain "from",
        .group .round [plain "value", .mark ':' false, plain "String"]] ++ sign ['-', '>'] ++
        [plain "Self"]) ++ [.opening .curly]) := .fixed (fun _ => rfl) (by decide)
  have body : LexedLines ["        Self(value)"]
      (flattenAll [plain "Self", .group .round [plain "value"]]) := .fixed (fun _ => rfl) (by decide)
  exact head.append (body.append lexed_memberEnd)

theorem lexed_wrapperLines (known : Naming.IsName name) :
    LexedLines (wrapperLines name) (flattenAll (wrapperNotes ++ (wrapperTokens name ++
      (accessorTokens name ++ conversionTokens name)))) := by
  have derived : LexedLines [
      "#[derive(Debug, Clone, Default, PartialEq, Eq, Hash, PartialOrd, Ord, Serialize, Deserialize)]"]
      (flattenAll (deriveNote ["Debug", "Clone", "Default", "PartialEq", "Eq", "Hash", "PartialOrd",
        "Ord", "Serialize", "Deserialize"])) := .fixed (fun _ => rfl) (by decide)
  have transparent : LexedLines ["#[serde(transparent)]"]
      (flattenAll (note [plain "serde", .group .round [plain "transparent"]])) :=
    .fixed (fun _ => rfl) (by decide)
  have opening : LexedLines ["pub struct " ++ name ++ "(pub String);"]
      ([.word false "pub", .word false "struct"] ++ ([.word false name] ++
        [.opening .round, .word false "pub", .word false "String", .closing .round, .mark ';' false])) :=
    .around (.run 2 [' '] (fun _ => rfl) (fun _ => rfl) (by decide)) (loose_word known)
      (.run 5 ['\n'] (fun _ => rfl) (fun _ => rfl) (by decide)) fun _ => rfl
  have own : LexedLines ["impl " ++ name ++ " \x7b"]
      ([.word false "impl"] ++ [.word false name, .opening .curly]) :=
    lexed_body (.run 1 [' '] (fun _ => rfl) (fun _ => rfl) (by decide)) known
  have made : LexedLines ["impl From<String> for " ++ name ++ " \x7b"]
      ([.word false "impl", .word false "From", .mark '<' false, .word false "String", .mark '>' false,
        .word false "for"] ++ [.word false name, .opening .curly]) :=
    lexed_body (.run 6 [' '] (fun _ => rfl) (fun _ => rfl) (by decide)) known
  have all := (derived.append (transparent.append (opening.append lexed_empty))).append
    ((own.append (lexed_accessor.append lexed_end)).append
      (made.append (lexed_conversion.append lexed_end)))
  simp only [wrapperNotes, wrapperTokens, accessorTokens, conversionTokens, flattenAll_append,
    flattenAll, Token.flatten, plain, implements, isPublic, semicolon, List.append_assoc,
    List.cons_append, List.nil_append] at all ⊢
  exact all

theorem reads_wrapper {notes : List Token} (before : Notes notes) (free : isKeyword name = false) :
    Reads (notes ++ (wrapperNotes ++ wrapperTokens name)) := by
  intro depth room enough _
  have said : Notes wrapperNotes := (notes_derive _).append (.said (fun _ _ => ⟨_, rfl⟩) .nil)
  rw [← List.append_assoc] at enough ⊢
  refine readsItem_behind (before.append said) ((length_front_le _ _).trans enough) fun others => ?_
  have item : Passes (structItem (grammarTo (depth + 8))) (wrapperTokens name ++ others) (room + 30)
      others := .after gives_public (.after rfl (.after (gives_takeName free) ⟨_, rfl⟩))
  exact item

theorem reads_accessor (free : isKeyword name = false) : Reads (accessorTokens name) := by
  intro depth room _ _
  have member : Passes (repeated (implementedMember (grammarTo (depth + 8)))) textTokens
      (room + 30) [] := repeated_one rfl ⟨_, rfl⟩
  exact readsItem_word fun others => passes_ownItem free rfl member others

theorem reads_conversion (free : isKeyword name = false) : Reads (conversionTokens name) := by
  intro depth room _ _
  have trait : ∀ after, Passes (grammarTo (depth + 8) (.type true))
      (plain "From" :: ([.mark '<' false, plain "String", .mark '>' false] ++ plain "for" :: after))
      (room + 30) (plain "for" :: after) := fun _ => ⟨_, rfl⟩
  have member : Passes (repeated (implementedMember (grammarTo (depth + 8)))) makeTokens
      (room + 30) [] := repeated_one rfl ⟨_, rfl⟩
  exact readsItem_word fun others =>
    passes_traitItem (by decide +kernel) trait free rfl member others

end Wrappers

theorem defaultDescription_bare {name text : String} (described : text ∈ defaultDescription name) :
    '\r' ∉ text.toList := by
  unfold defaultDescription at described
  repeat' split at described
  all_goals cases described
  all_goals decide +kernel

theorem tame_orDefault (description : Option String) (name : String) :
    Tame (description.or (defaultDescription name)) ↔ Tame description := by
  cases description with
  | none =>
    rw [Option.none_or]
    exact iff_of_true (tame_of_bare fun _ => defaultDescription_bare) tame_none
  | some text => rw [Option.some_or]

theorem ofItems_scalarLines {decl : ScalarDecl} (known : Naming.IsName decl.name)
    (free : isKeyword decl.name = false) :
    OfItemsWhen (Tame decl.description) (scalarLines decl) := by
  let notes := headTokens decl.name (decl.description.or (defaultDescription decl.name))
  have before : Notes notes := notes_headTokens _ _
  have head := (lexed_headLines known (decl.description.or (defaultDescription decl.name))).congr
    (tame_orDefault decl.description decl.name)
  unfold scalarLines
  cases represented : representation decl.name with
  | wrapped =>
    refine ⟨[notes ++ (wrapperNotes ++ wrapperTokens decl.name), accessorTokens decl.name,
      conversionTokens decl.name], ?_, ?_⟩
    · have all := head.behind (lexed_wrapperLines known)
      simp only [notes, List.flatten_cons, List.flatten_nil, List.append_nil, flattenAll_append,
        List.append_assoc] at all ⊢
      exact all
    · simp only [List.forall_mem_cons]
      exact ⟨reads_wrapper before free, reads_accessor free, reads_conversion free, nofun⟩
  | «alias» target =>
    obtain ⟨tokens, reads⟩ := target_representation represented
    have line := (lexed_alias known reads).append lexed_empty
    rw [List.append_nil] at line
    refine .one ?_ (reads_alias before free reads)
    rw [flattenAll_append]
    exact head.behind line

end Binding
end SchemaBindings
