import SchemaBindings.Proofs.Binding.Lexed

namespace SchemaBindings
open Source

namespace Binding
open Source.Lexeme

section Enums
variable {decl : EnumDecl} {owner : String} {value : EnumValue}

def variantNotes (value : EnumValue) : List Token :=
  documentation value.description ++
    ((if value.isDeprecated then [.doc false " Deprecated."] else []) ++ renameNote value.name [])

def variantTokens (owner : String) (value : EnumValue) : List Token :=
  variantNotes value ++ [plain (Naming.enumValueIdentifier owner value.name)]

def armTokens (owner : String) (value : EnumValue) : List Token :=
  plain "Self" :: (sign [':', ':'] ++ plain (Naming.enumValueIdentifier owner value.name) ::
    (sign ['=', '>'] ++ [.literal (Text.Quoted.encode value.name), comma]))

def enumTokens (decl : EnumDecl) : List Token :=
  (headTokens decl.name decl.description ++
    deriveNote ["Debug", "Clone", "Copy", "PartialEq", "Eq", "Hash", "Serialize", "Deserialize"]) ++
  [isPublic, plain "enum", plain decl.name,
    .group .curly (decl.values.flatMap fun value => variantTokens decl.name value ++ [comma])]

def asStrHead : List Token :=
  [isPublic, plain "const", plain "fn", plain "as_str",
    .group .round [.mark '&' false, plain "self"]] ++
  sign ['-', '>'] ++ [.mark '&' true, .mark '\'' true, plain "static", plain "str"]

def matchTokens (arms : List Token) : List Token :=
  [plain "match", .mark '*' false, plain "self", .group .curly arms]

def asStrTokens (arms : List Token) : List Token :=
  .doc false " Returns the value as sent on the wire." ::
    (note [plain "must_use"] ++ (asStrHead ++ [.group .curly (matchTokens arms)]))

def methodTokens (decl : EnumDecl) : List Token :=
  [implements, plain decl.name,
    .group .curly (asStrTokens (decl.values.flatMap (armTokens decl.name)))]

def formatHead : List Token :=
  [plain "fn", plain "fmt",
    .group .round ([.mark '&' false, plain "self", comma, plain "f", .mark ':' false,
      .mark '&' false, plain "mut", plain "std"] ++ sign [':', ':'] ++ [plain "fmt"] ++
      sign [':', ':'] ++ [plain "Formatter", .mark '<' true, .mark '\'' true, plain "_",
        .mark '>' false])] ++
  sign ['-', '>'] ++ [plain "std"] ++ sign [':', ':'] ++ [plain "fmt"] ++ sign [':', ':'] ++
  [plain "Result"]

def formatBody : List Token :=
  [plain "f", .mark '.' false, plain "write_str",
    .group .round [plain "self", .mark '.' false, plain "as_str", .group .round []]]

def displayTokens (name : String) : List Token :=
  [implements, plain "std"] ++ sign [':', ':'] ++ [plain "fmt"] ++ sign [':', ':'] ++
    [plain "Display", plain "for", plain name,
      .group .curly (formatHead ++ [.group .curly formatBody])]

theorem lexed_variantLines
    (variant : Naming.IsName (Naming.enumValueIdentifier owner value.name)) :
    LexedWhen (Tame value.description) (variantBlock owner value)
      (flattenAll (variantTokens owner value ++ [comma])) := by
  have deprecated : LexedLines (if value.isDeprecated then ["    /// Deprecated."] else [])
      (flattenAll (if value.isDeprecated then [.doc false " Deprecated."] else [])) := by
    split
    · exact lexed_doc solid_indent rfl (by decide) (by decide) (by decide)
    · exact .nil
  have own : LexedLines ["    " ++ Naming.enumValueIdentifier owner value.name ++ ","]
      ([] ++ ([.word false (Naming.enumValueIdentifier owner value.name)] ++ [.mark ',' false])) :=
    .around solid_indent (loose_word variant)
      (.run 1 ['\n'] (fun _ => rfl) (fun _ => rfl) (by decide)) fun _ => rfl
  have all := (lexed_documentation value.description).behind
    (deprecated.append ((lexed_rename value.name).append own))
  simp only [variantBlock, variantLines, variantTokens, variantNotes, flattenAll_append, flattenAll,
    Token.flatten, plain, comma, List.append_assoc, List.cons_append, List.nil_append] at all ⊢
  exact all

-- The second colon stands in front of the name.
theorem loose_arm {variant : String} (known : Naming.IsName variant) :
    Loose ([' ', ' ', ' ', ' ', ' ', ' ', ' ', ' ', ' ', ' ', ' ', ' ', 'S', 'e', 'l', 'f', ':', ':'] ++
        variant.toList)
      ([.word false "Self", .mark ':' true, .mark ':' false] ++ [.word false variant]) := by
  refine ⟨fun after ends => ?_, by simp⟩
  have name : Lexed (':' :: (variant.toList ++ after)) [.mark ':' false, .word false variant] after :=
    .mark (fun _ => rfl) (startsMark_name known after) ((loose_word known).reads after ends)
  rw [List.append_assoc]
  generalize variant.toList ++ after = tail at name ⊢
  have front : readSome 2 ([' ', ' ', ' ', ' ', ' ', ' ', ' ', ' ', ' ', ' ', ' ', ' ',
        'S', 'e', 'l', 'f', ':', ':'] ++ tail) =
      some ([.word false "Self", .mark ':' true], ':' :: tail) := rfl
  exact (Lexed.of_readSome front).append name

theorem lexed_armLine (variant : Naming.IsName (Naming.enumValueIdentifier owner value.name)) :
    LexedLines [valueArm owner value] (flattenAll (armTokens owner value)) := by
  have line : LexedLines [valueArm owner value]
      (([.word false "Self", .mark ':' true, .mark ':' false] ++
          [.word false (Naming.enumValueIdentifier owner value.name)]) ++
        ([.mark '=' true, .mark '>' false] ++
          ([.literal (Text.Quoted.encode value.name)] ++ [.mark ',' false]))) :=
    .twice (loose_arm variant) (.run 2 [' '] (fun _ => rfl) (fun _ => rfl) (by decide))
      ((loose_encode _).solid (.run 1 ['\n'] (fun _ => rfl) (fun _ => rfl) (by decide))
        fun _ => rfl) fun _ => rfl
  exact line

theorem lexed_methodHead :
    LexedLines ["    /// Returns the value as sent on the wire.", "    #[must_use]",
      "    pub const fn as_str(&self) -> &'static str \x7b", "        match *self \x7b"]
      (flattenAll (.doc false " Returns the value as sent on the wire." ::
        (note [plain "must_use"] ++ asStrHead)) ++ .opening .curly ::
          (flattenAll [plain "match", .mark '*' false, plain "self"] ++ [.opening .curly])) := by
  have described : LexedLines ["    /// Returns the value as sent on the wire."]
      [.doc false " Returns the value as sent on the wire."] := .fixed (fun _ => rfl) (by decide)
  have noted : LexedLines ["    #[must_use]"] (flattenAll (note [plain "must_use"])) :=
    .fixed (fun _ => rfl) (by decide)
  have head : LexedLines ["    pub const fn as_str(&self) -> &'static str \x7b"]
      (flattenAll asStrHead ++ [.opening .curly]) := .fixed (fun _ => rfl) (by decide)
  have body : LexedLines ["        match *self \x7b"]
      (flattenAll [plain "match", .mark '*' false, plain "self"] ++ [.opening .curly]) :=
    .fixed (fun _ => rfl) (by decide)
  exact described.append (noted.append (head.append body))

theorem lexed_closing :
    LexedLines ["        \x7d", "    \x7d", "\x7d", ""]
      [.closing .curly, .closing .curly, .closing .curly] := by
  have inner : LexedLines ["        \x7d"] [.closing .curly] := .fixed (fun _ => rfl) (by decide)
  exact inner.append (lexed_memberEnd.append lexed_end)

theorem lexed_display {name : String} (known : Naming.IsName name) :
    LexedLines (["impl std::fmt::Display for " ++ name ++ " \x7b"] ++
        ["    fn fmt(&self, f: &mut std::fmt::Formatter<'_>) -> std::fmt::Result \x7b",
         "        f.write_str(self.as_str())", "    \x7d", "\x7d", ""])
      (flattenAll (displayTokens name)) := by
  have opening : LexedLines ["impl std::fmt::Display for " ++ name ++ " \x7b"]
      ([.word false "impl", .word false "std", .mark ':' true, .mark ':' false, .word false "fmt",
        .mark ':' true, .mark ':' false, .word false "Display", .word false "for"] ++
        [.word false name, .opening .curly]) :=
    lexed_body (.run 9 [' '] (fun _ => rfl) (fun _ => rfl) (by decide)) known
  have head : LexedLines
      ["    fn fmt(&self, f: &mut std::fmt::Formatter<'_>) -> std::fmt::Result \x7b"]
      (flattenAll formatHead ++ [.opening .curly]) := .fixed (fun _ => rfl) (by decide)
  have body : LexedLines ["        f.write_str(self.as_str())"] (flattenAll formatBody) :=
    .fixed (fun _ => rfl) (by decide)
  exact opening.append (head.append (body.append (lexed_memberEnd.append lexed_end)))

theorem lexed_enumBlock {decl : EnumDecl} (known : Naming.IsName decl.name)
    (values : ∀ value ∈ decl.values, Naming.IsName value.name) :
    LexedWhen decl.Tame (enumBlock decl)
      (flattenAll (enumTokens decl ++ (methodTokens decl ++ displayTokens decl.name))) := by
  have variant : ∀ value ∈ decl.values,
      Naming.IsName (Naming.enumValueIdentifier decl.name value.name) := fun value inside =>
    Naming.isName_enumValueIdentifier known (values value inside)
  have derived : LexedLines
      ["#[derive(Debug, Clone, Copy, PartialEq, Eq, Hash, Serialize, Deserialize)]"]
      (flattenAll (deriveNote ["Debug", "Clone", "Copy", "PartialEq", "Eq", "Hash", "Serialize",
        "Deserialize"])) := .fixed (fun _ => rfl) (by decide)
  have opening : LexedLines ["pub enum " ++ decl.name ++ " \x7b"]
      ([.word false "pub", .word false "enum"] ++ [.word false decl.name, .opening .curly]) :=
    lexed_body (.run 2 [' '] (fun _ => rfl) (fun _ => rfl) (by decide)) known
  have variants : LexedWhen (∀ value ∈ decl.values, Tame value.description)
      (decl.values.flatMap (variantBlock decl.name))
      (flattenAll (decl.values.flatMap fun value => variantTokens decl.name value ++ [comma])) := by
    rw [flattenAll_flatMap]
    exact .flatMap fun value inside => lexed_variantLines (variant value inside)
  have own : LexedLines ["impl " ++ decl.name ++ " \x7b"]
      ([.word false "impl"] ++ [.word false decl.name, .opening .curly]) :=
    lexed_body (.run 1 [' '] (fun _ => rfl) (fun _ => rfl) (by decide)) known
  have arms : LexedLines (decl.values.map (valueArm decl.name))
      (flattenAll (decl.values.flatMap (armTokens decl.name))) := by
    rw [flattenAll_flatMap, List.map_eq_flatMap]
    exact .flatMap fun value inside => lexed_armLine (variant value inside)
  have front := ((lexed_headLines known decl.description).behind derived).behind opening
  have all := (((front.append variants).behind
    ((lexed_end.append own).append lexed_methodHead)).behind arms).behind
    (lexed_closing.append (lexed_display known))
  rw [enumBlock_eq]
  simp only [enumTokens, methodTokens, asStrTokens, matchTokens, flattenAll_append, flattenAll,
    Token.flatten, plain, implements, isPublic, List.append_assoc, List.cons_append,
    List.nil_append] at all ⊢
  exact all

end Enums

section Reading
variable {depth room : Nat} {arms rest : List Token} {decl : EnumDecl} {owner name : String}
  {value : EnumValue}

-- The pattern is a path of two words, which ends in front of the arrow.
theorem passes_arm (free : isKeyword (Naming.enumValueIdentifier owner value.name) = false)
    (rest : List Token) :
    Passes (arm (grammarTo (depth + 6))) (armTokens owner value ++ rest) (room + 2) rest := by
  rw [armTokens]
  generalize Naming.enumValueIdentifier owner value.name = variant at free ⊢
  generalize Text.Quoted.encode value.name = literal
  have named : Gives (segment (grammarTo (depth + 5)) true)
      (plain variant :: (sign ['=', '>'] ++ .literal literal :: comma :: rest)) (room + 2)
      ⟨Layout.text variant, true, true, true⟩ (sign ['=', '>'] ++ .literal literal :: comma :: rest) :=
    gives_segment free rfl
  have path : ∃ shown, Gives (path (grammarTo (depth + 5)) true)
      (plain "Self" :: (sign [':', ':'] ++
        plain variant :: (sign ['=', '>'] ++ .literal literal :: comma :: rest))) (room + 2)
      ⟨shown, true, true, false⟩ (sign ['=', '>'] ++ .literal literal :: comma :: rest) :=
    ⟨_, .bind rfl (.bind rfl (.bind gives_room (.bind gives_ahead (.bind rfl (.bind named rfl)))))⟩
  obtain ⟨shown, path⟩ := path
  have pattern : Passes (grammarTo (depth + 6) .pattern)
      (plain "Self" :: (sign [':', ':'] ++
        plain variant :: (sign ['=', '>'] ++ .literal literal :: comma :: rest))) (room + 2)
      (sign ['=', '>'] ++ .literal literal :: comma :: rest) :=
    .after gives_ahead (.after (.bind rfl (.bind path rfl)) ⟨_, rfl⟩)
  obtain ⟨pattern, read⟩ := pattern
  have choice : Passes (choice (grammarTo (depth + 6)))
      (plain "Self" :: (sign [':', ':'] ++
        plain variant :: (sign ['=', '>'] ++ .literal literal :: comma :: rest))) (room + 2)
      (sign ['=', '>'] ++ .literal literal :: comma :: rest) :=
    .after rfl (.after gives_room (.after (.bind read rfl) ⟨_, rfl⟩))
  obtain ⟨choice, read⟩ := choice
  exact .after rfl (.after read ⟨_, rfl⟩)

theorem gives_match (inner : startsInnerAttribute arms = false)
    (each : Passes (repeated (arm (grammarTo (depth + 6)))) arms (room + 30) []) :
    ∃ layout, Gives (matchPhrase (grammarTo (depth + 6))) (matchTokens arms) (room + 30)
      ⟨layout, .blocklike⟩ [] := by
  obtain ⟨lines, each⟩ := each
  have content : Gives (do
        let attributes ← innerAttributes (grammarTo (depth + 6))
        return attributes ++ (← repeated (arm (grammarTo (depth + 6)))).flatten)
      arms (room + 30) ([] ++ lines.flatten) [] :=
    .bind (gives_innerAttributes inner) (.bind each rfl)
  exact ⟨_, .bind rfl (.bind rfl (.bind (content.inGroup .curly []) rfl))⟩

-- The match is all that the function consists of.
theorem passes_lines (inner : startsInnerAttribute arms = false)
    (each : Passes (repeated (arm (grammarTo (depth + 6)))) arms (room + 30) []) :
    Passes (grammarTo (depth + 8) .lines) (matchTokens arms) (room + 30) [] := by
  obtain ⟨layout, value⟩ := gives_match inner each
  have phrase : Gives (grammarTo (depth + 7) .line) (matchTokens arms) (room + 30) _ [] :=
    .bind rfl (.bind gives_ahead (.bind (.bind gives_ahead value) rfl))
  have line : Gives (line (grammarTo (depth + 7))) (matchTokens arms) (room + 30) _ [] :=
    .bind gives_room (.bind rfl (.bind gives_ahead (.bind rfl (.bind phrase rfl))))
  have lines : Gives (linesAtMost (grammarTo (depth + 7)) (room + 30)) (matchTokens arms)
      (room + 30) _ [] :=
    .bind rfl (.bind rfl (.bind line rfl))
  exact .after rfl (.after gives_room (.after lines ⟨_, rfl⟩))

theorem passes_asStr (inner : startsInnerAttribute arms = false)
    (each : Passes (repeated (arm (grammarTo (depth + 6)))) arms (room + 30) []) :
    Passes (implementedMember (grammarTo (depth + 8))) (asStrTokens arms) (room + 30) [] := by
  obtain ⟨lines, read⟩ := passes_lines inner each
  have body := read.inGroup .curly []
  exact .after rfl (.after rfl (.after rfl (.after rfl
    (.after (.bind rfl (.bind rfl (.bind body rfl))) ⟨_, rfl⟩))))

theorem reads_method (free : isKeyword decl.name = false)
    (known : ∀ value ∈ decl.values,
      isKeyword (Naming.enumValueIdentifier decl.name value.name) = false) :
    Reads (methodTokens decl) := by
  intro depth room enough _
  let arms := decl.values.flatMap (armTokens decl.name)
  have inner : startsInnerAttribute arms = false := by
    unfold arms
    cases decl.values with
    | nil => rfl
    | cons value others => rfl
  have count : decl.values.length ≤ room + 29 := by
    have inMatch : Token.group .curly arms ∈ matchTokens arms := by simp [matchTokens]
    have inBody : Token.group .curly (matchTokens arms) ∈ asStrTokens arms := by simp [asStrTokens]
    have inItem : Token.group .curly (asStrTokens arms) ∈ methodTokens decl := by
      simp [methodTokens, arms]
    calc decl.values.length
      _ ≤ arms.length := length_values_le fun _ _ => List.cons_ne_nil _ _
      _ ≤ (flattenAll arms).length := length_le_flattenAll arms
      _ ≤ (flattenAll (matchTokens arms)).length := flattenAll_content_le inMatch
      _ ≤ (flattenAll (asStrTokens arms)).length := flattenAll_content_le inBody
      _ ≤ (flattenAll (methodTokens decl)).length := flattenAll_content_le inItem
      _ ≤ room + 29 := enough
  have each : Passes (repeated (arm (grammarTo (depth + 6)))) arms (room + 30) [] :=
    repeated_parts (fun value inside => ⟨List.cons_ne_nil _ _, passes_arm (known value inside)⟩)
      (Nat.lt_succ_of_le count)
  have member : Passes (repeated (implementedMember (grammarTo (depth + 8)))) (asStrTokens arms)
      (room + 30) [] := repeated_one rfl (passes_asStr inner each)
  exact readsItem_word fun others => passes_ownItem free rfl member others

theorem reads_display (free : isKeyword name = false) :
    Reads (displayTokens name) := by
  intro depth room _ _
  have member : Passes (repeated (implementedMember (grammarTo (depth + 8))))
      (formatHead ++ [.group .curly formatBody]) (room + 30) [] := repeated_one rfl ⟨_, rfl⟩
  have trait : ∀ after, Passes (grammarTo (depth + 8) (.type true))
      (plain "std" :: ((sign [':', ':'] ++ plain "fmt" :: sign [':', ':'] ++ [plain "Display"]) ++
        plain "for" :: after)) (room + 30) (plain "for" :: after) := fun _ => ⟨_, rfl⟩
  exact readsItem_word fun others =>
    passes_traitItem (by decide +kernel) trait free rfl member others

theorem notes_variantNotes (value : EnumValue) : Notes (variantNotes value) := by
  have deprecated : Notes (if value.isDeprecated then [.doc false " Deprecated."] else []) := by
    split
    · exact .doc _ .nil
    · exact .nil
  exact (notes_documentation value.description).append
    (deprecated.append (notes_rename value.name []))

theorem reads_enum (free : isKeyword decl.name = false)
    (known : ∀ value ∈ decl.values,
      isKeyword (Naming.enumValueIdentifier decl.name value.name) = false) :
    Reads (enumTokens decl) := by
  intro depth room enough _
  have inItem : Token.group .curly
      (decl.values.flatMap fun value => variantTokens decl.name value ++ [comma]) ∈
      enumTokens decl := by simp [enumTokens]
  obtain ⟨count, own⟩ := parts_fit inItem enough
  refine readsItem_behind ((notes_headTokens _ _).append (notes_derive _))
    ((length_front_le _ _).trans enough) fun others => ?_
  refine passes_enumItem free (fun value inside => ⟨by simp [variantTokens], fun after => ?_⟩)
    (Nat.lt_succ_of_le count) others
  have notes : (variantNotes value).length ≤ room + 29 := by
    have part := own value inside
    rw [variantTokens, List.length_append] at part
    omega
  rw [variantTokens, List.append_assoc]
  exact passes_variant (notes_variantNotes value) notes (known value inside) after

theorem ofItems_enumBlock (name : Naming.IsName decl.name) (free : isKeyword decl.name = false)
    (values : ∀ value ∈ decl.values, Naming.IsName value.name) :
    OfItemsWhen decl.Tame (enumBlock decl) := by
  have known : ∀ value ∈ decl.values,
      isKeyword (Naming.enumValueIdentifier decl.name value.name) = false := fun value inside =>
    (Naming.isName_enumValueIdentifier name (values value inside)).legal_iff.mp
      (Naming.legal_enumValueIdentifier name (values value inside) free)
  refine ⟨[enumTokens decl, methodTokens decl, displayTokens decl.name], ?_, ?_⟩
  · have lexed := lexed_enumBlock name values
    rwa [← List.append_nil (displayTokens decl.name)] at lexed
  · simp only [List.forall_mem_cons]
    exact ⟨reads_enum free known, reads_method free known, reads_display free, nofun⟩

end Reading

end Binding
end SchemaBindings
