import SchemaBindings.Proofs.Source.Reading
import SchemaBindings.Source.Item

namespace SchemaBindings.Source

section Words
variable {name word : String} {words : List String} {rest : Stream} {room : Nat}

theorem bne_free (free : isKeyword name = false) (known : isKeyword word = true) :
    (name == word) = false := by
  rw [beq_eq_false_iff_ne]
  rintro rfl
  rw [free] at known
  cases known

theorem startsWord_free (free : isKeyword name = false) (known : isKeyword word = true) :
    Stream.startsWord word (.word false name :: rest) = false := bne_free free known

theorem startsOneOf_free (free : isKeyword name = false) (known : words.all isKeyword = true) :
    Stream.startsOneOf words (.word false name :: rest) = false := by
  rw [Stream.startsOneOf, Bool.eq_false_iff]
  intro inside
  have keyword := List.all_eq_true.mp known name (List.contains_iff_mem.mp inside)
  rw [free] at keyword
  cases keyword

theorem startsName_free (free : isKeyword name = false) :
    Stream.startsName (.word false name :: rest) = true := by
  rw [Stream.startsName, free]
  rfl

theorem skipLiteral?_free (free : isKeyword name = false) :
    Stream.skipLiteral? (.word false name :: rest) = none := by
  unfold Stream.skipLiteral?
  split
  case h_5 => rfl
  all_goals
    rename_i same
    cases same
  all_goals exact absurd free (by decide +kernel)

theorem gives_takeName (free : isKeyword name = false) :
    Gives takeName (.word false name :: rest) room name rest := by
  unfold takeName
  refine .bind gives_ahead ?_
  simp only [free, Bool.and_false]
  rfl

theorem gives_tryWord (free : isKeyword name = false) (known : isKeyword word = true) :
    Gives (tryWord word) (.word false name :: rest) room false (.word false name :: rest) := by
  refine .bind (gives_sees _) ?_
  rw [startsWord_free free known]
  rfl

end Words

section Types
variable {name : String} {tokens rest : Stream} {room : Nat} {grammar : Grammar} {plus : Bool}

-- What may stand behind a type.
inductive EndsType : Stream → Prop where
  | body (content : List Token) (rest : Stream) : EndsType (.group .curly content :: rest)
  | comma (joint : Bool) (rest : Stream) : EndsType (.mark ',' joint :: rest)
  | angle (joint : Bool) (rest : Stream) : EndsType (.mark '>' joint :: rest)
  | semicolon (joint : Bool) (rest : Stream) : EndsType (.mark ';' joint :: rest)

theorem gives_tryBinder (free : isKeyword name = false) :
    Gives (tryBinder grammar) (.word false name :: rest) room none (.word false name :: rest) := by
  refine .bind (gives_sees _) ?_
  rw [startsWord_free free (by decide +kernel)]
  rfl

theorem gives_segment (free : isKeyword name = false) {inExpression : Bool}
    (alone : opensArguments inExpression rest = false) :
    Gives (segment grammar inExpression) (.word false name :: rest) room
      ⟨Layout.text name, true, true, true⟩ rest := by
  unfold segment
  refine .bind (gives_sees _) ?_
  rw [startsOneOf_free free (by decide +kernel)]
  refine .bind (gives_sees _) ?_
  rw [startsWord_free free (by decide +kernel)]
  refine .bind (gives_takeName free) (.bind gives_ahead ?_)
  rw [alone]
  rfl

theorem typePhrase_word (free : isKeyword name = false)
    (passes : Passes (pathType grammar plus none) (.word false name :: rest) room behind) :
    Passes (typePhrase grammar plus) (.word false name :: rest) room behind := by
  have function : ["fn", "unsafe", "extern"].all isKeyword = true := by decide +kernel
  unfold typePhrase
  refine .after (gives_tryBinder free) (.after gives_ahead ?_)
  simp only [startsOneOf_free free function, startsName_free free, startsPath]
  exact passes

-- A path that is all of a type.
theorem pathType_path {named : Path} (starts : Stream.startsSign "<" tokens = false)
    (read : Gives (path grammar false) tokens (room + 1) named rest) (ends : EndsType rest) :
    Passes (pathType grammar plus none) tokens (room + 1) rest := by
  unfold pathType
  refine .after (gives_sees _) ?_
  rw [starts]
  have round : Gives (roundRest grammar (room + 1) named) rest (room + 1) named rest := by
    unfold roundRest
    refine .bind gives_ahead ?_
    cases ends <;> cases named.takesRound <;> rfl
  refine .after gives_room (.after read (.after round (.after gives_ahead ?_)))
  cases plus <;> cases ends <;> exact ⟨_, rfl⟩

theorem passes_typeName (free : isKeyword name = false) (ends : EndsType rest) :
    Passes (typePhrase grammar plus) (.word false name :: rest) (room + 1) rest := by
  have alone : opensArguments false rest = false := by cases ends <;> rfl
  have read : Gives (path grammar false) (.word false name :: rest) (room + 1)
      ⟨Layout.text name, true, true, true⟩ rest := by
    refine .bind rfl (.bind (gives_segment free alone) (.bind gives_room ?_))
    cases ends <;> rfl
  exact typePhrase_word free (pathType_path rfl read ends)

-- One type between angles.
theorem gives_argument (free : isKeyword name = false)
    (inner : Passes (grammar (.type true)) (.word false name :: tokens) room
      (.mark '>' joint :: rest)) :
    ∃ layout, Gives (argument grammar) (.word false name :: tokens) room (.other layout)
      (.mark '>' joint :: rest) := by
  obtain ⟨type, inner⟩ := inner
  refine ⟨type.layout, ?_⟩
  unfold argument
  refine .bind gives_ahead ?_
  simp only [Stream.startsLiteral, skipLiteral?_free free]
  refine .bind inner ?_
  cases type.form <;> rfl

theorem gives_arguments (free : isKeyword name = false)
    (inner : Passes (grammar (.type true)) (.word false name :: tokens) (room + 1)
      (.mark '>' joint :: rest)) :
    ∃ layout, Gives (arguments grammar) (.mark '<' false :: .word false name :: tokens) (room + 1)
      [layout] rest := by
  obtain ⟨layout, read⟩ := gives_argument free inner
  refine ⟨layout, ?_⟩
  have row : Gives (rowUntil endsAngles "," (argument grammar)) (.word false name :: tokens)
      (room + 1) ⟨[.other layout], false⟩ (.mark '>' joint :: rest) :=
    .bind gives_room (.bind gives_ahead (.bind read rfl))
  exact .bind rfl (.bind row rfl)

theorem passes_typeOf (outer : isKeyword wrapper = false) (free : isKeyword name = false)
    (inner : Passes (grammar (.type true)) (.word false name :: tokens) (room + 1)
      (.mark '>' joint :: rest)) (ends : EndsType rest) :
    Passes (typePhrase grammar plus)
      (.word false wrapper :: .mark '<' false :: .word false name :: tokens) (room + 1) rest := by
  obtain ⟨layout, given⟩ := gives_arguments free inner
  have read : Gives (segment grammar false)
      (.word false wrapper :: .mark '<' false :: .word false name :: tokens) (room + 1)
      ⟨Layout.text (wrapper ++ "") ++ angled [layout], false, false, true⟩ rest := by
    unfold segment
    refine .bind (gives_sees _) ?_
    rw [startsOneOf_free outer (by decide +kernel)]
    refine .bind (gives_sees _) ?_
    rw [startsWord_free outer (by decide +kernel)]
    refine .bind (gives_takeName outer) (.bind gives_ahead ?_)
    exact .bind rfl (.bind given rfl)
  have named : Gives (path grammar false)
      (.word false wrapper :: .mark '<' false :: .word false name :: tokens) (room + 1)
      ⟨Layout.text (wrapper ++ "") ++ angled [layout], false, false, true⟩ rest := by
    refine .bind rfl (.bind read (.bind gives_room ?_))
    cases ends <;> rfl
  exact typePhrase_word outer (pathType_path rfl named ends)

-- A word with one type in angles behind it.
def wrapped (wrapper : String) (tokens : List Token) : List Token :=
  .word false wrapper :: .mark '<' false :: (tokens ++ [.mark '>' true])

-- The tokens are a type, whatever may stand behind it.
structure ReadsType (depth : Nat) (tokens : List Token) : Prop where
  front : ∃ name others, tokens = .word false name :: others ∧ isKeyword name = false
  passes : ∀ plus room {rest}, EndsType rest →
    Passes (grammarTo depth (.type plus)) (tokens ++ rest) (room + 1) rest

theorem readsType_name (depth : Nat) (free : isKeyword name = false) :
    ReadsType (depth + 1) [.word false name] :=
  ⟨⟨name, [], rfl, free⟩, fun _ _ _ ends => passes_typeName free ends⟩

theorem ReadsType.wrapped {depth : Nat} {wrapper : String} (outer : isKeyword wrapper = false)
    (inner : ReadsType depth tokens) : ReadsType (depth + 1) (wrapped wrapper tokens) := by
  obtain ⟨⟨name, others, rfl, free⟩, passes⟩ := inner
  refine ⟨⟨wrapper, _, rfl, outer⟩, fun plus room rest ends => ?_⟩
  have content := passes true room (EndsType.angle true rest)
  rw [List.cons_append] at content
  rw [Source.wrapped, List.cons_append, List.cons_append, List.append_assoc]
  exact passes_typeOf outer free content ends

end Types

section Items
variable {α : Type} {name : String} {notes rest content behind : Stream} {room depth : Nat}
  {grammar : Grammar}

def isPublic : Token := .word false "pub"

theorem gives_takeWord (word : String) :
    Gives (takeWord word) (.word false word :: rest) room () rest := by
  have taken : Gives (tryWord word) (.word false word :: rest) room true rest := by
    refine .bind (gives_sees _) ?_
    rw [show Stream.startsWord word (.word false word :: rest) = true from beq_self_eq_true word]
    rfl
  exact .bind taken rfl

theorem gives_visibility (free : isKeyword name = false) :
    Gives visibility (.word false name :: rest) room .inherited (.word false name :: rest) :=
  .bind (gives_tryWord free (by decide +kernel)) rfl

theorem gives_public {raw : Bool} :
    Gives visibility (isPublic :: .word raw name :: rest) room .everywhere (.word raw name :: rest) :=
  rfl

-- Behind the notes the item begins with a word.
theorem passes_itemPhrase (before : Notes notes) (enough : notes.length ≤ room)
    (starts : rest.startsAttribute = false)
    (body : Passes (itemBody grammar) rest (room + 1) behind) :
    Passes (itemPhrase grammar) (notes ++ rest) (room + 1) behind :=
  .bind (before.passes starts enough) fun _ => .bind body fun _ => ⟨_, rfl⟩

theorem passes_variant (before : Notes notes) (enough : notes.length ≤ room)
    (free : isKeyword name = false) (others : Stream) :
    Passes (variant grammar) (notes ++ .word false name :: comma :: others) (room + 1)
      (comma :: others) := by
  refine .bind (before.passes rfl enough) fun _ => ?_
  exact .after (gives_visibility free) (.after (gives_takeName free) ⟨_, rfl⟩)

theorem passes_enumItem {values : List α} {part : α → Stream} (free : isKeyword name = false)
    (each : ∀ a ∈ values, part a ≠ [] ∧
      ∀ others, Passes (variant grammar) (part a ++ comma :: others) room (comma :: others))
    (enough : values.length < room) (rest : Stream) :
    Passes (itemBody grammar) (isPublic :: .word false "enum" :: .word false name ::
      .group .curly (values.flatMap (part · ++ [comma])) :: rest) room rest := by
  have item : Passes (enumItem grammar) (isPublic :: .word false "enum" :: .word false name ::
      .group .curly (values.flatMap (part · ++ [comma])) :: rest) room rest := by
    refine .after gives_public (.after rfl (.after (gives_takeName free) (.after rfl (.after rfl ?_))))
    exact .bind ((separated_parts each enough).inGroup .curly rest) fun _ => ⟨_, rfl⟩
  exact item

-- A field may have a keyword for a name if it is written raw.
theorem passes_namedField {raw : Bool} {type : Stream} (before : Notes notes)
    (enough : notes.length ≤ room) (known : raw = true ∨ isKeyword name = false)
    (reads : ∀ others, Passes (grammar (.type true)) (type ++ comma :: others) (room + 1)
      (comma :: others)) (others : Stream) :
    Passes (namedField grammar)
      ((notes ++ isPublic :: .word raw name :: .mark ':' false :: type) ++ comma :: others) (room + 1)
      (comma :: others) := by
  rw [List.append_assoc]
  refine .bind (before.passes rfl enough) fun _ => .after gives_public (.after (gives_sees _) ?_)
  cases raw with
  | true => exact .after rfl (.after rfl (.bind (reads others) fun _ => ⟨_, rfl⟩))
  | false =>
    have free := known.resolve_left Bool.false_ne_true
    rw [startsWord_free free (by decide +kernel)]
    exact .after (gives_takeName free) (.after rfl (.bind (reads others) fun _ => ⟨_, rfl⟩))

theorem passes_structItem {values : List α} {part : α → Stream} (free : isKeyword name = false)
    (each : ∀ a ∈ values, part a ≠ [] ∧
      ∀ others, Passes (namedField grammar) (part a ++ comma :: others) room (comma :: others))
    (enough : values.length < room) (rest : Stream) :
    Passes (itemBody grammar) (isPublic :: .word false "struct" :: .word false name ::
      .group .curly (values.flatMap (part · ++ [comma])) :: rest) room rest := by
  have item : Passes (structItem grammar) (isPublic :: .word false "struct" :: .word false name ::
      .group .curly (values.flatMap (part · ++ [comma])) :: rest) room rest := by
    refine .after gives_public (.after rfl (.after (gives_takeName free) (.after rfl ?_)))
    refine .after rfl (.after rfl (.after rfl (.after rfl ?_)))
    have fields : Passes (namedFields grammar)
        (.group .curly (values.flatMap (part · ++ [comma])) :: rest) room rest :=
      .bind ((separated_parts each enough).inGroup .curly rest) fun _ => ⟨_, rfl⟩
    exact .bind fields fun _ => ⟨_, rfl⟩
  exact item

def semicolon : Token := .mark ';' false

theorem passes_aliasItem {target : Stream} (free : isKeyword name = false)
    (reads : ∀ rest, Passes (grammar (.type true)) (target ++ semicolon :: rest) room
      (semicolon :: rest)) (rest : Stream) :
    Passes (itemBody grammar) (isPublic :: .word false "type" :: .word false name ::
      .mark '=' false :: (target ++ semicolon :: rest)) room rest := by
  have item : Passes (aliasItem grammar) (isPublic :: .word false "type" :: .word false name ::
      .mark '=' false :: (target ++ semicolon :: rest)) room rest := by
    refine .after gives_public (.after rfl (.after (gives_takeName free) (.after rfl ?_)))
    refine .after rfl (.after rfl (.after rfl ?_))
    exact .bind (reads rest) fun _ => .after rfl (.after rfl ⟨_, rfl⟩)
  exact item

theorem passes_members {member : Read Layout} (inner : startsInnerAttribute content = false)
    (each : Passes (repeated member) content (room + 1) []) (rest : Stream) :
    Passes (members grammar member) (.group .curly content :: rest) (room + 1) rest := by
  unfold members
  refine Passes.inGroup ?_ .curly rest
  refine .after (gives_innerAttributes inner) ?_
  exact .bind each fun _ => ⟨_, rfl⟩

def implements : Token := .word false "impl"

-- What is implemented for, in front of the body.
theorem passes_subject (free : isKeyword name = false) (content : List Token) (rest : Stream) :
    Passes (grammarTo (depth + 1) (.type true)) (.word false name :: .group .curly content :: rest)
      (room + 1) (.group .curly content :: rest) :=
  passes_typeName free (.body content rest)

theorem passes_ownItem (free : isKeyword name = false)
    (inner : startsInnerAttribute content = false)
    (each : Passes (repeated (implementedMember (grammarTo (depth + 1)))) content (room + 1) [])
    (rest : Stream) :
    Passes (itemBody (grammarTo (depth + 1)))
      (implements :: .word false name :: .group .curly content :: rest) (room + 1) rest := by
  have item : Passes (implementationItem (grammarTo (depth + 1)))
      (implements :: .word false name :: .group .curly content :: rest) (room + 1) rest := by
    refine .after rfl (.after rfl (.after (gives_takeWord "impl") (.after gives_ahead ?_)))
    refine .after rfl (.after gives_ahead ?_)
    rw [startsWord_free free (show isKeyword "const" = true by decide +kernel)]
    refine .after gives_ahead (.bind (passes_subject free content rest) fun _ => ?_)
    refine .after rfl (.after rfl (.after rfl ?_))
    exact .bind (passes_members inner each rest) fun _ => ⟨_, rfl⟩
  exact item

-- `first` is the word that the trait begins with.
theorem passes_traitItem {first : String} {others : Stream} (outer : isKeyword first = false)
    (trait : ∀ after, Passes (grammarTo (depth + 1) (.type true))
      (.word false first :: (others ++ .word false "for" :: after)) (room + 1)
      (.word false "for" :: after))
    (free : isKeyword name = false)
    (inner : startsInnerAttribute content = false)
    (each : Passes (repeated (implementedMember (grammarTo (depth + 1)))) content (room + 1) [])
    (rest : Stream) :
    Passes (itemBody (grammarTo (depth + 1)))
      (implements :: .word false first :: (others ++ .word false "for" :: .word false name ::
        .group .curly content :: rest)) (room + 1) rest := by
  have item : Passes (implementationItem (grammarTo (depth + 1)))
      (implements :: .word false first :: (others ++ .word false "for" :: .word false name ::
        .group .curly content :: rest)) (room + 1) rest := by
    refine .after rfl (.after rfl (.after (gives_takeWord "impl") (.after gives_ahead ?_)))
    refine .after rfl (.after gives_ahead ?_)
    rw [startsWord_free outer (show isKeyword "const" = true by decide +kernel)]
    refine .after gives_ahead (.bind (trait _) fun _ => .after rfl ?_)
    refine .bind (passes_subject free content rest) fun _ => ?_
    exact .after rfl (.after rfl (.bind (passes_members inner each rest) fun _ => ⟨_, rfl⟩))
  exact item

end Items

section Layouts
open Layout

-- What is written stays.
def Layout.Progress.Extends (progress next : Progress) : Prop :=
  progress.out.toList <+: next.out.toList

theorem extends_put (progress : Progress) (s : String) : progress.Extends (progress.put s) := by
  rw [Progress.Extends, Progress.put, String.toList_append, String.toList_append, List.append_assoc]
  exact List.prefix_append _ _

theorem extends_putChar (progress : Progress) (c : Option Char) :
    progress.Extends (progress.putChar c) := by
  cases c with
  | none => exact List.prefix_rfl
  | some c => exact extends_put progress _

theorem extends_stay (progress : Progress) (b : Break) : progress.Extends (progress.stay b) := by
  unfold Progress.stay
  split
  · rw [Progress.Extends, String.toList_push]
    exact List.prefix_append _ _
  · exact List.prefix_rfl

theorem extends_turn (progress : Progress) (b : Break) : progress.Extends (progress.turn b) := by
  have ended := extends_putChar progress b.beforeEnd
  have turned : (progress.putChar b.beforeEnd).out.toList <+:
      ((progress.putChar b.beforeEnd).out.push '\n').toList := by
    rw [String.toList_push]
    exact List.prefix_append _ _
  unfold Progress.turn
  split
  · exact (ended.trans turned).trans (extends_putChar ⟨_, _, _, _, _⟩ _)
  · exact ended.trans turned

theorem extends_leave (progress : Progress) : progress.Extends progress.leave := by
  unfold Progress.leave
  split
  · exact List.prefix_rfl
  · exact List.prefix_rfl

theorem extends_renderFrom (progress : Progress) (layout : Layout) :
    progress.Extends (renderFrom progress layout) := by
  induction layout generalizing progress with
  | nil => exact List.prefix_rfl
  | cons piece rest ih =>
    cases piece with
    | text s => exact (extends_put progress s).trans (ih (progress.write s))
    | brk b =>
      rw [renderFrom]
      split
      · exact (extends_stay progress b).trans (ih _)
      · exact (extends_turn progress b).trans (ih _)
    | opening consistent offset => exact ih (progress.enter consistent offset rest)
    | closing => exact (extends_leave progress).trans (ih _)

theorem render_box_text (s : String) (content : Layout) :
    s.toList <+: (Layout.box true 0 (Layout.text s ++ content)).render.toList := by
  let first := (Progress.blank.enter true 0 (Layout.text s ++ content ++ [.closing])).write s
  have shown : first.out = s := by
    rw [show first.out = "" ++ String.ofList [] ++ s from rfl, String.empty_append,
      String.ofList_nil, String.empty_append]
  have others : first.out.toList <+: _ := extends_renderFrom first (content ++ [.closing])
  rw [shown] at others
  exact others

end Layouts

section Files
variable {content : List Token} {items : List (List Token)} {room : Nat}

-- Nothing of the item is left over, whatever follows it.
structure ReadsItem (depth room : Nat) (item : List Token) : Prop where
  starts : ∀ others, startsInnerAttribute (item ++ others) = false
  some : item ≠ []
  passes : ∀ others, Passes (grammarTo depth .item) (item ++ others) room others

theorem Notes.starts (notes : Notes tokens) (plain : startsInnerAttribute rest = false) :
    startsInnerAttribute (tokens ++ rest) = false := by
  cases notes with
  | nil => exact plain
  | doc | said => rfl

-- Notes, and a word behind them.
theorem readsItem_behind {depth : Nat} {raw : Bool} {word : String} {body : List Token}
    (notes : Notes tokens) (enough : tokens.length ≤ room)
    (passes : ∀ others, Passes (itemBody (grammarTo depth)) (.word raw word :: body ++ others)
      (room + 1) others) :
    ReadsItem (depth + 1) (room + 1) (tokens ++ .word raw word :: body) := by
  refine ⟨fun others => ?_, by simp, fun others => ?_⟩
  · rw [List.append_assoc]
    exact notes.starts rfl
  · rw [List.append_assoc]
    exact passes_itemPhrase notes enough rfl (passes others)

-- A word alone.
theorem readsItem_word {depth : Nat} {raw : Bool} {word : String} {body : List Token}
    (passes : ∀ others, Passes (itemBody (grammarTo depth)) (.word raw word :: body ++ others)
      (room + 1) others) :
    ReadsItem (depth + 1) (room + 1) (.word raw word :: body) :=
  readsItem_behind .nil (Nat.zero_le _) passes

theorem gives_file {depth : Nat}
    (said : ∀ grammar room, Passes (attributeContent grammar) content (room + 1) [])
    (each : ∀ item ∈ items, ReadsItem depth (room + 2) item) (enough : items.length < room + 2) :
    ∃ layout, Gives (file (grammarTo depth))
      (.mark '#' true :: .mark '!' false :: .group .square content :: items.flatten) (room + 2)
      (Layout.text "#![" ++ layout) [] := by
  have plain : startsInnerAttribute items.flatten = false := by
    cases items with
    | nil => rfl
    | cons item others => exact (each item (List.mem_cons_self ..)).starts others.flatten
  obtain ⟨said, attributes⟩ := gives_innerAttribute (grammarTo depth) said plain
  have parts : Passes (repeated (grammarTo depth .item)) (items.flatMap id) (room + 2) [] :=
    repeated_parts (fun item inside => ⟨(each item inside).some, (each item inside).passes⟩) enough
  rw [List.flatMap_id] at parts
  obtain ⟨read, parts⟩ := parts
  exact ⟨_, .bind attributes (.bind parts (.bind gives_room rfl))⟩

theorem canonical_made {source : String}
    (starts : source.toList = '#' :: '!' :: '[' :: rest)
    (read : Token.read source.toList =
      .some (.mark '#' true :: .mark '!' false :: .group .square content :: items.flatten))
    (said : ∀ grammar room, Passes (attributeContent grammar) content (room + 1) [])
    (each : ∀ item ∈ items,
      ReadsItem (4 * (source.toList.length + 2)) (source.toList.length + 2) item)
    (enough : items.length < source.toList.length + 2) :
    ∃ text, canonical source = .ok text ∧ "#![".toList <+: text.toList := by
  obtain ⟨layout, gives⟩ := gives_file said each enough
  have split : splitInterpreter (Token.dropByteOrderMark source.toList) = (none, source.toList) := by
    rw [starts]
    rfl
  refine ⟨_, ?_, render_box_text "#![" layout⟩
  unfold Gives at gives
  simp only [canonical, fileLayout, split, read, StateT.run, gives]
  rfl

end Files
end SchemaBindings.Source
