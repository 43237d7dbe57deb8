import SchemaBindings.Source.Member

namespace SchemaBindings.Source

-- The phrase is read to its end, and `rest` is what stands behind it.
def Gives (read : Read α) (tokens : Stream) (room : Nat) (result : α) (rest : Stream) : Prop :=
  read ⟨tokens, room, none⟩ = .ok (result, ⟨rest, room, none⟩)

-- As above, whatever comes of it.
def Passes (read : Read α) (tokens : Stream) (room : Nat) (rest : Stream) : Prop :=
  ∃ result, Gives read tokens room result rest

section Rules
variable {tokens mid rest content : Stream} {room : Nat} {a : α} {b : β}
  {first : Read α} {next : α → Read β}

theorem Gives.bind (gives : Gives first tokens room a mid)
    (others : Gives (next a) mid room b rest) : Gives (first >>= next) tokens room b rest := by
  unfold Gives at *
  simp only [Bind.bind, StateT.bind, Except.bind, gives]
  exact others

theorem Passes.after (gives : Gives first tokens room a mid)
    (others : Passes (next a) mid room rest) : Passes (first >>= next) tokens room rest := by
  obtain ⟨b, others⟩ := others
  exact ⟨b, gives.bind others⟩

theorem Passes.bind (passes : Passes first tokens room mid)
    (others : ∀ a, Passes (next a) mid room rest) : Passes (first >>= next) tokens room rest := by
  obtain ⟨a, gives⟩ := passes
  exact .after gives (others a)

theorem gives_ahead : Gives ahead tokens room tokens tokens := rfl

theorem gives_sees (test : Stream → Bool) : Gives (sees test) tokens room (test tokens) tokens := rfl

theorem gives_room : Gives get tokens room ⟨tokens, room, none⟩ tokens := rfl

theorem Gives.inGroup (gives : Gives first content room a []) (bracket : Bracket) (rest : Stream) :
    Gives (inGroup bracket first) (.group bracket content :: rest) room a rest := by
  have entered : Source.inGroup bracket first ⟨.group bracket content :: rest, room, none⟩ =
      (first >>= fun result => do
        let inside ← get
        let left := if inside.tokens.isEmpty then none else some bracket
        set { inside with tokens := rest, leftover := inside.leftover.or left }
        return result) ⟨content, room, none⟩ := by
    cases bracket <;> rfl
  rw [Gives, entered]
  exact gives.bind rfl

theorem Passes.inGroup (passes : Passes first content room []) (bracket : Bracket) (rest : Stream) :
    Passes (inGroup bracket first) (.group bracket content :: rest) room rest := by
  obtain ⟨a, gives⟩ := passes
  exact ⟨a, gives.inGroup bracket rest⟩

end Rules

section Rows
variable {going ends : Stream → Bool} {item : Read α} {fuel room : Nat} {tokens mid rest : Stream}

theorem repeatedAtMost_stops (stops : going rest = false) :
    Passes (repeatedAtMost going item (fuel + 1)) rest room rest := by
  unfold repeatedAtMost
  refine .after gives_ahead ?_
  rw [stops]
  exact ⟨_, rfl⟩

theorem repeatedAtMost_cons (goes : going tokens = true) (first : Passes item tokens room mid)
    (others : Passes (repeatedAtMost going item fuel) mid room rest) :
    Passes (repeatedAtMost going item (fuel + 1)) tokens room rest := by
  unfold repeatedAtMost
  refine .after gives_ahead ?_
  rw [goes]
  exact .bind first fun _ => .bind others fun _ => ⟨_, rfl⟩

-- Every part is read by itself, and there is fuel for all of them.
theorem repeatedAtMost_parts {values : List α} {part : α → Stream} {item : Read β}
    (each : ∀ a ∈ values, part a ≠ [] ∧ ∀ others, Passes item (part a ++ others) room others)
    (enough : values.length < fuel) :
    Passes (repeatedAtMost (!·.isEmpty) item fuel) (values.flatMap part) room [] := by
  induction values generalizing fuel with
  | nil =>
    obtain ⟨spare, rfl⟩ := Nat.exists_eq_succ_of_ne_zero (Nat.ne_of_gt enough)
    exact repeatedAtMost_stops rfl
  | cons a others ih =>
    obtain ⟨spare, rfl⟩ := Nat.exists_eq_succ_of_ne_zero (Nat.ne_zero_of_lt enough)
    obtain ⟨⟨some, reads⟩, later⟩ := List.forall_mem_cons.mp each
    rw [List.flatMap_cons]
    refine repeatedAtMost_cons ?_ (reads _) (ih later (Nat.lt_of_succ_lt_succ enough))
    cases shape : part a with
    | nil => exact (some shape).elim
    | cons token more => rfl

theorem repeated_parts {values : List α} {part : α → Stream} {item : Read β}
    (each : ∀ a ∈ values, part a ≠ [] ∧ ∀ others, Passes item (part a ++ others) room others)
    (enough : values.length < room) : Passes (repeated item) (values.flatMap part) room [] :=
  .after gives_room (repeatedAtMost_parts each enough)

theorem repeated_one (some : tokens.isEmpty = false) (first : Passes item tokens (room + 2) []) :
    Passes (repeated item) tokens (room + 2) [] :=
  .after gives_room (repeatedAtMost_cons (by rw [some]; rfl) first (repeatedAtMost_stops rfl))

def comma : Token := .mark ',' false

-- Parts with a comma behind each.
theorem rowAtMost_parts {values : List α} {part : α → Stream} {item : Read β}
    (each : ∀ a ∈ values, part a ≠ [] ∧
      ∀ others, Passes item (part a ++ comma :: others) room (comma :: others))
    (enough : values.length < fuel) :
    Passes (rowAtMost (·.isEmpty) "," item fuel) (values.flatMap (part · ++ [comma])) room [] := by
  induction values generalizing fuel with
  | nil =>
    obtain ⟨spare, rfl⟩ := Nat.exists_eq_succ_of_ne_zero (Nat.ne_of_gt enough)
    exact ⟨_, rfl⟩
  | cons a others ih =>
    obtain ⟨spare, rfl⟩ := Nat.exists_eq_succ_of_ne_zero (Nat.ne_zero_of_lt enough)
    obtain ⟨⟨some, reads⟩, later⟩ := List.forall_mem_cons.mp each
    have filled : ∀ others, (part a ++ others).isEmpty = false := by
      intro others
      cases shape : part a with
      | nil => exact (some shape).elim
      | cons token more => rfl
    rw [List.flatMap_cons, List.append_assoc]
    unfold rowAtMost
    refine .after gives_ahead ?_
    rw [filled]
    refine .bind (reads _) fun first => ?_
    refine .after gives_ahead ?_
    refine .after rfl ?_
    exact .bind (ih later (Nat.lt_of_succ_lt_succ enough)) fun _ => ⟨_, rfl⟩

theorem separated_parts {values : List α} {part : α → Stream} {item : Read β}
    (each : ∀ a ∈ values, part a ≠ [] ∧
      ∀ others, Passes item (part a ++ comma :: others) room (comma :: others))
    (enough : values.length < room) :
    Passes (separated item) (values.flatMap (part · ++ [comma])) room [] :=
  .after gives_room (rowAtMost_parts each enough)

end Rows

-- Comments and attributes in front of what they are about.
inductive Notes : Stream → Prop where
  | nil : Notes []
  | doc (text : String) (others : Notes rest) : Notes (.doc false text :: rest)
  | said (reads : ∀ grammar room, Passes (attributeContent grammar) content (room + 1) [])
      (others : Notes rest) : Notes (.mark '#' false :: .group .square content :: rest)

section Attributes
variable {notes rest : Stream} {grammar : Grammar} {room : Nat}

theorem Notes.append (notes : Notes tokens) (others : Notes rest) : Notes (tokens ++ rest) := by
  induction notes with
  | nil => exact others
  | doc text _ ih => exact .doc text ih
  | said reads _ ih => exact .said reads ih

theorem Notes.repeatedAtMost (notes : Notes tokens) (plain : rest.startsAttribute = false)
    (enough : tokens.length < fuel) :
    Passes (repeatedAtMost (·.startsAttribute) (outerAttribute grammar) fuel) (tokens ++ rest)
      (room + 1) rest := by
  induction notes generalizing fuel with
  | nil =>
    obtain ⟨spare, rfl⟩ := Nat.exists_eq_succ_of_ne_zero (Nat.ne_of_gt enough)
    exact repeatedAtMost_stops plain
  | doc text _ ih =>
    obtain ⟨spare, rfl⟩ := Nat.exists_eq_succ_of_ne_zero (Nat.ne_zero_of_lt enough)
    exact repeatedAtMost_cons rfl ⟨_, rfl⟩ (ih (Nat.lt_of_succ_lt_succ enough))
  | said reads _ ih =>
    obtain ⟨spare, rfl⟩ := Nat.exists_eq_succ_of_ne_zero (Nat.ne_zero_of_lt enough)
    refine repeatedAtMost_cons rfl ?_ (ih (Nat.lt_of_succ_lt (Nat.lt_of_succ_lt_succ enough)))
    refine .after gives_ahead (.after rfl ?_)
    exact .bind ((reads grammar room).inGroup .square _) fun _ => ⟨_, rfl⟩

theorem Notes.passes (notes : Notes tokens) (plain : rest.startsAttribute = false)
    (enough : tokens.length ≤ room) :
    Passes (outerAttributes grammar) (tokens ++ rest) (room + 1) rest :=
  .bind (.after gives_room (notes.repeatedAtMost plain (Nat.lt_succ_of_le enough)))
    fun _ => ⟨_, rfl⟩

theorem gives_innerAttributes (plain : startsInnerAttribute rest = false) :
    Gives (innerAttributes grammar) rest (room + 1) [] rest := by
  have none : Gives (repeatedWhile startsInnerAttribute (innerAttribute grammar)) rest (room + 1) []
      rest := by
    refine .bind gives_room (.bind gives_ahead ?_)
    rw [plain]
    rfl
  exact .bind none rfl

-- One attribute of the whole.
theorem gives_innerAttribute (grammar : Grammar)
    (said : ∀ grammar room, Passes (attributeContent grammar) content (room + 1) [])
    (plain : startsInnerAttribute rest = false) :
    ∃ layout, Gives (innerAttributes grammar)
      (.mark '#' true :: .mark '!' false :: .group .square content :: rest) (room + 2)
      (bracketed "#![" layout) rest := by
  obtain ⟨layout, said⟩ := said grammar (room + 1)
  have first : Gives (innerAttribute grammar)
      (.mark '#' true :: .mark '!' false :: .group .square content :: rest) (room + 2)
      (bracketed "#![" layout) rest :=
    .bind gives_ahead (.bind rfl (.bind rfl (.bind (said.inGroup .square rest) rfl)))
  have stops : Gives (Source.repeatedAtMost startsInnerAttribute (innerAttribute grammar) (room + 1))
      rest (room + 2) [] rest := by
    refine .bind gives_ahead ?_
    rw [plain]
    rfl
  have all : Gives (repeatedWhile startsInnerAttribute (innerAttribute grammar))
      (.mark '#' true :: .mark '!' false :: .group .square content :: rest) (room + 2)
      [bracketed "#![" layout] rest :=
    .bind gives_room (.bind gives_ahead (.bind first (.bind stops rfl)))
  refine ⟨layout, .bind all ?_⟩
  rw [List.flatten_singleton]
  rfl

end Attributes
end SchemaBindings.Source
