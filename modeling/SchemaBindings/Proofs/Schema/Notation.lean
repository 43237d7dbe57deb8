import SchemaBindings.Proofs.Text.Literals
import SchemaBindings.Schema

namespace SchemaBindings

namespace TypeRef

def wrappers : TypeRef → List Kind
  | .list inner => .list :: inner.wrappers
  | .nonNull inner => .nonNull :: inner.wrappers
  | .named _ _ => []

-- The part of a reference that is left below the given wrappers.
inductive Below : List Kind → TypeRef → TypeRef → Prop where
  | here : Below [] part part
  | list (inside : Below outer part whole) : Below (.list :: outer) part (.list whole)
  | nonNull (inside : Below outer part whole) : Below (.nonNull :: outer) part (.nonNull whole)

def isMark (c : Char) : Bool := c == '[' || c == ']' || c == '!'

def PlainName (name : String) : Prop := ∀ c ∈ name.toList, isMark c = false

instance (name : String) : Decidable (PlainName name) :=
  List.decidableBAll _ name.toList

-- What a wrapper puts behind its content.
def closing : Kind → Char
  | .list => ']'
  | _ => '!'

-- The wrappers that marks stand for, both from the outside to the inside.
def ofMarks? : List Char → Option (List Kind)
  | [] => some []
  | ']' :: marks => (ofMarks? marks).map (.list :: ·)
  | '!' :: marks => (ofMarks? marks).map (.nonNull :: ·)
  | _ :: _ => none

-- Brackets, a name and marks. A list is closed as often as one is opened.
def readNotation (text : String) : Option (List Kind × String) :=
  let brackets := text.toList.takeWhile (· == '[')
  let inside := text.toList.dropWhile (· == '[')
  let name := inside.takeWhile (!isMark ·)
  let wrappers := ofMarks? (inside.dropWhile (!isMark ·)).reverse
  (wrappers.filter (·.count .list == brackets.length)).map (·, String.ofList name)

section Marks

theorem closing_eq (kind : Kind) : closing kind = ']' ∨ closing kind = '!' := by
  cases kind <;> simp [closing]

theorem mark_of_mem {kinds : List Kind} (inside : c ∈ (kinds.map closing).reverse) :
    c = ']' ∨ c = '!' := by
  obtain ⟨kind, _, rfl⟩ := List.mem_map.mp (List.mem_reverse.mp inside)
  exact closing_eq kind

theorem ofMarks?_closing (reference : TypeRef) :
    ofMarks? (reference.wrappers.map closing) = some reference.wrappers := by
  induction reference with
  | named kind name => rfl
  | list inner ih => exact congrArg (Option.map (Kind.list :: ·)) ih
  | nonNull inner ih => exact congrArg (Option.map (Kind.nonNull :: ·)) ih

-- Marks that can be read are those of a reference, and the leaf may be any.
theorem exists_of_ofMarks? (known : ofMarks? marks = some kinds) (leaf : Kind × String) :
    ∃ reference : TypeRef, reference.wrappers = kinds ∧ reference.leaf = leaf ∧
      marks = kinds.map closing := by
  fun_induction ofMarks? marks generalizing kinds with
  | case1 =>
    cases known
    exact ⟨.named leaf.1 leaf.2, rfl, rfl, rfl⟩
  | case2 marks ih =>
    obtain ⟨inner, further, rfl⟩ := Option.map_eq_some_iff.mp known
    obtain ⟨reference, rfl, same, rfl⟩ := ih further
    exact ⟨.list reference, rfl, same, rfl⟩
  | case3 marks ih =>
    obtain ⟨inner, further, rfl⟩ := Option.map_eq_some_iff.mp known
    obtain ⟨reference, rfl, same, rfl⟩ := ih further
    exact ⟨.nonNull reference, rfl, same, rfl⟩
  | case4 => cases known

end Marks

theorem toList_sdl (reference : TypeRef) : reference.sdl.toList =
    List.replicate (reference.wrappers.count .list) '[' ++
      (reference.leaf.2.toList ++ (reference.wrappers.map closing).reverse) := by
  induction reference with
  | named kind name => simp [sdl, wrappers, leaf]
  | list inner ih => simp [sdl, wrappers, leaf, ih, closing, List.replicate_succ]
  | nonNull inner ih => simp [sdl, wrappers, leaf, ih, closing]

theorem sdl_congr {first second : TypeRef} (wrappers : first.wrappers = second.wrappers)
    (name : first.leaf.2 = second.leaf.2) : first.sdl = second.sdl := by
  rw [← String.toList_inj, toList_sdl, toList_sdl, wrappers, name]

theorem readNotation_sdl {reference : TypeRef} (plain : PlainName reference.leaf.2) :
    readNotation reference.sdl = some (reference.wrappers, reference.leaf.2) := by
  have opened : ∀ c ∈ List.replicate (reference.wrappers.count .list) '[', (c == '[') = true := by
    simp
  have named : ∀ c ∈ reference.leaf.2.toList, (!isMark c) = true := by
    intro c inside
    rw [plain c inside]
    rfl
  have marked : ∀ c ∈ (reference.wrappers.map closing).reverse.head?, (!isMark c) = false := by
    intro c first
    rcases mark_of_mem (List.mem_of_mem_head? first) with rfl | rfl <;> rfl
  have beyond : ∀ c ∈ (reference.leaf.2.toList ++ (reference.wrappers.map closing).reverse).head?,
      (c == '[') = false := by
    intro c first
    rcases List.mem_append.mp (List.mem_of_mem_head? first) with spelled | marking
    · exact (Bool.or_eq_false_iff.mp (Bool.or_eq_false_iff.mp (plain c spelled)).1).1
    · rcases mark_of_mem marking with rfl | rfl <;> rfl
  simp only [readNotation, toList_sdl, takeWhile_front opened beyond, dropWhile_front opened beyond,
    takeWhile_front named marked, dropWhile_front named marked, List.reverse_reverse,
    ofMarks?_closing, List.length_replicate, String.ofList_toList]
  simp

theorem exists_of_readNotation (known : readNotation text = some (kinds, name)) :
    PlainName name ∧ ∃ reference : TypeRef,
      reference.sdl = text ∧ reference.wrappers = kinds ∧ reference.leaf.2 = name := by
  obtain ⟨_, counted, same⟩ := Option.map_eq_some_iff.mp known
  cases same
  obtain ⟨marked, closed⟩ := Option.filter_eq_some_iff.mp counted
  generalize opened : text.toList.takeWhile (· == '[') = brackets at *
  generalize beyond : text.toList.dropWhile (· == '[') = inside at *
  have plain : PlainName (String.ofList (inside.takeWhile (!isMark ·))) := by
    intro c spelled
    rw [String.toList_ofList] at spelled
    simpa using List.mem_takeWhile_imp spelled
  obtain ⟨reference, rfl, leaf, marks⟩ :=
    exists_of_ofMarks? marked (.scalar, String.ofList (inside.takeWhile (!isMark ·)))
  have front : List.replicate (reference.wrappers.count .list) '[' = brackets := by
    refine (List.eq_replicate_iff.mpr ⟨(eq_of_beq closed).symm, fun c inFront => ?_⟩).symm
    rw [← opened] at inFront
    simpa using List.mem_takeWhile_imp inFront
  refine ⟨plain, reference, String.toList_inj.mp ?_, rfl, congrArg Prod.snd leaf⟩
  rw [toList_sdl, leaf, ← marks, List.reverse_reverse, String.toList_ofList,
    List.takeWhile_append_dropWhile, front, ← opened, ← beyond, List.takeWhile_append_dropWhile]

-- Where leaves have plain names, the notation is read back to the wrappers and the name, so two
-- references are written alike only if they agree in both. Nothing but such a notation is read.
theorem sdl_readable :
    (∀ reference : TypeRef, PlainName reference.leaf.2 →
      readNotation reference.sdl = some (reference.wrappers, reference.leaf.2)) ∧
    (∀ first second : TypeRef, PlainName first.leaf.2 → PlainName second.leaf.2 →
      (first.sdl = second.sdl ↔
        first.wrappers = second.wrappers ∧ first.leaf.2 = second.leaf.2)) ∧
    ∀ text kinds name, readNotation text = some (kinds, name) ↔
      PlainName name ∧ ∃ reference : TypeRef,
        reference.sdl = text ∧ reference.wrappers = kinds ∧ reference.leaf.2 = name := by
  refine ⟨fun _ => readNotation_sdl, fun first second plain other => ?_, fun text kinds name => ?_⟩
  · constructor
    · intro same
      have read := readNotation_sdl plain
      rw [same, readNotation_sdl other] at read
      obtain ⟨wrappers, name⟩ := Prod.mk.inj (Option.some.inj read)
      exact ⟨wrappers.symm, name.symm⟩
    · exact fun ⟨wrappers, name⟩ => sdl_congr wrappers name
  · constructor
    · exact exists_of_readNotation
    · rintro ⟨plain, reference, rfl, rfl, rfl⟩
      exact readNotation_sdl plain

def doubled : TypeRef := .list (.nonNull (.list (.nonNull (.nonNull (.named .scalar "Int")))))

theorem sdl_readable_doubled : PlainName doubled.leaf.2 ∧ doubled.sdl = "[[Int!!]!]" ∧
    readNotation "[[Int!!]!]" = some ([.list, .nonNull, .list, .nonNull, .nonNull], "Int") ∧
    (TypeRef.named .enumeration "Int").sdl ≠ doubled.sdl := by
  have plain : PlainName doubled.leaf.2 := by decide +kernel
  have other : PlainName (TypeRef.named .enumeration "Int").leaf.2 := by decide +kernel
  refine ⟨plain, by decide +kernel, sdl_readable.1 doubled plain, fun same => ?_⟩
  cases ((sdl_readable.2.1 _ _ other plain).mp same).1

-- A name with a mark in it is written like a wrapper.
example : (TypeRef.named .scalar "Int!").sdl =
    (TypeRef.nonNull (.named .scalar "Int")).sdl := rfl

end TypeRef

end SchemaBindings
