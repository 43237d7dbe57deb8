import SchemaBindings.Proofs.Json.Reading

namespace SchemaBindings.Json

theorem isDigit_digitChar (small : n < 10) : Number.isDigit n.digitChar = true := by
  match n, small with
  | 0, _ | 1, _ | 2, _ | 3, _ | 4, _ | 5, _ | 6, _ | 7, _ | 8, _ | 9, _ => decide

theorem WholeText.snoc (whole : WholeText cs) (positive : cs ≠ ['0'])
    (digit : Number.isDigit d = true) : WholeText (cs ++ [d]) := by
  cases whole with
  | zero => exact (positive rfl).elim
  | digits first nonzero rest =>
    refine .digits first nonzero fun c inside => ?_
    rcases List.mem_append.mp inside with earlier | last
    · exact rest c earlier
    · rwa [List.mem_singleton.mp last]

theorem wholeText_toDigits (n : Nat) :
    WholeText (Nat.toDigits 10 n) ∧ (Nat.toDigits 10 n = ['0'] → n = 0) := by
  induction n using Nat.strongRecOn with
  | ind n ih =>
    by_cases small : n < 10
    · rw [Nat.toDigits_of_lt_base small]
      refine ⟨?_, by simp⟩
      by_cases zero : n = 0
      · subst zero
        exact .zero
      · exact .digits (isDigit_digitChar small) (by simpa using zero) nofun
    · obtain ⟨whole, positive⟩ := ih (n / 10) (by omega)
      rw [Nat.toDigits_of_base_le (by decide) (by omega)]
      refine ⟨whole.snoc (fun zero => ?_) (isDigit_digitChar (Nat.mod_lt n (by decide))), ?_⟩
      · have none := positive zero
        omega
      · intro single
        have length := congrArg List.length single
        simp [Nat.toDigits_ne_nil] at length

theorem numberText_toString (n : Int) : NumberText (toString n).toList := by
  cases n with
  | ofNat n =>
    have shape := NumberText.plain (wholeText_toDigits n).1 .absent .absent
    simpa [Int.toString_eq_repr, Int.repr, Nat.toList_repr] using shape
  | negSucc n =>
    have shape := NumberText.negative (wholeText_toDigits (n + 1)).1 .absent .absent
    simpa [Int.toString_eq_repr, Int.repr, Nat.toList_repr] using shape

theorem hexUnit_control (control : n < 0x20) :
    hexUnit '0' '0' (Text.hexDigit (n / 0x10)) (Text.hexDigit (n % 0x10)) = some n := by
  revert n
  decide

theorem fourHexDigits_control (control : n < 0x20) :
    fourHexDigits n = ['0', '0', Text.hexDigit (n / 0x10), Text.hexDigit (n % 0x10)] := by
  revert n
  decide

-- A character is written as one of the short escapes, by its number, or as itself.
theorem escape_cases (c : Char) :
    (∃ e, Json.escape c = ['\\', e] ∧ simpleEscape e = some c) ∨
      (c.toNat < 0x20 ∧ Json.escape c = '\\' :: 'u' :: fourHexDigits c.toNat) ∨
      (c ≠ '"' ∧ c ≠ '\\' ∧ isControl c = false ∧ Json.escape c = [c]) := by
  by_cases short : c = '"' ∨ c = '\\' ∨ c = '\x08' ∨ c = '\x0c' ∨ c = '\n' ∨ c = '\r' ∨ c = '\t'
  · left
    rcases short with rfl | rfl | rfl | rfl | rfl | rfl | rfl <;> exact ⟨_, rfl, rfl⟩
  · simp only [not_or] at short
    obtain ⟨quote, slash, back, form, line, carriage, tab⟩ := short
    right
    by_cases control : c.toNat < 0x20
    · left
      exact ⟨control, by simp [Json.escape, *]⟩
    · right
      exact ⟨quote, slash, by simp [isControl, control], by simp [Json.escape, *]⟩

theorem StringText.escaped (rest : StringText cs s) (c : Char) :
    StringText (Json.escape c ++ cs) (s.map (c :: ·)) := by
  rcases escape_cases c with ⟨e, short, known⟩ | ⟨control, long⟩ | ⟨quote, slash, control, plain⟩
  · rw [short]
    exact .escape known rest
  · have given := StringText.unit (hexUnit_control control) (by simp [isLead]; omega)
      (by simp [isTrail]; omega) rest
    rw [Char.ofNat_toNat] at given
    rw [long, fourHexDigits_control control]
    exact given
  · rw [plain]
    exact .plain quote slash control rest

theorem stringText_escape (cs : List Char) : StringText (cs.flatMap Json.escape) (some cs) := by
  induction cs with
  | nil => exact .done
  | cons c cs ih => exact ih.escaped c

namespace Value

-- The tree of a value, whose numbers are written in digits.
mutual
def tree : Value → Tree .value
  | .null => .null
  | .bool b => .bool b
  | .integer n => .number (toString n).toList
  | .string s => .text s
  | .list items => .list (itemsTree items)
  | .object members => .object (membersTree members)

def itemsTree : List Value → Tree .items
  | [] => .noItems
  | item :: rest => .item item.tree (itemsTree rest)

def membersTree : List (String × Value) → Tree .members
  | [] => .noMembers
  | (name, value) :: rest => .member (some name) value.tree (membersTree rest)
end

theorem nothing_blank : Blanks [] := nofun

mutual
theorem spells : (value : Value) → Spells value.tree value.text.toList
  | .null => by
    rw [tree, text]
    exact .null
  | .bool true => by
    rw [tree, text]
    exact .trueWord
  | .bool false => by
    rw [tree, text]
    exact .falseWord
  | .integer n => by
    rw [tree, text]
    exact .number (numberText_toString n)
  | .string s => by
    have spelled := Spells.string (stringText_escape s.toList)
    simpa [tree, text, quote, Tree.text] using spelled
  | .list items => by
    have spelled := Spells.list nothing_blank (spells_items items)
    simpa [tree, text] using spelled
  | .object members => by
    have spelled := Spells.object nothing_blank (spells_members members)
    simpa [tree, text] using spelled

theorem spells_items : (items : List Value) →
    Spells (itemsTree items) ((",".intercalate (itemTexts items)).toList ++ [']'])
  | [] => by
    rw [itemsTree, itemTexts]
    exact .noItems
  | [item] => by
    have spelled := Spells.lastItem (spells item) nothing_blank
    simpa [itemsTree, itemTexts] using spelled
  | item :: next :: rest => by
    have spelled := Spells.nextItem (spells item) nothing_blank nothing_blank
      (spells_items (next :: rest))
    simpa [itemsTree, itemTexts] using spelled

theorem spells_members : (members : List (String × Value)) →
    Spells (membersTree members) ((",".intercalate (memberTexts members)).toList ++ ['}'])
  | [] => by
    rw [membersTree, memberTexts]
    exact .noMembers
  | [(name, value)] => by
    have spelled := Spells.lastMember (stringText_escape name.toList) nothing_blank nothing_blank
      (spells value) nothing_blank
    simpa [membersTree, memberTexts, quote] using spelled
  | (name, value) :: next :: rest => by
    have spelled := Spells.nextMember (stringText_escape name.toList) nothing_blank nothing_blank
      (spells value) nothing_blank nothing_blank (spells_members (next :: rest))
    simpa [membersTree, memberTexts, quote] using spelled
end

theorem spelled (value : Value) : Spelled value.text value.tree :=
  ⟨[], _, [], nothing_blank, value.spells, nothing_blank, by simp⟩

theorem toItems_itemsTree (items : List Value) : (itemsTree items).toItems = items.map tree := by
  induction items with
  | nil => rfl
  | cons item rest ih => rw [itemsTree, Tree.toItems, ih, List.map_cons]

theorem keys_membersTree (members : List (String × Value)) :
    (membersTree members).keys = members.map fun member => some member.1 := by
  induction members with
  | nil => rfl
  | cons member rest ih =>
    rw [Tree.keys] at ih ⊢
    rw [membersTree, Tree.entries, List.map_cons, ih, List.map_cons]

theorem find?_membersTree (members : List (String × Value)) (key : String) :
    (membersTree members).find? key = (members.lookup key).map tree := by
  induction members with
  | nil => rfl
  | cons member rest ih =>
    rw [Tree.find?] at ih ⊢
    rw [membersTree, Tree.entries, List.lookup_cons, List.lookup_cons, ih]
    by_cases same : key = member.1
    · simp [same]
    · simp [beq_eq_false_iff_ne.mpr same]

-- Members that are named apart make up any record.
theorem record_membersTree {members : List (String × Value)} (shape : Shape)
    (distinct : (members.map (·.1)).Nodup) : Record shape (membersTree members) := by
  constructor
  · simp [keys_membersTree]
  · intro field _
    have apart : (membersTree members).keys.Nodup := by
      rw [keys_membersTree, ← Function.comp_def some, ← List.map_map]
      exact List.Pairwise.map some (fun _ _ other same => other (Option.some.inj same)) distinct
    exact List.nodup_iff_count.mp apart (some field)

end Value
end SchemaBindings.Json
