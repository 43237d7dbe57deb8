import Mathlib.Data.List.Forall2
import SchemaBindings.Proofs.Json.Tree

namespace SchemaBindings.Json

-- Wherever the tree stands, reading it gives the value.
def Reads (reader : Reader α) (depth : Nat) (tree : Tree .value) (value : α) : Prop :=
  ∀ node : Node .value, node.Says tree → reader depth node = .ok value

theorem eq_ok_of_toOption {x : Except ε α} (same : x.toOption = some a) : x = .ok a := by
  cases x with
  | error _ => cases same
  | ok b => cases same; rfl

-- The tree is not null, and its value is read from it as long as its brackets may be opened.
structure Yields (reader : Reader α) (value : α) (tree : Tree .value) : Prop where
  shown : tree ≠ .null
  reads : tree.nesting < depth → Reads reader depth tree value

theorem yields_text (s : String) : Yields readText s (.text s) := by
  refine ⟨nofun, fun _ node whole => ?_⟩
  cases whole with
  | string same => exact eq_ok_of_toOption same

theorem yields_bool (b : Bool) : Yields readBool b (.bool b) := by
  refine ⟨nofun, fun _ node whole => ?_⟩
  cases whole
  rfl

theorem reads_null (reader : Reader α) (depth : Nat) : Reads (orNull reader) depth .null none := by
  intro node whole
  cases whole
  rfl

theorem orNull_of_ne_null (whole : node.Says tree) (shown : tree ≠ .null) (reader : Reader α)
    (depth : Nat) : orNull reader depth node = (reader depth node).map some := by
  cases whole with
  | null => exact (shown rfl).elim
  | _ => rfl

theorem Yields.orNull (yields : Yields reader value tree) (fits : tree.nesting < depth) :
    Reads (orNull reader) depth tree (some value) := by
  intro node whole
  rw [orNull_of_ne_null whole yields.shown, yields.reads fits node whole]
  rfl

-- The reader may be fixed to the depth at which it is used.
theorem orNull_at (reader : Reader α) (depth : Nat) (node : Node .value) :
    orNull (fun _ inner => reader depth inner) depth node = orNull reader depth node := by
  cases node with
  | scalar _ _ content => cases content <;> rfl
  | _ => rfl

-- A bracket takes one of the depth.
theorem entering_of_lt (fits : n + 1 < depth) (start : Spot) (inside : Nat → Except Error α) :
    entering depth start inside = inside (depth - 1) := by
  match depth, fits with
  | left + 2, _ => rfl

theorem readItems_of_reads {reader : Reader α} {values : List α} {node : Node .items}
    {tree : Tree .items} (whole : node.Says tree)
    (reads : List.Forall₂ (Reads reader depth) tree.toItems values) :
    readItems (reader depth) node = .ok values := by
  cases whole with
  | itemsEnd =>
    cases reads
    rw [readItems]
  | item first rest =>
    cases reads with
    | cons read others => rw [readItems, read _ first, readItems_of_reads rest others]; rfl

theorem yields_list {reader : Reader α} {values : List α}
    (yields : List.Forall₂ (fun tree value => Yields reader value tree) items.toItems values) :
    Yields (readList reader) values (.list items) := by
  refine ⟨nofun, fun fits node whole => ?_⟩
  cases whole with
  | list inside =>
    rw [readList, entering_of_lt fits]
    refine readItems_of_reads inside (List.forall₂_iff_get.mpr ⟨yields.length_eq, ?_⟩)
    intro i left right
    have inner := Tree.nesting_le_of_mem_toItems (List.get_mem items.toItems ⟨i, left⟩)
    refine ((List.forall₂_iff_get.mp yields).2 i left right).reads ?_
    simp only [Tree.nesting] at fits
    omega

-- The members of a record: every key has a text, and no field of the record comes twice.
structure Record (shape : Shape) (members : Tree .members) : Prop where
  readable : none ∉ members.keys
  once : ∀ field ∈ shape.fields, members.keys.count (some field) ≤ 1

theorem lookup_of_mem [BEq α] [LawfulBEq α] {pairs : List (α × β)}
    (once : (pairs.map (·.1)).count key ≤ 1) (member : (key, value) ∈ pairs) :
    pairs.lookup key = some value := by
  induction pairs with
  | nil => cases member
  | cons pair rest ih =>
    rw [List.map_cons, List.count_cons] at once
    rcases List.mem_cons.mp member with rfl | later
    · exact List.lookup_cons_self
    · have present : 0 < (rest.map (·.1)).count key :=
        List.count_pos_iff.mpr (List.mem_map.mpr ⟨_, later, rfl⟩)
      have other : pair.1 ≠ key := by
        intro equal
        simp only [equal, beq_self_eq_true, if_true] at once
        omega
      rw [List.lookup_cons, beq_eq_false_iff_ne.mpr other.symm]
      exact ih (by omega) later

theorem Record.find?_of_mem (record : Record shape members) (field : key ∈ shape.fields)
    (member : (some key, value) ∈ members.entries) : members.find? key = some value :=
  lookup_of_mem (record.once key field) member

section Members
variable {shape : Shape} {put : Put σ} {draftOf : List String → σ}

-- `draftOf` is the draft once the fields in the list are filled, in whatever order they came.
theorem readNamed_of_fills {node : Node .members} {members : Tree .members}
    (whole : node.Says members) (seen : List String) (readable : none ∉ members.keys)
    (once : ∀ field ∈ shape.fields,
      members.keys.count (some field) ≤ if field ∈ seen then 0 else 1)
    (fills : ∀ key ∈ shape.fields, ∀ value, (some key, value) ∈ members.entries → ∀ seen,
      ∀ node, node.Says value → put key node (draftOf seen) = .ok (draftOf (key :: seen))) :
    ∃ all stop, readNamed shape put seen (draftOf seen) node = .ok (draftOf all, stop) ∧
      ∀ field ∈ shape.fields, field ∈ all ↔ field ∈ seen ∨ some field ∈ members.keys := by
  cases whole with
  | membersEnd => exact ⟨seen, _, by rw [readNamed], by simp [Tree.keys, Tree.entries]⟩
  | @member name node tree others trees key settled next same value rest =>
    simp only [Tree.keys, Tree.entries, List.map_cons, List.mem_cons, List.count_cons, not_or]
      at readable once fills ⊢
    cases name with
    | none => exact (readable.1 rfl).elim
    | some name =>
      rw [eq_ok_of_toOption same]
      by_cases known : name ∈ shape.fields
      · have fresh : name ∉ seen := by
          intro earlier
          have first := once name known
          simp [earlier] at first
        have once : ∀ field ∈ shape.fields,
            trees.keys.count (some field) ≤ if field ∈ name :: seen then 0 else 1 := by
          intro field inside
          have bound := once field inside
          by_cases equal : field = name
          · simp [equal, fresh] at bound
            simp [equal, Tree.keys, bound]
          · simpa [equal, Ne.symm equal, Tree.keys] using bound
        obtain ⟨all, stop, read, keys⟩ := readNamed_of_fills rest (name :: seen) readable.2 once
          (fun key field value member => fills key field value (.inr member))
        refine ⟨all, stop, ?_, ?_⟩
        · rw [readNamed]
          simp only [bind, Except.bind, List.contains_iff_mem, known, fresh, if_true, if_false]
          rw [fills name known tree (.inl rfl) seen node value]
          exact read
        · intro field inside
          rw [keys field inside]
          simp [Tree.keys, or_assoc, or_left_comm]
      · obtain ⟨all, stop, read, keys⟩ := readNamed_of_fills rest seen readable.2
          (by
            intro field inside
            have bound := once field inside
            have other : field ≠ name := by rintro rfl; exact known inside
            simpa [Ne.symm other, Tree.keys] using bound)
          (fun key field value member => fills key field value (.inr member))
        refine ⟨all, stop, ?_, ?_⟩
        · rw [readNamed]
          simp only [bind, Except.bind, List.contains_iff_mem, known, if_false,
            value.passingFault]
          exact read
        · intro field inside
          have other : field ≠ name := by rintro rfl; exact known inside
          rw [keys field inside]
          simp [Tree.keys, other]

end Members

theorem isSome_find? {members : Tree .members} :
    (members.find? key).isSome ↔ some key ∈ members.keys := by
  simp [Tree.find?, Tree.keys]

theorem mem_entries_of_find? {members : Tree .members} (found : members.find? key = some value) :
    (some key, value) ∈ members.entries := by
  obtain ⟨before, behind, equal, _⟩ := List.lookup_eq_some_iff.mp found
  rw [equal]
  exact List.mem_append_right _ (List.mem_cons_self ..)

theorem nesting_of_find? {members : Tree .members} (fits : (Tree.object members).nesting < depth)
    (found : members.find? key = some value) : value.nesting < depth - 1 := by
  have inner := Tree.nesting_le_of_mem_entries (mem_entries_of_find? found)
  simp only [Tree.nesting] at fits
  omega

-- A record is read from its members, each of which fills a field of the draft, and is then
-- finished.
theorem readDraft_bind {put : Nat → Put σ} {finish : σ × Spot → Except Error α}
    (draftOf : List String → σ) (start : blank = draftOf []) (record : Record shape members)
    (fits : (Tree.object members).nesting < depth) (whole : node.Says (.object members))
    (fills : ∀ key ∈ shape.fields, ∀ value, members.find? key = some value →
      value.nesting < depth - 1 → ∀ seen node, node.Says value →
        put (depth - 1) key node (draftOf seen) = .ok (draftOf (key :: seen)))
    (finishes : ∀ all stop,
      (∀ field ∈ shape.fields, field ∈ all ↔ (members.find? field).isSome) →
        finish (draftOf all, stop) = .ok value) :
    (readDraft shape put blank depth node >>= finish) = .ok value := by
  subst start
  cases whole with
  | object inside =>
    obtain ⟨all, stop, read, keys⟩ := readNamed_of_fills inside [] record.readable
      (by simpa using record.once)
      (fun key field value member =>
        have found := record.find?_of_mem field member
        fills key field value found (nesting_of_find? fits found))
    rw [readDraft, entering_of_lt fits, read]
    exact finishes all stop (fun field inside => by rw [keys field inside, isSome_find?]; simp)

namespace Tree

-- A member that may be missing is null then, or not there.
def Omits (members : Tree .members) (key : String) : Prop :=
  members.find? key = none ∨ members.find? key = some .null

def Gives (members : Tree .members) (key : String) (writes : Tree .value → Prop) : Prop :=
  ∃ value, members.find? key = some value ∧ writes value

def MayGive (members : Tree .members) (key : String) (writes : α → Tree .value → Prop) :
    Option α → Prop
  | some a => members.Gives key (writes a)
  | none => members.Omits key

-- Each of the values is written by the item at its place.
def IsList (writes : α → Tree .value → Prop) (values : List α) (tree : Tree .value) : Prop :=
  ∃ items, tree = .list items ∧ List.Forall₂ writes values items.toItems

def MayList (members : Tree .members) (key : String) (writes : α → Tree .value → Prop)
    (values : List α) : Prop :=
  members.Gives key (IsList writes values) ∨ values = [] ∧ members.Omits key

end Tree

theorem Tree.Gives.of_find? {members : Tree .members} (given : members.Gives key writes)
    (found : members.find? key = some tree) : writes tree := by
  obtain ⟨other, same, written⟩ := given
  rw [found] at same
  cases same
  exact written

theorem Tree.MayGive.reads {members : Tree .members} (given : members.MayGive key writes a)
    (found : members.find? key = some tree) (fits : tree.nesting < depth)
    (yields : ∀ b, writes b tree → Yields reader (f b) tree) :
    Reads (orNull reader) depth tree (a.map f) := by
  cases a with
  | none =>
    rcases given with absent | null
    · rw [found] at absent; cases absent
    · rw [found] at null
      cases null
      exact reads_null reader depth
  | some b => exact (yields b (Tree.Gives.of_find? given found)).orNull fits

theorem Tree.IsList.yields {f : α → β} (listed : IsList writes values tree)
    (yields : ∀ a tree, writes a tree → Yields reader (f a) tree) :
    Yields (readList reader) (values.map f) tree := by
  obtain ⟨items, rfl, written⟩ := listed
  refine yields_list (List.forall₂_map_right_iff.mpr ?_)
  exact written.flip.imp fun tree a writes => yields a tree writes

-- A field of a draft holds its value once the key was seen.
def filled (seen : List String) (key : String) (value blank : α) : α :=
  if key ∈ seen then value else blank

@[simp] theorem filled_cons_self (seen : List String) (key : String) (value blank : α) :
    filled (key :: seen) key value blank = value :=
  if_pos (List.mem_cons_self ..)

theorem filled_cons_of_ne (other : key ≠ name) (seen : List String) (value blank : α) :
    filled (name :: seen) key value blank = filled seen key value blank := by
  simp [filled, other]

-- What was read for a key is put into the draft, whose other fields stay.
theorem fill_ok {reader : Node .value → Except Error α} {fill : α → σ} {draft : σ}
    (read : reader node = .ok a) (same : fill a = draft) :
    (do return fill (← reader node)) = .ok draft := by
  rw [read]
  exact congrArg Except.ok same

section Finished
variable {members : Tree .members} {all : List String} {key : String}
  (seen : key ∈ all ↔ (members.find? key).isSome)
include seen

theorem filled_of_gives (given : members.Gives key writes) (value blank : α) :
    filled all key value blank = value := by
  obtain ⟨tree, found, _⟩ := given
  exact if_pos (seen.mpr (by rw [found]; rfl))

theorem filled_of_mayGive (given : members.MayGive key writes a) : filled all key a none = a := by
  cases a with
  | some b => exact filled_of_gives seen given _ _
  | none => exact ite_self none

theorem filled_of_mayList {f : α → β} (given : members.MayList key writes values) :
    filled all key (values.map f) [] = values.map f := by
  rcases given with listed | ⟨rfl, _⟩
  · exact filled_of_gives seen listed _ _
  · exact ite_self []

end Finished

end SchemaBindings.Json
