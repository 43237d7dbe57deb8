import Mathlib.Data.List.Perm.Basic
import SchemaBindings.Proofs.Fallible
import SchemaBindings.Proofs.Json.Reading

namespace SchemaBindings.Json

theorem error_of_toOption {x : Except ε α} (same : x.toOption = none) : ∃ e, x = .error e := by
  cases x with
  | error e => exact ⟨e, rfl⟩
  | ok _ => cases same

-- From nodes of related trees the reader gets related results, wherever the nodes stand.
def Respects (V : Tree .value → Tree .value → Prop) (S : α → α → Prop)
    (reader : Node .value → Except Error α) : Prop :=
  ∀ left right a b, left.Says a → right.Says b → V a b → Agree S (reader left) (reader right)

-- The reader gets the same from all nodes of a tree.
abbrev Blind (reader : Node .value → Except Error α) : Prop := Respects Eq Eq reader

theorem blind_readText (depth : Nat) : Blind (readText depth) := by
  rintro left right a _ first second rfl
  cases first with
  | string same => cases second with
    | string again => exact .of_toOption (same.trans again.symm)
  | _ => cases second; exact .failed

theorem blind_readBool (depth : Nat) : Blind (readBool depth) := by
  rintro left right a _ first second rfl
  cases first with
  | bool => cases second; exact .done rfl
  | _ => cases second; exact .failed

theorem blind_readUnit (depth : Nat) : Blind (readUnit depth) := by
  rintro left right a _ first second rfl
  cases first with
  | null => cases second; exact .done rfl
  | _ => cases second; exact .failed

-- Null is read without the reader of what is not null.
theorem respects_orNull {V : Tree .value → Tree .value → Prop} {S : α → α → Prop}
    {reader : Reader α} (respects : Respects V S (reader depth))
    (nulls : ∀ a b, V a b → (a = .null ↔ b = .null)) :
    Respects V (Option.Rel S) (orNull reader depth) := by
  intro left right a b first second related
  by_cases null : a = .null
  · obtain rfl := (nulls a b related).mp null
    subst null
    cases first
    cases second
    exact .done .none
  · have shown : b ≠ .null := fun same => null ((nulls a b related).mpr same)
    rw [orNull_of_ne_null first null, orNull_of_ne_null second shown]
    exact (respects left right a b first second related).map fun _ _ => .some

theorem agree_entering {R : α → β → Prop} {f : Nat → Except Error α} {g : Nat → Except Error β}
    (inside : ∀ left, Agree R (f left) (g left)) (depth : Nat) (start other : Spot) :
    Agree R (entering depth start f) (entering depth other g) := by
  match depth with
  | 0 | 1 => exact .failed
  | left + 2 => exact inside (left + 1)

section Lists
variable {reader : Reader α}

-- The items of a whole list are read one after the other.
theorem readItems_eq_mapM {node : Node .items} {items : Tree .items} (whole : node.Says items) :
    ∃ nodes, List.Forall₂ Node.Says nodes items.toItems ∧
      ∀ reader : Node .value → Except Error α, readItems reader node = nodes.mapM reader := by
  cases whole with
  | itemsEnd => exact ⟨[], .nil, fun reader => by rw [readItems]; rfl⟩
  | @item first _ _ _ value rest =>
    obtain ⟨nodes, each, same⟩ := readItems_eq_mapM rest
    refine ⟨first :: nodes, .cons value each, fun reader => ?_⟩
    rw [readItems, List.mapM_cons, same]

theorem agree_mapM_of_blind {f : Node .value → Except Error α} (blind : Blind f)
    {nodes others : List (Node .value)} {items : List (Tree .value)}
    (first : List.Forall₂ Node.Says nodes items) (second : List.Forall₂ Node.Says others items) :
    Agree Eq (nodes.mapM f) (others.mapM f) := by
  have each : List.Forall₂ (fun left right => Agree Eq (f left) (f right)) nodes others := by
    induction first generalizing others with
    | nil => cases second; exact .nil
    | cons value _ ih => cases second with
      | cons again rest => exact .cons (blind _ _ _ _ value again rfl) (ih rest)
  exact (Agree.mapM each).mono fun _ _ same => by rwa [List.forall₂_eq_eq_eq] at same

theorem blind_readList (blind : ∀ depth, Blind (reader depth)) (depth : Nat) :
    Blind (readList reader depth) := by
  rintro left right a _ first second rfl
  cases first with
  | list inside => cases second with
    | list again =>
      rw [readList, readList]
      refine agree_entering (fun left => ?_) depth _ _
      obtain ⟨nodes, each, read⟩ := readItems_eq_mapM inside
      obtain ⟨others, every, reread⟩ := readItems_eq_mapM again
      rw [read, reread]
      exact agree_mapM_of_blind (blind left) each every
  | _ => cases second; exact .failed

-- The same list in another order.
def Shuffled (a b : Tree .value) : Prop :=
  ∃ xs ys, a = .list xs ∧ b = .list ys ∧ xs.toItems.Perm ys.toItems

theorem respects_readList_shuffled (blind : ∀ depth, Blind (reader depth)) (depth : Nat) :
    Respects Shuffled List.Perm (readList reader depth) := by
  rintro left right a b first second ⟨xs, ys, rfl, rfl, perm⟩
  cases first with
  | list inside => cases second with
    | list again =>
      rw [readList, readList]
      refine agree_entering (fun left => ?_) depth _ _
      obtain ⟨nodes, each, read⟩ := readItems_eq_mapM inside
      obtain ⟨others, every, reread⟩ := readItems_eq_mapM again
      rw [read, reread]
      -- The nodes of the first list, put in the order of the second.
      obtain ⟨moved, there, shuffle⟩ := List.perm_comp_forall₂ perm.symm
        (List.Forall₂.flip each : List.Forall₂ (flip Node.Says) xs.toItems nodes)
      have same := agree_mapM_of_blind (blind left) there.flip every
      exact (Agree.mapM_perm shuffle.symm).trans same fun _ _ _ order equal => equal ▸ order

end Lists

-- Two records whose members have the same keys; `V` relates the values of one key, or the values
-- of one field where the record is given as a list.
inductive MembersAlike (V : Option String → Tree .value → Tree .value → Prop) :
    Tree .members → Tree .members → Prop where
  | noMembers : MembersAlike V .noMembers .noMembers
  | member (value : V key a b) (rest : MembersAlike V xs ys) :
      MembersAlike V (.member key a xs) (.member key b ys)

inductive ItemsAlike (V : Option String → Tree .value → Tree .value → Prop) :
    List String → Tree .items → Tree .items → Prop where
  | noItems : ItemsAlike V fields .noItems .noItems
  | item (value : V (some field) a b) (rest : ItemsAlike V fields xs ys) :
      ItemsAlike V (field :: fields) (.item a xs) (.item b ys)
  | surplus : ItemsAlike V [] items items

inductive RecordsAlike (shape : Shape) (V : Option String → Tree .value → Tree .value → Prop) :
    Tree .value → Tree .value → Prop where
  | object (members : MembersAlike V xs ys) : RecordsAlike shape V (.object xs) (.object ys)
  | list (items : ItemsAlike V shape.fields xs ys) : RecordsAlike shape V (.list xs) (.list ys)
  | same : RecordsAlike shape V tree tree

section Records
variable {shape : Shape} {V : Option String → Tree .value → Tree .value → Prop}
  {D : σ → σ → Prop} {put : Put σ}

theorem membersAlike_refl (reflexive : ∀ key a, V key a a) :
    (members : Tree .members) → MembersAlike V members members
  | .noMembers => .noMembers
  | .member key value rest => .member (reflexive key value) (membersAlike_refl reflexive rest)

theorem itemsAlike_refl (reflexive : ∀ key a, V key a a) :
    (fields : List String) → (items : Tree .items) → ItemsAlike V fields items items
  | [], _ => .surplus
  | _ :: _, .noItems => .noItems
  | field :: fields, .item value rest =>
    .item (reflexive (some field) value) (itemsAlike_refl reflexive fields rest)

-- Every field of the record is put into related drafts in the same way.
def PutsAlike (shape : Shape) (V : Option String → Tree .value → Tree .value → Prop)
    (D : σ → σ → Prop) (put : Put σ) : Prop :=
  ∀ field ∈ shape.fields, ∀ left right a b d e, left.Says a → right.Says b → V (some field) a b →
    D d e → Agree D (put field left d) (put field right e)

theorem agree_readNamed (puts : PutsAlike shape V D put) (alike : MembersAlike V xs ys)
    {left right : Node .members} (first : left.Says xs) (second : right.Says ys)
    (seen : List String) (drafts : D d e) :
    Agree (fun p q => D p.1 q.1) (readNamed shape put seen d left)
      (readNamed shape put seen e right) := by
  induction alike generalizing left right seen d e with
  | noMembers =>
    cases first
    cases second
    rw [readNamed, readNamed]
    exact .done drafts
  | @member key a b xs ys related _ ih => cases first with
    | member same value rest => cases second with
      | member again other others =>
        rw [readNamed, readNamed]
        cases key with
        | none =>
          obtain ⟨_, rfl⟩ := error_of_toOption same
          obtain ⟨_, rfl⟩ := error_of_toOption again
          exact .failed
        | some name =>
          rw [eq_ok_of_toOption same, eq_ok_of_toOption again]
          by_cases known : name ∈ shape.fields
          · by_cases earlier : name ∈ seen
            · simp only [bind, Except.bind, List.contains_iff_mem, known, earlier, if_true]
              exact .failed
            · simp only [bind, Except.bind, List.contains_iff_mem, known, earlier, if_true,
                if_false]
              exact (puts name known _ _ _ _ _ _ value other related drafts).bind
                fun _ _ drafts => ih rest others (name :: seen) drafts
          · simp only [bind, Except.bind, List.contains_iff_mem, known, if_false,
              value.passingFault, other.passingFault]
            exact ih rest others seen drafts

theorem agree_readListed_end (put : Put σ) (fields : List String) (index : Nat) (stop other : Spot)
    (drafts : D d e) :
    Agree (fun p q => D p.1 q.1) (readListed shape put index d fields (.itemsEnd stop))
      (readListed shape put index e fields (.itemsEnd other)) := by
  induction fields generalizing index with
  | nil =>
    rw [readListed, readListed]
    exact .done drafts
  | cons field fields ih =>
    rw [readListed, readListed]
    split
    · exact ih (index + 1)
    · exact .failed

theorem agree_readListed (puts : PutsAlike shape V D put) (alike : ItemsAlike V fields xs ys)
    (inside : ∀ field ∈ fields, field ∈ shape.fields) {left right : Node .items}
    (first : left.Says xs) (second : right.Says ys) (index : Nat) (drafts : D d e) :
    Agree (fun p q => D p.1 q.1) (readListed shape put index d fields left)
      (readListed shape put index e fields right) := by
  induction alike generalizing left right index d e with
  | noItems =>
    cases first
    cases second
    exact agree_readListed_end put _ index _ _ drafts
  | @item field a b fields xs ys related _ ih => cases first with
    | item value rest => cases second with
      | item other others =>
        rw [readListed, readListed]
        exact (puts field (inside field (List.mem_cons_self ..)) _ _ _ _ _ _ value other related
          drafts).bind fun _ _ drafts =>
            ih (fun name later => inside name (List.mem_cons_of_mem _ later)) rest others _ drafts
  | surplus => cases first with
    | itemsEnd =>
      cases second
      exact agree_readListed_end put [] index _ _ drafts
    | item _ _ => cases second with
      | item _ _ =>
        rw [readListed, readListed]
        · exact .failed
        all_goals exact nofun

theorem agree_readDraft {put : Nat → Put σ} (reflexive : ∀ key a, V key a a)
    (puts : ∀ left, PutsAlike shape V D (put left)) (start : D blank blank) (depth : Nat)
    {left right : Node .value} (first : left.Says a) (second : right.Says b)
    (alike : RecordsAlike shape V a b) :
    Agree (fun p q => D p.1 q.1) (readDraft shape put blank depth left)
      (readDraft shape put blank depth right) := by
  have objects : ∀ {xs ys : Tree .members}, MembersAlike V xs ys → left.Says (.object xs) →
      right.Says (.object ys) → Agree (fun p q => D p.1 q.1)
        (readDraft shape put blank depth left) (readDraft shape put blank depth right) := by
    intro xs ys members first second
    cases first with
    | object inside => cases second with
      | object again =>
        rw [readDraft, readDraft]
        exact agree_entering
          (fun left => agree_readNamed (puts left) members inside again [] start) depth _ _
  have lists : ∀ {xs ys : Tree .items}, ItemsAlike V shape.fields xs ys → left.Says (.list xs) →
      right.Says (.list ys) → Agree (fun p q => D p.1 q.1)
        (readDraft shape put blank depth left) (readDraft shape put blank depth right) := by
    intro xs ys items first second
    cases first with
    | list inside => cases second with
      | list again =>
        rw [readDraft, readDraft]
        exact agree_entering (fun left =>
          agree_readListed (puts left) items (fun _ => id) inside again 0 start) depth _ _
  cases alike with
  | object members => exact objects members first second
  | list items => exact lists items first second
  | same => cases a with
    | object members => exact objects (membersAlike_refl reflexive members) first second
    | list items => exact lists (itemsAlike_refl reflexive shape.fields items) first second
    | _ => cases first; cases second; exact .failed

-- A record is read from alike trees with related results, if what is made of related drafts is.
theorem respects_record {put : Nat → Put σ} {S : α → α → Prop}
    {finish : σ × Spot → Except Error α} (reflexive : ∀ key a, V key a a)
    (puts : ∀ left, PutsAlike shape V D (put left)) (start : D blank blank)
    (finishes : ∀ d e stop other, D d e → Agree S (finish (d, stop)) (finish (e, other)))
    (depth : Nat) :
    Respects (RecordsAlike shape V) S fun node =>
      readDraft shape put blank depth node >>= finish := by
  intro left right a b first second alike
  exact (agree_readDraft reflexive puts start depth first second alike).bind
    fun _ _ related => finishes _ _ _ _ related

theorem blind_record {put : Nat → Put σ} {finish : σ × Spot → Except Error α}
    (puts : ∀ left, ∀ field ∈ shape.fields, ∀ draft, Blind fun node => put left field node draft)
    (finishes : ∀ draft stop other, Agree Eq (finish (draft, stop)) (finish (draft, other)))
    (blank : σ) (depth : Nat) :
    Blind fun node => readDraft shape put blank depth node >>= finish := by
  rintro left right a _ first second rfl
  refine respects_record (V := fun _ => Eq) (D := Eq) (fun _ _ => rfl) ?_ rfl ?_ depth left right a a
    first second .same
  · rintro within field inside node other tree _ draft _ whole again rfl rfl
    exact puts within field inside draft node other tree tree whole again rfl
  · rintro draft _ stop other rfl
    exact finishes draft stop other

end Records

end SchemaBindings.Json
