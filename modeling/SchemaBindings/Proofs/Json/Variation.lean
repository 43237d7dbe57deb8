import SchemaBindings.Proofs.Json.Agreement

namespace SchemaBindings.Json

-- The members of the objects in a tree stand in any order.
inductive Rearranged : {p : Part} → Tree p → Tree p → Prop where
  | same : Rearranged tree tree
  | list (items : Rearranged xs ys) : Rearranged (.list xs) (.list ys)
  | object (members : Rearranged xs ys) (order : ys.entries.Perm zs.entries) :
      Rearranged (.object xs) (.object zs)
  | item (value : Rearranged a b) (rest : Rearranged xs ys) :
      Rearranged (.item a xs) (.item b ys)
  | member (value : Rearranged a b) (rest : Rearranged xs ys) :
      Rearranged (.member key a xs) (.member key b ys)

-- The values of the keys in `known` vary as `V` says for each, those of other keys in any way.
def MemberVaried (known : List String) (V : String → Tree .value → Tree .value → Prop)
    (before after : Option String × Tree .value) : Prop :=
  before.1 = after.1 ∧ ∀ field ∈ known, before.1 = some field → V field before.2 after.2

def Foreign (known : List String) (member : Option String × Tree .value) : Prop :=
  ∃ name, member.1 = some name ∧ name ∉ known

-- Values vary, members are added whose keys are not known, and all are put in any order.
inductive MembersVaried (known : List String) (V : String → Tree .value → Tree .value → Prop) :
    Tree .members → Tree .members → Prop where
  | mk (values : List.Forall₂ (MemberVaried known V) xs.entries varied)
      (added : ∀ member ∈ more, Foreign known member)
      (order : (varied ++ more).Perm ys.entries) : MembersVaried known V xs ys

-- A record in list form has its fields in order. One that has more items is not read.
inductive ItemsVaried (V : String → Tree .value → Tree .value → Prop) :
    List String → Tree .items → Tree .items → Prop where
  | noItems : ItemsVaried V fields .noItems .noItems
  | item (value : V field a b) (rest : ItemsVaried V fields xs ys) :
      ItemsVaried V (field :: fields) (.item a xs) (.item b ys)
  | surplus : ItemsVaried V [] (.item a xs) (.item b ys)

inductive RecordVaried (shape : Shape) (V : String → Tree .value → Tree .value → Prop) :
    Tree .value → Tree .value → Prop where
  | object (members : MembersVaried shape.fields V xs ys) :
      RecordVaried shape V (.object xs) (.object ys)
  | list (items : ItemsVaried V shape.fields xs ys) : RecordVaried shape V (.list xs) (.list ys)
  | rearranged (order : Rearranged a b) : RecordVaried shape V a b

inductive ListVaried (V : Tree .value → Tree .value → Prop) :
    Tree .value → Tree .value → Prop where
  | list (items : List.Forall₂ V xs.toItems ys.toItems) : ListVaried V (.list xs) (.list ys)
  | rearranged (order : Rearranged a b) : ListVaried V a b

section Rearranging

theorem Rearranged.toItems {xs ys : Tree .items} (order : Rearranged xs ys) :
    List.Forall₂ Rearranged xs.toItems ys.toItems := by
  cases order with
  | same => exact List.forall₂_same.mpr fun _ _ => .same
  | item value rest => exact .cons value rest.toItems

theorem Rearranged.entries {xs ys : Tree .members} (order : Rearranged xs ys) :
    List.Forall₂ (fun x y => x.1 = y.1 ∧ Rearranged x.2 y.2) xs.entries ys.entries := by
  cases order with
  | same => exact List.forall₂_same.mpr fun _ _ => ⟨rfl, .same⟩
  | member value rest => exact .cons ⟨rfl, value⟩ rest.entries

theorem Rearranged.null_iff (order : Rearranged a b) : a = .null ↔ b = .null := by
  cases order with
  | same => exact Iff.rfl
  | list _ => exact ⟨nofun, nofun⟩
  | object _ _ => exact ⟨nofun, nofun⟩

theorem RecordVaried.null_iff (varied : RecordVaried shape V a b) : a = .null ↔ b = .null := by
  cases varied with
  | object _ => exact ⟨nofun, nofun⟩
  | list _ => exact ⟨nofun, nofun⟩
  | rearranged order => exact order.null_iff

theorem ListVaried.null_iff (varied : ListVaried V a b) : a = .null ↔ b = .null := by
  cases varied with
  | list _ => exact ⟨nofun, nofun⟩
  | rearranged order => exact order.null_iff

variable {V : String → Tree .value → Tree .value → Prop}
  (loose : ∀ field a b, Rearranged a b → V field a b)
include loose

theorem membersVaried_of_rearranged {xs ys zs : Tree .members} (members : Rearranged xs ys)
    (order : ys.entries.Perm zs.entries) (known : List String) :
    MembersVaried known V xs zs := by
  have values : List.Forall₂ (MemberVaried known V) xs.entries ys.entries :=
    members.entries.imp fun x y varied =>
      ⟨varied.1, fun field _ _ => loose field x.2 y.2 varied.2⟩
  have none : ∀ member ∈ ([] : List (Option String × Tree .value)), Foreign known member := nofun
  exact .mk values none (by simpa using order)

theorem itemsVaried_of_rearranged {xs ys : Tree .items} (items : Rearranged xs ys)
    (fields : List String) : ItemsVaried V fields xs ys := by
  induction fields generalizing xs ys with
  | nil => cases items with
    | same => cases xs with
      | noItems => exact .noItems
      | item _ _ => exact .surplus
    | item _ _ => exact .surplus
  | cons field fields ih => cases items with
    | same => cases xs with
      | noItems => exact .noItems
      | item value rest => exact .item (loose field _ _ .same) (ih .same)
    | item value rest => exact .item (loose field _ _ value) (ih rest)

theorem object_of_rearranged {xs : Tree .members} (known : List String)
    (order : Rearranged (.object xs) b) : ∃ ys, b = .object ys ∧ MembersVaried known V xs ys := by
  cases order with
  | same => exact ⟨_, rfl, membersVaried_of_rearranged loose .same (.refl _) known⟩
  | object members order => exact ⟨_, rfl, membersVaried_of_rearranged loose members order known⟩

theorem list_of_rearranged {xs : Tree .items} (fields : List String)
    (order : Rearranged (.list xs) b) : ∃ ys, b = .list ys ∧ ItemsVaried V fields xs ys := by
  cases order with
  | same => exact ⟨_, rfl, itemsVaried_of_rearranged loose .same fields⟩
  | list items => exact ⟨_, rfl, itemsVaried_of_rearranged loose items fields⟩

end Rearranging

-- Whatever is read from a node is read from the nodes of its variants as well.
def Keeps (V : Tree .value → Tree .value → Prop) (reader : Node .value → Except Error α) : Prop :=
  ∀ left right a b value, left.Says a → right.Says b → V a b → reader left = .ok value →
    reader right = .ok value

-- A reader that takes only trees without anything to rearrange.
theorem Blind.keeps {reader : Node .value → Except Error α} (blind : Blind reader)
    (rigid : ∀ left a b value, left.Says a → Rearranged a b → reader left = .ok value → a = b) :
    Keeps Rearranged reader := by
  intro left right a b value first second order read
  obtain rfl := rigid left a b value first order read
  obtain ⟨_, again, rfl⟩ := (blind left right a a first second rfl).done_of read
  exact again

theorem keeps_readText (depth : Nat) : Keeps Rearranged (readText depth) := by
  refine (blind_readText depth).keeps fun left a b value whole order read => ?_
  cases whole with
  | string _ => cases order; rfl
  | _ => cases read

theorem keeps_readBool (depth : Nat) : Keeps Rearranged (readBool depth) := by
  refine (blind_readBool depth).keeps fun left a b value whole order read => ?_
  cases whole with
  | bool => cases order; rfl
  | _ => cases read

theorem keeps_orNull {V : Tree .value → Tree .value → Prop} {reader : Reader α}
    (keeps : Keeps V (reader depth)) (nulls : ∀ a b, V a b → (a = .null ↔ b = .null)) :
    Keeps V (orNull reader depth) := by
  intro left right a b value first second varied read
  by_cases null : a = .null
  · obtain rfl := (nulls a b varied).mp null
    subst null
    cases first
    cases second
    exact read
  · have shown : b ≠ .null := fun same => null ((nulls a b varied).mpr same)
    rw [orNull_of_ne_null first null] at read
    rw [orNull_of_ne_null second shown]
    cases inner : reader depth left with
    | error _ =>
      rw [inner] at read
      cases read
    | ok content =>
      rw [inner] at read
      rwa [keeps left right a b content first second varied inner]

-- What is read is made something of.
theorem keeps_filled {V : Tree .value → Tree .value → Prop}
    {reader : Node .value → Except Error α} (keeps : Keeps V reader) (fill : α → β) :
    Keeps V fun node => do return fill (← reader node) := by
  intro left right a b value first second varied read
  obtain ⟨content, inner, made⟩ := parts_of_bind read
  show (reader right >>= fun content => pure (fill content)) = .ok value
  rw [keeps left right a b content first second varied inner]
  exact made

theorem entering_ok {inside : Nat → Except Error α}
    (opened : entering depth start inside = .ok value) :
    ∃ left, inside left = .ok value ∧
      ∀ (other : Spot) (again : Nat → Except Error α),
        entering depth other again = again left := by
  match depth, opened with
  | left + 2, opened => exact ⟨left + 1, opened, fun _ _ => rfl⟩

theorem keeps_mapM {V : Tree .value → Tree .value → Prop} {f : Node .value → Except Error α}
    (keeps : Keeps V f) {nodes others : List (Node .value)} {trees varied : List (Tree .value)}
    (first : List.Forall₂ Node.Says nodes trees) (second : List.Forall₂ Node.Says others varied)
    (each : List.Forall₂ V trees varied) (read : nodes.mapM f = .ok values) :
    others.mapM f = .ok values := by
  induction each generalizing nodes others values with
  | nil =>
    cases first
    cases second
    exact read
  | cons related _ ih =>
    cases first with
    | cons whole rest => cases second with
      | cons again further =>
        rw [List.mapM_cons] at read ⊢
        obtain ⟨value, one, read⟩ := parts_of_bind read
        obtain ⟨others, all, read⟩ := parts_of_bind read
        rw [keeps _ _ _ _ value whole again related one, ih rest further all]
        exact read

theorem keeps_readList {V : Tree .value → Tree .value → Prop} {reader : Reader α}
    (keeps : ∀ depth, Keeps V (reader depth)) (loose : ∀ a b, Rearranged a b → V a b)
    (depth : Nat) : Keeps (ListVaried V) (readList reader depth) := by
  intro left right a b values first second varied read
  have items : ∃ xs ys, a = .list xs ∧ b = .list ys ∧ List.Forall₂ V xs.toItems ys.toItems := by
    cases varied with
    | list items => exact ⟨_, _, rfl, rfl, items⟩
    | rearranged order =>
      cases first with
      | list _ => cases order with
        | same => exact ⟨_, _, rfl, rfl, List.forall₂_same.mpr fun _ _ => loose _ _ .same⟩
        | list items => exact ⟨_, _, rfl, rfl, items.toItems.imp loose⟩
      | _ => cases read
  obtain ⟨xs, ys, rfl, rfl, each⟩ := items
  cases first with
  | list inside => cases second with
    | list again =>
      rw [readList] at read ⊢
      obtain ⟨within, read, opened⟩ := entering_ok read
      obtain ⟨nodes, whole, all⟩ := readItems_eq_mapM inside
      obtain ⟨others, every, reread⟩ := readItems_eq_mapM again
      rw [all] at read
      rw [opened, reread]
      exact keeps_mapM (keeps within) whole every each read

section Records
variable {shape : Shape} {V : String → Tree .value → Tree .value → Prop} {put : Put σ}

-- Members that are read into a draft, from the keys that were seen before and the draft so far.
inductive Fills (shape : Shape) (put : Put σ) :
    List String → σ → List (Option String × Tree .value) → σ → Prop where
  | done : Fills shape put seen d [] d
  | known (inside : name ∈ shape.fields) (fresh : name ∉ seen) (whole : node.Says value)
      (step : put name node d = .ok e) (rest : Fills shape put (name :: seen) e members f) :
      Fills shape put seen d ((some name, value) :: members) f
  | passed (outside : name ∉ shape.fields) (rest : Fills shape put seen d members f) :
      Fills shape put seen d ((some name, value) :: members) f

-- What the two do to a draft is the same in either order.
def Swap (p q : σ → Except Error σ) : Prop :=
  ∀ d e f, p d = .ok e → q e = .ok f → ∃ g, q d = .ok g ∧ p g = .ok f

-- Any two fields may be put into a draft in either order.
def Commutes (shape : Shape) (put : Put σ) : Prop :=
  ∀ field ∈ shape.fields, ∀ other ∈ shape.fields, field ≠ other → ∀ first second,
    Swap (put field first) (put other second)

theorem fills_of_readNamed {node : Node .members} {members : Tree .members}
    (whole : node.Says members) (read : readNamed shape put seen d node = .ok (e, stop)) :
    Fills shape put seen d members.entries e := by
  cases whole with
  | membersEnd =>
    rw [readNamed] at read
    cases read
    exact .done
  | @member key name _ _ _ _ _ _ same value rest =>
    rw [readNamed] at read
    obtain ⟨text, named, read⟩ := parts_of_bind read
    rw [named] at same
    cases same
    by_cases known : text ∈ shape.fields
    · by_cases earlier : text ∈ seen
      · simp [known, earlier] at read
        cases read
      · simp only [List.contains_iff_mem, known, earlier, if_true, if_false] at read
        obtain ⟨next, step, read⟩ := parts_of_bind read
        exact .known known earlier value step (fills_of_readNamed rest read)
    · simp only [List.contains_iff_mem, known, if_false, value.passingFault] at read
      exact .passed known (fills_of_readNamed rest read)

theorem Fills.append (fills : Fills shape put seen d members e)
    (added : ∀ member ∈ more, Foreign shape.fields member) :
    Fills shape put seen d (members ++ more) e := by
  induction fills with
  | done =>
    induction more with
    | nil => exact .done
    | cons member more ih =>
      obtain ⟨key, value⟩ := member
      obtain ⟨name, rfl, outside⟩ := added _ (List.mem_cons_self ..)
      exact .passed outside (ih fun other later => added other (List.mem_cons_of_mem _ later))
  | known inside fresh whole step _ ih => exact .known inside fresh whole step ih
  | passed outside _ ih => exact .passed outside ih

-- It counts which keys were seen, and not in which order.
theorem Fills.seen_congr (fills : Fills shape put seen d members e)
    (same : ∀ name, name ∈ seen ↔ name ∈ met) : Fills shape put met d members e := by
  induction fills generalizing met with
  | done => exact .done
  | known inside fresh whole step _ ih =>
    refine .known inside (fun earlier => fresh ((same _).mpr earlier)) whole step (ih ?_)
    intro name
    rw [List.mem_cons, List.mem_cons, same]
  | passed outside _ ih => exact .passed outside (ih same)

theorem Fills.swap (commutes : Commutes shape put)
    (fills : Fills shape put seen d (one :: other :: members) e) :
    Fills shape put seen d (other :: one :: members) e := by
  cases fills with
  | known inside fresh whole step rest => cases rest with
    | known within late again next rest =>
      rw [List.mem_cons, not_or] at late
      obtain ⟨draft, before, after⟩ :=
        commutes _ inside _ within (Ne.symm late.1) _ _ _ _ _ step next
      refine .known within late.2 again before (.known inside ?_ whole after ?_)
      · rw [List.mem_cons, not_or]
        exact ⟨Ne.symm late.1, fresh⟩
      · exact rest.seen_congr fun name => by simp only [List.mem_cons, or_left_comm]
    | passed outside rest => exact .passed outside (.known inside fresh whole step rest)
  | passed outside rest => cases rest with
    | known inside fresh whole step rest =>
      exact .known inside fresh whole step (.passed outside rest)
    | passed beyond rest => exact .passed beyond (.passed outside rest)

theorem Fills.perm (commutes : Commutes shape put) (order : members.Perm others)
    (fills : Fills shape put seen d members e) : Fills shape put seen d others e := by
  induction order generalizing seen d with
  | nil => exact fills
  | cons member _ ih => cases fills with
    | known inside fresh whole step rest => exact .known inside fresh whole step (ih rest)
    | passed outside rest => exact .passed outside (ih rest)
  | swap one other members => exact fills.swap commutes
  | trans _ _ first second => exact second (first fills)

-- Values that vary are read to the same, so the draft is the same.
theorem Fills.readNamed
    (puts : ∀ field ∈ shape.fields, ∀ draft, Keeps (V field) fun node => put field node draft)
    (fills : Fills shape put seen d members e) {node : Node .members} {others : Tree .members}
    (values : List.Forall₂ (MemberVaried shape.fields V) members others.entries)
    (whole : node.Says others) :
    ∃ stop, Json.readNamed shape put seen d node = .ok (e, stop) := by
  induction fills generalizing node others with
  | done => cases whole with
    | membersEnd => exact ⟨_, by rw [Json.readNamed]⟩
    | member _ _ _ => cases values
  | known inside fresh source step _ ih => cases whole with
    | membersEnd => cases values
    | member same value rest => cases values with
      | cons varied others =>
        obtain ⟨key, vary⟩ := varied
        obtain ⟨stop, read⟩ := ih others rest
        have again : put _ _ _ = .ok _ :=
          puts _ inside _ _ _ _ _ _ source value (vary _ inside rfl) step
        refine ⟨stop, ?_⟩
        rw [Json.readNamed, eq_ok_of_toOption (same.trans key.symm)]
        simp only [bind, Except.bind, List.contains_iff_mem, inside, fresh, if_true, if_false]
        rw [again]
        exact read
  | passed outside _ ih => cases whole with
    | membersEnd => cases values
    | member same value rest => cases values with
      | cons varied others =>
        obtain ⟨stop, read⟩ := ih others rest
        refine ⟨stop, ?_⟩
        rw [Json.readNamed, eq_ok_of_toOption (same.trans varied.1.symm)]
        simp only [bind, Except.bind, List.contains_iff_mem, outside, if_false, value.passingFault]
        exact read

theorem extend_varied {xs varied more ys : List (Option String × Tree .value)}
    (values : List.Forall₂ (MemberVaried known V) xs varied)
    (added : ∀ member ∈ more, Foreign known member) (order : (varied ++ more).Perm ys) :
    ∃ zs, (xs ++ more).Perm zs ∧ List.Forall₂ (MemberVaried known V) zs ys := by
  have unchanged : List.Forall₂ (MemberVaried known V) more more := by
    refine List.forall₂_same.mpr fun member inside => ⟨rfl, fun field within key => ?_⟩
    obtain ⟨name, same, outside⟩ := added member inside
    rw [key] at same
    cases same
    exact (outside within).elim
  have both : Relation.Comp (List.Forall₂ (MemberVaried known V)) List.Perm (xs ++ more) ys :=
    ⟨varied ++ more, List.rel_append values unchanged, order⟩
  rw [List.forall₂_comp_perm_eq_perm_comp_forall₂] at both
  exact both

theorem readListed_varied
    (puts : ∀ field ∈ shape.fields, ∀ draft, Keeps (V field) fun node => put field node draft)
    (varied : ItemsVaried V fields xs ys) (inside : ∀ field ∈ fields, field ∈ shape.fields)
    {left right : Node .items} (first : left.Says xs) (second : right.Says ys)
    (read : readListed shape put index d fields left = .ok (e, stop)) :
    ∃ stop, readListed shape put index d fields right = .ok (e, stop) := by
  induction varied generalizing left right index d with
  | @noItems fields =>
    cases first with
    | @itemsEnd here => cases second with
      | @itemsEnd other =>
        have both : Agree (fun p q : σ × Spot => p.1 = q.1)
            (readListed shape put index d fields (.itemsEnd here))
            (readListed shape put index d fields (.itemsEnd other)) :=
          agree_readListed_end put fields index here other rfl
        obtain ⟨⟨_, last⟩, again, rfl⟩ := both.done_of read
        exact ⟨last, again⟩
  | @item field a b fields xs ys value _ ih => cases first with
    | item whole rest => cases second with
      | item again others =>
        rw [readListed] at read ⊢
        obtain ⟨next, step, read⟩ := parts_of_bind read
        have fine : put field _ d = .ok next :=
          puts field (inside field (List.mem_cons_self ..)) d _ _ _ _ next whole again value step
        obtain ⟨last, read⟩ :=
          ih (fun name later => inside name (List.mem_cons_of_mem _ later)) rest others read
        refine ⟨last, ?_⟩
        rw [fine]
        exact read
  | surplus => cases first with
    | item _ _ =>
      rw [readListed] at read
      · cases read
      · intro _ same
        cases same

section Drafts
variable {put : Nat → Put σ} {left right : Node .value}

theorem readDraft_membersVaried
    (puts : ∀ left, ∀ field ∈ shape.fields, ∀ draft,
      Keeps (V field) fun node => put left field node draft)
    (commutes : ∀ left, Commutes shape (put left)) (varied : MembersVaried shape.fields V xs ys)
    (first : left.Says (.object xs)) (second : right.Says (.object ys))
    (read : readDraft shape put blank depth left = .ok (e, stop)) :
    ∃ stop, readDraft shape put blank depth right = .ok (e, stop) := by
  obtain ⟨values, added, order⟩ := varied
  cases first with
  | object inside => cases second with
    | object again =>
      rw [readDraft] at read ⊢
      obtain ⟨within, read, opened⟩ := entering_ok read
      rw [opened]
      -- The members of `xs` and the foreign ones, put in the order of `ys`.
      obtain ⟨zs, moved, each⟩ := extend_varied values added order
      have fills := ((fills_of_readNamed inside read).append added).perm (commutes within) moved
      exact fills.readNamed (puts within) each again

theorem readDraft_itemsVaried
    (puts : ∀ left, ∀ field ∈ shape.fields, ∀ draft,
      Keeps (V field) fun node => put left field node draft)
    (varied : ItemsVaried V shape.fields xs ys)
    (first : left.Says (.list xs)) (second : right.Says (.list ys))
    (read : readDraft shape put blank depth left = .ok (e, stop)) :
    ∃ stop, readDraft shape put blank depth right = .ok (e, stop) := by
  cases first with
  | list inside => cases second with
    | list again =>
      rw [readDraft] at read ⊢
      obtain ⟨within, read, opened⟩ := entering_ok read
      rw [opened]
      exact readListed_varied (puts within) varied (fun _ => id) inside again read

theorem readDraft_varied (loose : ∀ field a b, Rearranged a b → V field a b)
    (puts : ∀ left, ∀ field ∈ shape.fields, ∀ draft,
      Keeps (V field) fun node => put left field node draft)
    (commutes : ∀ left, Commutes shape (put left))
    (first : left.Says a) (second : right.Says b) (varied : RecordVaried shape V a b)
    (read : readDraft shape put blank depth left = .ok (e, stop)) :
    ∃ stop, readDraft shape put blank depth right = .ok (e, stop) := by
  cases varied with
  | object members => exact readDraft_membersVaried puts commutes members first second read
  | list items => exact readDraft_itemsVaried puts items first second read
  | rearranged order => cases first with
    | object inside =>
      obtain ⟨ys, rfl, members⟩ := object_of_rearranged loose shape.fields order
      exact readDraft_membersVaried puts commutes members (.object inside) second read
    | list inside =>
      obtain ⟨ys, rfl, items⟩ := list_of_rearranged loose shape.fields order
      exact readDraft_itemsVaried puts items (.list inside) second read
    | _ => cases read

end Drafts

-- What a field is read with, and what is made of it in the draft.
structure Filling (σ : Type) where
  {content : Type}
  read : Node .value → Except Error content
  fill : σ → content → σ

namespace Filling

def into (filling : Filling σ) (node : Node .value) (draft : σ) : Except Error σ := do
  return filling.fill draft (← filling.read node)

-- Each fills in its own part of the draft.
def Apart (filling other : Filling σ) : Prop :=
  ∀ draft one two,
    other.fill (filling.fill draft one) two = filling.fill (other.fill draft two) one

theorem Apart.swap {filling other : Filling σ} (apart : filling.Apart other)
    (first second : Node .value) : Swap (filling.into first) (other.into second) := by
  intro d e f step next
  rw [into] at step next
  obtain ⟨one, read, made⟩ := parts_of_bind step
  obtain ⟨two, reread, added⟩ := parts_of_bind next
  cases made
  cases added
  refine ⟨other.fill d two, ?_, ?_⟩
  · rw [into, reread]
    rfl
  · rw [into, read, apart]
    rfl

end Filling

-- The fields of a record, one by one: what is read of each varies as little as its value may, and
-- no two are filled into the same part of the draft.
inductive Slots (V : String → Tree .value → Tree .value → Prop) (put : Put σ) :
    List String → List (Filling σ) → Prop where
  | nil : Slots V put [] []
  | cons (filling : Filling σ) (same : ∀ node draft, put field node draft = filling.into node draft)
      (keeps : Keeps (V field) filling.read)
      (apart : ∀ other ∈ others, filling.Apart other) (rest : Slots V put fields others) :
      Slots V put (field :: fields) (filling :: others)

namespace Slots
variable {fillings : List (Filling σ)}

theorem of_mem (slots : Slots V put fields fillings) (inside : field ∈ fields) :
    ∃ filling ∈ fillings, (∀ node draft, put field node draft = filling.into node draft) ∧
      Keeps (V field) filling.read := by
  induction slots with
  | nil => cases inside
  | cons filling same keeps _ _ ih =>
    rcases List.mem_cons.mp inside with rfl | inside
    · exact ⟨filling, List.mem_cons_self .., same, keeps⟩
    · obtain ⟨other, among, found⟩ := ih inside
      exact ⟨other, List.mem_cons_of_mem _ among, found⟩

theorem puts (slots : Slots V put fields fillings) :
    ∀ field ∈ fields, ∀ draft, Keeps (V field) fun node => put field node draft := by
  intro field inside draft
  obtain ⟨filling, _, same, keeps⟩ := slots.of_mem inside
  simp only [same]
  exact keeps_filled keeps (filling.fill draft)

theorem swap (slots : Slots V put fields fillings) :
    ∀ field ∈ fields, ∀ other ∈ fields, field ≠ other → ∀ first second,
      Swap (put field first) (put other second) := by
  induction slots with
  | nil => exact nofun
  | cons filling same _ apart rest ih =>
    intro field inside other within differ first second
    rcases List.mem_cons.mp inside with rfl | behind <;>
      rcases List.mem_cons.mp within with rfl | later
    · exact (differ rfl).elim
    · obtain ⟨next, among, found, _⟩ := rest.of_mem later
      rw [funext (same first), funext (found second)]
      exact (apart next among).swap first second
    · obtain ⟨next, among, found, _⟩ := rest.of_mem behind
      rw [funext (same second), funext (found first)]
      have reversed : next.Apart filling := fun draft one two => (apart next among draft two one).symm
      exact reversed.swap first second
    · exact ih field behind other later differ first second

end Slots

theorem keeps_record {put : Nat → Put σ} {finish : σ × Spot → Except Error α}
    (loose : ∀ field a b, Rearranged a b → V field a b)
    (slots : ∀ left, ∃ fillings, Slots V (put left) shape.fields fillings)
    (finishes : ∀ draft stop other, Agree Eq (finish (draft, stop)) (finish (draft, other)))
    (blank : σ) (depth : Nat) :
    Keeps (RecordVaried shape V) fun node => readDraft shape put blank depth node >>= finish := by
  intro left right a b value first second varied read
  obtain ⟨⟨draft, stop⟩, read, finished⟩ := parts_of_bind read
  have puts (left : Nat) := (slots left).elim fun _ => Slots.puts
  have commutes (left : Nat) := (slots left).elim fun _ => Slots.swap
  obtain ⟨last, reread⟩ := readDraft_varied loose puts commutes first second varied read
  obtain ⟨_, again, rfl⟩ := (finishes draft stop last).done_of finished
  show (readDraft shape put blank depth right >>= finish) = .ok value
  rw [reread]
  exact again

end Records

end SchemaBindings.Json
