import SchemaBindings.Proofs.Introspection.Resolution
import SchemaBindings.Proofs.Json.Agreement

namespace SchemaBindings.Introspection.Wire

open Json (Tree Blind Respects)

theorem agree_need (field : String) (stop other : Json.Spot) (value : Option α) :
    Agree Eq (Json.need field stop value) (Json.need field other value) := by
  cases value with
  | none => exact .failed
  | some _ => exact .done rfl

theorem blind_readKind (depth : Nat) : Blind (readKind depth) := by
  rintro left right a _ first second rfl
  cases first with
  | string same => cases second with
    | string again =>
      rw [readKind, readKind]
      exact (Agree.of_toOption (same.trans again.symm)).map fun _ _ same => same ▸ rfl
  | object inside => cases second with
    | object other =>
      rw [readKind, readKind]
      refine Json.agree_entering (fun left => ?_) depth _ _
      cases inside with
      | membersEnd => cases other; exact .failed
      | member same value rest => cases other with
        | member again also others =>
          refine (Agree.of_toOption (same.trans again.symm)).bind ?_
          rintro name _ rfl
          refine (Json.blind_readUnit left _ _ _ _ value also rfl).bind fun _ _ _ => ?_
          cases rest with
          | membersEnd => cases others; exact .done rfl
          | member _ _ _ => cases others; exact .failed
  | _ => cases second; exact .failed

theorem blind_orNull {reader : Json.Reader α} (blind : Blind (reader depth)) :
    Blind (Json.orNull reader depth) := by
  intro left right a b first second same
  have both := Json.respects_orNull blind (fun _ _ same => by rw [same]) left right a b first second
    same
  exact both.mono fun _ _ same => by cases same with
    | none => rfl
    | some same => rw [same]

-- What was read is put into a draft.
theorem blind_filled {reader : Json.Node .value → Except Json.Error α} (blind : Blind reader)
    (fill : α → β) : Blind fun node => do return fill (← reader node) := by
  intro left right a b first second same
  exact (blind left right a b first second same).bind fun _ _ same => .done (congrArg fill same)

theorem blind_readReference (depth : Nat) : Blind (readReference depth) := by
  induction depth with
  | zero =>
    intro left right a b _ _ _
    exact .failed
  | succ depth ih =>
    show Blind fun node => readReference (depth + 1) node
    simp only [readReference]
    refine Json.blind_record ?_ ?_ _ (depth + 1)
    · intro left field inside draft
      simp only [referenceShape, List.mem_cons, List.not_mem_nil, or_false] at inside
      rcases inside with rfl | rfl | rfl
      · exact blind_filled (blind_readKind left) _
      · exact blind_filled (blind_orNull (Json.blind_readText left)) _
      · have inner : Blind (Json.orNull (fun _ node => readReference depth node) left) :=
          blind_orNull ih
        exact blind_filled inner _
    · intro draft stop other
      refine (agree_need "kind" stop other draft.kind).bind ?_
      rintro kind _ rfl
      cases draft.inner <;> exact .done rfl

theorem blind_readField (depth : Nat) : Blind (readField depth) := by
  show Blind fun node => readField depth node
  unfold readField
  refine Json.blind_record ?_ ?_ _ depth
  · intro left field inside draft
    simp only [fieldShape, List.mem_cons, List.not_mem_nil, or_false] at inside
    rcases inside with rfl | rfl | rfl
    · exact blind_filled (Json.blind_readText left) _
    · exact blind_filled (blind_orNull (Json.blind_readText left)) _
    · exact blind_filled (blind_readReference left) _
  · intro draft stop other
    refine (agree_need "name" stop other draft.name).bind ?_
    rintro name _ rfl
    refine (agree_need "type" stop other draft.type).bind ?_
    rintro type _ rfl
    exact .done rfl

theorem blind_readValue (depth : Nat) : Blind (readValue depth) := by
  unfold readValue
  refine Json.blind_record ?_ ?_ _ depth
  · intro left field inside draft
    simp only [valueShape, List.mem_cons, List.not_mem_nil, or_false] at inside
    rcases inside with rfl | rfl | rfl
    · exact blind_filled (Json.blind_readText left) _
    · exact blind_filled (blind_orNull (Json.blind_readText left)) _
    · exact blind_filled (Json.blind_readBool left) _
  · intro draft stop other
    refine (agree_need "name" stop other draft.name).bind ?_
    rintro name _ rfl
    exact .done rfl

theorem blind_orEmpty {reader : Json.Reader α} (blind : ∀ depth, Blind (reader depth))
    (depth : Nat) : Blind (orEmpty reader depth) :=
  blind_filled (blind_orNull (Json.blind_readList blind depth)) _

theorem blind_readType (depth : Nat) : Blind (readType depth) := by
  show Blind fun node => readType depth node
  unfold readType
  refine Json.blind_record ?_ ?_ _ depth
  · intro left field inside draft
    simp only [typeShape, List.mem_cons, List.not_mem_nil, or_false] at inside
    rcases inside with rfl | rfl | rfl | rfl | rfl | rfl
    · exact blind_filled (blind_readKind left) _
    · exact blind_filled (Json.blind_readText left) _
    · exact blind_filled (blind_orNull (Json.blind_readText left)) _
    · exact blind_filled (blind_orEmpty blind_readField left) _
    · exact blind_filled (blind_orEmpty blind_readField left) _
    · exact blind_filled (blind_orEmpty blind_readValue left) _
  · intro draft stop other
    refine (agree_need "kind" stop other draft.kind).bind ?_
    rintro kind _ rfl
    refine (agree_need "name" stop other draft.name).bind ?_
    rintro name _ rfl
    exact .done rfl

theorem blind_readRootOrNull (depth : Nat) : Blind (readRootOrNull depth) := by
  have root : Blind (readRoot depth) := by
    unfold readRoot
    refine Json.blind_record ?_ ?_ _ depth
    · intro left field _ draft
      exact blind_orNull (Json.blind_readText left)
    · intro draft stop other
      exact .done rfl
  exact blind_filled (blind_orNull root) _

theorem blind_readError (depth : Nat) : Blind (readError depth) := by
  unfold readError
  refine Json.blind_record ?_ ?_ _ depth
  · intro left field _ draft
    exact blind_filled (Json.blind_readText left) _
  · exact fun draft stop other => agree_need "message" stop other draft

-- Only the list of types may differ, and only in its order.
def TypesMoved (key : Option String) (a b : Tree .value) : Prop :=
  a = b ∨ key = some "types" ∧ Json.Shuffled a b

def SchemasAlike (a b : Tree .value) : Prop := Json.RecordsAlike schemaShape TypesMoved a b

def SchemaMoved (key : Option String) (a b : Tree .value) : Prop :=
  a = b ∨ key = some "__schema" ∧ SchemasAlike a b

def DataAlike (a b : Tree .value) : Prop := Json.RecordsAlike dataShape SchemaMoved a b

def DocumentMoved (key : Option String) (a b : Tree .value) : Prop :=
  SchemaMoved key a b ∨ key = some "data" ∧ DataAlike a b

-- Two documents that differ only in the order of their types.
def DocumentsAlike (a b : Tree .value) : Prop := Json.RecordsAlike documentShape DocumentMoved a b

theorem null_of_alike {V : Option String → Tree .value → Tree .value → Prop} {shape : Json.Shape}
    (a b : Tree .value) (alike : Json.RecordsAlike shape V a b) : a = .null ↔ b = .null := by
  cases alike with
  | object _ => exact ⟨nofun, nofun⟩
  | list _ => exact ⟨nofun, nofun⟩
  | same => exact Iff.rfl

structure Schema.Reordered (schema other : Schema) : Prop where
  queryType : schema.queryType = other.queryType
  mutationType : schema.mutationType = other.mutationType
  subscriptionType : schema.subscriptionType = other.subscriptionType
  types : schema.types.Perm other.types

structure SchemaDraft.Reordered (draft other : SchemaDraft) : Prop where
  queryType : draft.queryType = other.queryType
  mutationType : draft.mutationType = other.mutationType
  subscriptionType : draft.subscriptionType = other.subscriptionType
  types : Option.Rel List.Perm draft.types other.types

theorem putsAlike_schema (left : Nat) :
    Json.PutsAlike schemaShape TypesMoved SchemaDraft.Reordered fun field node draft =>
      if field == "queryType" then do return { draft with queryType := ← readRootOrNull left node }
      else if field == "mutationType" then do
        return { draft with mutationType := ← readRootOrNull left node }
      else if field == "subscriptionType" then do
        return { draft with subscriptionType := ← readRootOrNull left node }
      else do return { draft with types := some (← Json.readList readType left node) } := by
  intro field inside node other a b draft another first second moved drafts
  simp only [schemaShape, List.mem_cons, List.not_mem_nil, or_false] at inside
  have root : field ≠ "types" → Agree Eq (readRootOrNull left node) (readRootOrNull left other) := by
    intro apart
    rcases moved with same | ⟨types, _⟩
    · exact blind_readRootOrNull left node other a b first second same
    · exact (apart (Option.some.inj types)).elim
  rcases inside with rfl | rfl | rfl | rfl
  · exact (root (by decide)).bind fun _ _ same => .done { drafts with queryType := same }
  · exact (root (by decide)).bind fun _ _ same => .done { drafts with mutationType := same }
  · exact (root (by decide)).bind fun _ _ same => .done { drafts with subscriptionType := same }
  · have types : Agree List.Perm (Json.readList readType left node)
        (Json.readList readType left other) := by
      rcases moved with same | ⟨_, shuffled⟩
      · exact (Json.blind_readList blind_readType left node other a b first second same).mono
          fun _ _ same => same ▸ .refl _
      · exact Json.respects_readList_shuffled blind_readType left node other a b first second
          shuffled
    exact types.bind fun _ _ perm => .done { drafts with types := .some perm }

theorem respects_readSchema (depth : Nat) :
    Respects SchemasAlike Schema.Reordered (readSchema depth) := by
  show Respects SchemasAlike Schema.Reordered fun node => readSchema depth node
  unfold readSchema
  refine Json.respects_record (D := SchemaDraft.Reordered) (fun _ _ => .inl rfl) putsAlike_schema
    ⟨rfl, rfl, rfl, .none⟩ ?_ depth
  intro draft another stop other drafts
  obtain ⟨query, mutation, subscription, types⟩ := drafts
  cases draft
  cases another
  cases types with
  | none => exact .failed
  | some perm => exact .done ⟨query, mutation, subscription, perm⟩

theorem respects_schemaOrNull (depth : Nat) :
    Respects SchemasAlike (Option.Rel Schema.Reordered) (Json.orNull readSchema depth) :=
  Json.respects_orNull (respects_readSchema depth) null_of_alike

theorem schemasAlike_of_moved (moved : SchemaMoved key a b) : SchemasAlike a b := by
  rcases moved with rfl | ⟨_, alike⟩
  · exact .same
  · exact alike

theorem respects_readData (depth : Nat) :
    Respects DataAlike (Option.Rel Schema.Reordered) (readData depth) := by
  unfold readData
  refine Json.respects_record (D := Option.Rel Schema.Reordered) (fun _ _ => .inl rfl) ?_ .none ?_
    depth
  · intro left field _ node other a b _ _ first second moved _
    exact respects_schemaOrNull left node other a b first second (schemasAlike_of_moved moved)
  · exact fun _ _ _ _ drafts => .done drafts

structure Document.Reordered (document other : Document) : Prop where
  underData : Option.Rel Schema.Reordered document.underData other.underData
  errors : document.errors = other.errors
  beside : Option.Rel Schema.Reordered document.beside other.beside

structure DocumentDraft.Reordered (draft other : DocumentDraft) : Prop where
  underData : Option.Rel Schema.Reordered draft.underData other.underData
  errors : draft.errors = other.errors
  beside : Option.Rel Schema.Reordered draft.beside other.beside

theorem rel_join {R : α → α → Prop} {a b : Option (Option α)}
    (related : Option.Rel (Option.Rel R) a b) : Option.Rel R a.join b.join := by
  cases related with
  | none => exact .none
  | some inner => exact inner

theorem putsAlike_document (left : Nat) :
    Json.PutsAlike documentShape DocumentMoved DocumentDraft.Reordered fun field node draft =>
      if field == "data" then do
        return { draft with underData := (← Json.orNull readData left node).join }
      else if field == "errors" then do
        return { draft with errors := ← Json.readList readError left node }
      else do return { draft with beside := ← Json.orNull readSchema left node } := by
  intro field inside node other a b draft another first second moved drafts
  simp only [documentShape, List.mem_cons, List.not_mem_nil, or_false] at inside
  rcases inside with rfl | rfl | rfl
  · have alike : DataAlike a b := by
      rcases moved with (rfl | ⟨schema, _⟩) | ⟨_, alike⟩
      · exact .same
      · exact absurd (Option.some.inj schema) (by decide)
      · exact alike
    have data := Json.respects_orNull (respects_readData left) null_of_alike
    exact (data node other a b first second alike).bind
      fun _ _ related => .done { drafts with underData := rel_join related }
  · have same : a = b := by
      rcases moved with (same | ⟨schema, _⟩) | ⟨data, _⟩
      · exact same
      · exact absurd (Option.some.inj schema) (by decide)
      · exact absurd (Option.some.inj data) (by decide)
    exact (Json.blind_readList blind_readError left node other a b first second same).bind
      fun _ _ same => .done { drafts with errors := same }
  · have alike : SchemasAlike a b := by
      rcases moved with moved | ⟨data, _⟩
      · exact schemasAlike_of_moved moved
      · exact absurd (Option.some.inj data) (by decide)
    exact (respects_schemaOrNull left node other a b first second alike).bind
      fun _ _ related => .done { drafts with beside := related }

theorem respects_readDocument (depth : Nat) :
    Respects DocumentsAlike Document.Reordered (readDocument depth) := by
  show Respects DocumentsAlike Document.Reordered fun node => readDocument depth node
  unfold readDocument
  refine Json.respects_record (D := DocumentDraft.Reordered) (fun _ _ => .inl (.inl rfl))
    putsAlike_document ⟨.none, rfl, .none⟩ ?_ depth
  rintro draft another stop other ⟨underData, errors, beside⟩
  exact .done ⟨underData, errors, beside⟩

theorem agree_ofText (first : Json.Spelled text a) (second : Json.Spelled other b)
    (alike : DocumentsAlike a b) :
    Agree Document.Reordered (Document.ofText text) (Document.ofText other) := by
  obtain ⟨whole, nothing⟩ := first.scan_root
  obtain ⟨again, none⟩ := second.scan_root
  rw [Document.ofText, Document.ofText, Json.Document.read, Json.Document.read, nothing, none]
  exact (respects_readDocument depthLimit _ _ a b whole again alike).bind
    fun _ _ related => .done related

-- What an entry means is fixed, so moved entries have moved types.
theorem perm_of_means {entries others : List TypeEntry} {types moved : List TypeDescriptor}
    (perm : entries.Perm others) (first : List.Forall₂ TypeEntry.Means entries types)
    (second : List.Forall₂ TypeEntry.Means others moved) : types.Perm moved := by
  have unique : Relator.RightUnique TypeEntry.Means := by
    intro entry type other means again
    have resolved := means.resolve
    rw [again.resolve] at resolved
    cases resolved
    rfl
  exact List.rel_perm_imp unique first second perm

theorem Sound.of_perm (sound : Sound entries) (perm : entries.Perm others) : Sound others where
  distinct := (perm.map _).nodup_iff.mp sound.distinct
  wellFormed entry inside := sound.wellFormed entry (perm.mem_iff.mpr inside)

-- Two schemas with the same types in another order, each type under its own name.
structure SameTypes (schema other : SchemaBindings.Schema) : Prop where
  types : schema.types.toList.Perm other.types.toList
  distinct : (schema.types.toList.map (·.name)).Nodup

theorem agree_resolve {schema other : Schema} (reordered : schema.Reordered other) :
    Agree SameTypes schema.resolve other.resolve := by
  rcases sound_or_firstFault schema.types with sound | ⟨_, fault⟩
  · obtain ⟨_, ⟨types, means, rfl⟩, resolved⟩ := Schema.resolve_of_sound sound
    obtain ⟨_, ⟨moved, again, rfl⟩, reresolved⟩ :=
      Schema.resolve_of_sound (sound.of_perm reordered.types)
    rw [resolved, reresolved]
    refine .done ⟨?_, ?_⟩
    · rw [SchemaBindings.Schema.types_assemble, SchemaBindings.Schema.types_assemble]
      exact perm_of_means reordered.types means again
    · rw [SchemaBindings.Schema.types_assemble, names_of_means means]
      exact sound.distinct
  · rcases sound_or_firstFault other.types with sound | ⟨_, again⟩
    · have earlier := Schema.resolve_ok_exact.mpr (sound.of_perm reordered.types.symm)
      obtain ⟨_, resolved⟩ := earlier
      rw [Schema.resolve_of_firstFault fault] at resolved
      cases resolved
    · rw [Schema.resolve_of_firstFault fault, Schema.resolve_of_firstFault again]
      exact .failed

theorem Document.Reordered.schema? {document other : Document}
    (reordered : document.Reordered other) :
    Option.Rel Schema.Reordered document.schema? other.schema? := by
  obtain ⟨underData, _, beside⟩ := reordered
  cases document
  cases other
  cases underData with
  | some related => exact .some related
  | none => exact beside

theorem agree_resolveDocument {document other : Document} (reordered : document.Reordered other) :
    Agree SameTypes document.resolve other.resolve := by
  have schemas := reordered.schema?
  rw [Document.resolve, Document.resolve, reordered.errors]
  generalize document.schema? = chosen at schemas ⊢
  generalize other.schema? = moved at schemas ⊢
  cases schemas with
  | some related => exact agree_resolve related
  | none =>
    simp only
    split <;> exact .failed

end Wire

theorem agree_parse (first : Json.Spelled text a) (second : Json.Spelled other b)
    (alike : Wire.DocumentsAlike a b) : Agree Wire.SameTypes (parse text) (parse other) :=
  (Wire.agree_ofText first second alike).mapError.bind fun _ _ => Wire.agree_resolveDocument

end SchemaBindings.Introspection
