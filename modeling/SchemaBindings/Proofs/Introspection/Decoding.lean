import SchemaBindings.Proofs.Introspection.Writing

namespace SchemaBindings.Introspection.Wire

open Json (Reads Yields Tree filled filled_cons_of_ne filled_of_gives filled_of_mayGive
  filled_of_mayList)

def ofTypeRef : TypeRef → Reference
  | .list inner => .over .list none (ofTypeRef inner)
  | .nonNull inner => .over .nonNull none (ofTypeRef inner)
  | .named kind name => .bare kind (some name)

def ofField (field : SchemaBindings.Field) : Field :=
  { name := field.name, description := field.description, type := ofTypeRef field.type }

def ofDescriptor (type : TypeDescriptor) : TypeEntry :=
  { kind := type.kind, name := type.name, description := type.description
    fields := type.fields.map ofField, inputFields := type.inputFields.map ofField
    enumValues := type.enumValues }

def ofSchema (schema : SchemaBindings.Schema) : Schema :=
  { queryType := schema.queryType, mutationType := schema.mutationType
    subscriptionType := schema.subscriptionType
    types := schema.types.toList.map ofDescriptor }

theorem ofSchema_assemble (query mutation subscription : Option String)
    (types : List TypeDescriptor) :
    ofSchema (.assemble query mutation subscription types) =
      { queryType := query, mutationType := mutation, subscriptionType := subscription
        types := types.map ofDescriptor } := by
  obtain ⟨first, second, third⟩ := Schema.roots_foldl_add types
    { queryType := query, mutationType := mutation, subscriptionType := subscription }
  rw [ofSchema, Schema.types_assemble, Schema.assemble, first, second, third]

theorem yields_kind (kind : Kind) : Yields readKind kind (.text kind.wireName) := by
  refine ⟨nofun, fun _ node whole => ?_⟩
  cases whole with
  | string same =>
    cases Json.eq_ok_of_toOption same
    rw [readKind, Except.map, Kind.ofWireName_wireName]

theorem yields_isText (written : IsText s tree) : Yields Json.readText s tree :=
  written ▸ Json.yields_text s

theorem yields_isKind (written : IsText kind.wireName tree) : Yields readKind kind tree :=
  written ▸ yields_kind kind

theorem reads_textOrNull {members : Tree .members} (given : members.MayGive key IsText s)
    (found : members.find? key = some tree) (fits : tree.nesting < depth) :
    Reads (Json.orNull Json.readText) depth tree s := by
  have read := given.reads found fits (fun _ => yields_isText)
  rwa [Option.map_id'] at read

theorem reads_orEmpty {members : Tree .members} {f : α → β}
    (given : members.MayList key writes values) (found : members.find? key = some tree)
    (fits : tree.nesting < depth) (yields : ∀ a tree, writes a tree → Yields reader (f a) tree) :
    Reads (orEmpty reader) depth tree (values.map f) := by
  intro node whole
  rcases given with listed | ⟨rfl, absent | null⟩
  · have read := ((listed.of_find? found).yields yields).orNull fits node whole
    rw [orEmpty, read]
    rfl
  · rw [found] at absent; cases absent
  · rw [found] at null
    cases null
    rw [orEmpty, Json.reads_null _ _ node whole]
    rfl

-- Whether there is a reference under the node or not, the members give the parts of the node.
theorem reads_reference {members : Tree .members} (kind : Kind) (name : Option String)
    (under : Option Reference) (record : Json.Record referenceShape members)
    (kinded : members.Gives "kind" (IsText kind.wireName)) (named : members.MayGive "name" IsText name)
    (below : members.MayGive "ofType" (Yields readReference) under)
    (fits : (Tree.object members).nesting < depth) :
    Reads readReference depth (.object members) (match under with
      | some inner => .over kind name inner
      | none => .bare kind name) := by
  intro node whole
  match depth, fits with
  | depth + 1, fits =>
    unfold readReference
    refine Json.readDraft_bind (fun seen =>
      { kind := filled seen "kind" (some kind) none
        name := filled seen "name" name none
        inner := filled seen "ofType" under none }) rfl record fits whole ?_ ?_
    · intro key inside value found shallow seen node whole
      simp only [referenceShape, List.mem_cons, List.not_mem_nil, or_false] at inside
      rcases inside with rfl | rfl | rfl
      · have read := (yields_isKind (kinded.of_find? found)).reads shallow node whole
        rw [Nat.add_sub_cancel] at read
        exact Json.fill_ok read (by simp [filled_cons_of_ne])
      · have read := reads_textOrNull named found shallow node whole
        rw [Nat.add_sub_cancel] at read
        exact Json.fill_ok read (by simp [filled_cons_of_ne])
      · have read := below.reads found shallow (fun _ yields => yields) node whole
        rw [Nat.add_sub_cancel, Option.map_id'] at read
        simp [Json.orNull_at, read, bind, Except.bind, pure, Except.pure, filled_cons_of_ne]
    · intro all stop keys
      simp only [filled_of_gives (keys "kind" (by simp [referenceShape])) kinded,
        filled_of_mayGive (keys "name" (by simp [referenceShape])) named,
        filled_of_mayGive (keys "ofType" (by simp [referenceShape])) below]
      cases under <;> rfl

theorem yields_reference (written : TypeRef.WrittenAs type tree) :
    Yields readReference (ofTypeRef type) tree := by
  induction written with
  | @named members name kind record kinded called bare =>
    exact ⟨nofun, reads_reference kind (some name) none record kinded called bare⟩
  | list record kinded unnamed below inside ih =>
    obtain ⟨tree, found, rfl⟩ := below
    exact ⟨nofun, reads_reference .list none (some _) record kinded unnamed ⟨_, found, ih⟩⟩
  | nonNull record kinded unnamed below inside ih =>
    obtain ⟨tree, found, rfl⟩ := below
    exact ⟨nofun, reads_reference .nonNull none (some _) record kinded unnamed ⟨_, found, ih⟩⟩

theorem yields_field (written : field.WrittenAs tree) :
    Yields readField (ofField field) tree := by
  obtain ⟨members, rfl, record, name, description, type⟩ := written
  refine ⟨nofun, fun fits node whole => ?_⟩
  unfold readField
  refine Json.readDraft_bind (fun seen =>
    { name := filled seen "name" (some field.name) none
      description := filled seen "description" field.description none
      type := filled seen "type" (some (ofTypeRef field.type)) none }) rfl record fits whole ?_ ?_
  · intro key inside value found shallow seen node whole
    simp only [fieldShape, List.mem_cons, List.not_mem_nil, or_false] at inside
    rcases inside with rfl | rfl | rfl
    · have read := (yields_isText (name.of_find? found)).reads shallow node whole
      exact Json.fill_ok read (by simp [filled_cons_of_ne])
    · have read := reads_textOrNull description found shallow node whole
      exact Json.fill_ok read (by simp [filled_cons_of_ne])
    · have read := (yields_reference (type.of_find? found)).reads shallow node whole
      exact Json.fill_ok read (by simp [filled_cons_of_ne])
  · intro all stop keys
    simp only [filled_of_gives (keys "name" (by simp [fieldShape])) name,
      filled_of_mayGive (keys "description" (by simp [fieldShape])) description,
      filled_of_gives (keys "type" (by simp [fieldShape])) type]
    rfl

theorem yields_value {value : EnumValue} (written : value.WrittenAs tree) :
    Yields readValue value tree := by
  obtain ⟨members, rfl, record, name, description, isDeprecated⟩ := written
  refine ⟨nofun, fun fits node whole => ?_⟩
  unfold readValue
  refine Json.readDraft_bind (fun seen =>
    { name := filled seen "name" (some value.name) none
      description := filled seen "description" value.description none
      isDeprecated := filled seen "isDeprecated" value.isDeprecated false }) rfl
    record fits whole ?_ ?_
  · intro key inside tree found shallow seen node whole
    simp only [valueShape, List.mem_cons, List.not_mem_nil, or_false] at inside
    rcases inside with rfl | rfl | rfl
    · have read := (yields_isText (name.of_find? found)).reads shallow node whole
      exact Json.fill_ok read (by simp [filled_cons_of_ne])
    · have read := reads_textOrNull description found shallow node whole
      exact Json.fill_ok read (by simp [filled_cons_of_ne])
    · have given : tree = .bool value.isDeprecated := by
        rcases isDeprecated with given | ⟨_, absent⟩
        · exact given.of_find? found
        · rw [found] at absent; cases absent
      subst given
      have read := (Json.yields_bool value.isDeprecated).reads shallow node whole
      exact Json.fill_ok read (by simp [filled_cons_of_ne])
  · intro all stop keys
    have flag : filled all "isDeprecated" value.isDeprecated false = value.isDeprecated := by
      rcases isDeprecated with given | ⟨unset, _⟩
      · exact filled_of_gives (keys "isDeprecated" (by simp [valueShape])) given _ _
      · rw [unset]
        exact ite_self false
    simp only [filled_of_gives (keys "name" (by simp [valueShape])) name,
      filled_of_mayGive (keys "description" (by simp [valueShape])) description, flag]
    rfl

theorem yields_type {type : TypeDescriptor} (written : type.WrittenAs tree) :
    Yields readType (ofDescriptor type) tree := by
  obtain ⟨members, rfl, record, kind, name, description, fields, inputFields, values⟩ := written
  refine ⟨nofun, fun fits node whole => ?_⟩
  unfold readType
  refine Json.readDraft_bind (fun seen =>
    { kind := filled seen "kind" (some type.kind) none
      name := filled seen "name" (some type.name) none
      description := filled seen "description" type.description none
      fields := filled seen "fields" (type.fields.map ofField) []
      inputFields := filled seen "inputFields" (type.inputFields.map ofField) []
      enumValues := filled seen "enumValues" type.enumValues [] }) rfl record fits whole ?_ ?_
  · intro key inside value found shallow seen node whole
    simp only [typeShape, List.mem_cons, List.not_mem_nil, or_false] at inside
    rcases inside with rfl | rfl | rfl | rfl | rfl | rfl
    · have read := (yields_isKind (kind.of_find? found)).reads shallow node whole
      exact Json.fill_ok read (by simp [filled_cons_of_ne])
    · have read := (yields_isText (name.of_find? found)).reads shallow node whole
      exact Json.fill_ok read (by simp [filled_cons_of_ne])
    · have read := reads_textOrNull description found shallow node whole
      exact Json.fill_ok read (by simp [filled_cons_of_ne])
    · have read := reads_orEmpty fields found shallow (fun _ _ => yields_field) node whole
      exact Json.fill_ok read (by simp [filled_cons_of_ne])
    · have read := reads_orEmpty inputFields found shallow (fun _ _ => yields_field) node whole
      exact Json.fill_ok read (by simp [filled_cons_of_ne])
    · have read := reads_orEmpty values found shallow (fun _ _ => yields_value) node whole
      exact Json.fill_ok read (by simp [filled_cons_of_ne])
  · intro all stop keys
    have valued := filled_of_mayList (f := id) (keys "enumValues" (by simp [typeShape])) values
    rw [List.map_id] at valued
    simp only [filled_of_gives (keys "kind" (by simp [typeShape])) kind,
      filled_of_gives (keys "name" (by simp [typeShape])) name,
      filled_of_mayGive (keys "description" (by simp [typeShape])) description,
      filled_of_mayList (keys "fields" (by simp [typeShape])) fields,
      filled_of_mayList (keys "inputFields" (by simp [typeShape])) inputFields, valued]
    rfl

theorem yields_root (written : IsRoot name tree) : Yields readRoot (some name) tree := by
  obtain ⟨members, rfl, record, called⟩ := written
  refine ⟨nofun, fun fits node whole => ?_⟩
  unfold readRoot
  refine Json.readDraft_bind (fun seen => filled seen "name" (some name) none) rfl record fits
    whole ?_ ?_
  · intro key inside value found shallow seen node whole
    simp only [rootShape, List.mem_cons, List.not_mem_nil, or_false] at inside
    subst inside
    have read := (yields_isText (called.of_find? found)).orNull shallow node whole
    simp [read]
  · intro all stop keys
    rw [filled_of_gives (keys "name" (by simp [rootShape])) called]
    rfl

theorem reads_rootOrNull {members : Tree .members} (given : members.MayGive key IsRoot root)
    (found : members.find? key = some tree) (fits : tree.nesting < depth) :
    Reads readRootOrNull depth tree root := by
  intro node whole
  have read := given.reads found fits (fun _ => yields_root) node whole
  rw [readRootOrNull, read]
  cases root <;> rfl

theorem yields_schema {schema : SchemaBindings.Schema} (written : schema.WrittenAs tree) :
    Yields readSchema (ofSchema schema) tree := by
  obtain ⟨members, rfl, record, query, mutation, subscription, types⟩ := written
  refine ⟨nofun, fun fits node whole => ?_⟩
  unfold readSchema
  refine Json.readDraft_bind (fun seen =>
    { queryType := filled seen "queryType" schema.queryType none
      mutationType := filled seen "mutationType" schema.mutationType none
      subscriptionType := filled seen "subscriptionType" schema.subscriptionType none
      types := filled seen "types" (some (schema.types.toList.map ofDescriptor)) none }) rfl
    record fits whole ?_ ?_
  · intro key inside value found shallow seen node whole
    simp only [schemaShape, List.mem_cons, List.not_mem_nil, or_false] at inside
    rcases inside with rfl | rfl | rfl | rfl
    · have read := reads_rootOrNull query found shallow node whole
      exact Json.fill_ok read (by simp [filled_cons_of_ne])
    · have read := reads_rootOrNull mutation found shallow node whole
      exact Json.fill_ok read (by simp [filled_cons_of_ne])
    · have read := reads_rootOrNull subscription found shallow node whole
      exact Json.fill_ok read (by simp [filled_cons_of_ne])
    · have listed := (types.of_find? found).yields (fun _ _ => yields_type)
      have read := listed.reads shallow node whole
      exact Json.fill_ok read (by simp [filled_cons_of_ne])
  · intro all stop keys
    simp only [filled_of_mayGive (keys "queryType" (by simp [schemaShape])) query,
      filled_of_mayGive (keys "mutationType" (by simp [schemaShape])) mutation,
      filled_of_mayGive (keys "subscriptionType" (by simp [schemaShape])) subscription,
      filled_of_gives (keys "types" (by simp [schemaShape])) types]
    rfl

theorem yields_data {members : Tree .members} {schema : SchemaBindings.Schema}
    (record : Json.Record dataShape members)
    (given : members.Gives "__schema" schema.WrittenAs) :
    Yields readData (some (ofSchema schema)) (.object members) := by
  refine ⟨nofun, fun fits node whole => ?_⟩
  unfold readData
  refine Json.readDraft_bind (fun seen => filled seen "__schema" (some (ofSchema schema)) none) rfl
    record fits whole ?_ ?_
  · intro key inside value found shallow seen node whole
    simp only [dataShape, List.mem_cons, List.not_mem_nil, or_false] at inside
    subst inside
    have read := (yields_schema (given.of_find? found)).orNull shallow node whole
    simp [read]
  · intro all stop keys
    rw [filled_of_gives (keys "__schema" (by simp [dataShape])) given]
    rfl

theorem yields_error (written : IsError message tree) : Yields readError message tree := by
  obtain ⟨members, rfl, record, given⟩ := written
  refine ⟨nofun, fun fits node whole => ?_⟩
  unfold readError
  refine Json.readDraft_bind (fun seen => filled seen "message" (some message) none) rfl record
    fits whole ?_ ?_
  · intro key inside value found shallow seen node whole
    simp only [errorShape, List.mem_cons, List.not_mem_nil, or_false] at inside
    subst inside
    have read := (yields_isText (given.of_find? found)).reads shallow node whole
    simp [read, bind, Except.bind, pure, Except.pure]
  · intro all stop keys
    rw [filled_of_gives (keys "message" (by simp [errorShape])) given]
    rfl

theorem reads_document {members : Tree .members} (under beside : Option Schema)
    (record : Json.Record documentShape members)
    (data : members.MayGive "data" (fun inner => Yields readData (some inner)) under)
    (errors : ReportsErrors members messages)
    (own : members.MayGive "__schema" (Yields readSchema) beside)
    (fits : (Tree.object members).nesting < depth) :
    Reads readDocument depth (.object members)
      { underData := under, errors := messages, beside := beside } := by
  intro node whole
  unfold readDocument
  refine Json.readDraft_bind (fun seen =>
    { underData := filled seen "data" under none
      errors := filled seen "errors" messages []
      beside := filled seen "__schema" beside none }) rfl record fits whole ?_ ?_
  · intro key inside value found shallow seen node whole
    simp only [documentShape, List.mem_cons, List.not_mem_nil, or_false] at inside
    rcases inside with rfl | rfl | rfl
    · have read := data.reads found shallow (fun _ yields => yields) node whole
      cases under <;>
        exact Json.fill_ok read (by simp [filled_cons_of_ne])
    · have listed : Tree.IsList IsError messages value := by
        rcases errors with given | ⟨_, absent⟩
        · exact given.of_find? found
        · rw [found] at absent; cases absent
      have read := (listed.yields (fun _ _ => yields_error)).reads shallow node whole
      exact Json.fill_ok read (by simp [filled_cons_of_ne])
    · have read := own.reads found shallow (fun _ yields => yields) node whole
      rw [Option.map_id'] at read
      exact Json.fill_ok read (by simp [filled_cons_of_ne])
  · intro all stop keys
    have reported : filled all "errors" messages [] = messages := by
      rcases errors with given | ⟨rfl, _⟩
      · exact filled_of_gives (keys "errors" (by simp [documentShape])) given _ _
      · exact ite_self []
    simp only [filled_of_mayGive (keys "data" (by simp [documentShape])) data, reported,
      filled_of_mayGive (keys "__schema" (by simp [documentShape])) own]
    rfl

-- Wherever in the document the schema stands, it is the one that is used.
theorem reads_documented {schema : SchemaBindings.Schema} (written : schema.DocumentedAs tree)
    (fits : tree.nesting < depth) :
    ∃ document, Reads readDocument depth tree document ∧
      document.schema? = some (ofSchema schema) := by
  cases written with
  | bare record errors noData given =>
    obtain ⟨tree, found, written⟩ := given
    exact ⟨_, reads_document none (some _) record noData errors
      ⟨tree, found, yields_schema written⟩ fits, rfl⟩
  | underData record errors data inner given noOther =>
    obtain ⟨_, found, rfl⟩ := data
    exact ⟨_, reads_document (some _) none record ⟨_, found, yields_data inner given⟩ errors
      noOther fits, rfl⟩

theorem decodes_documented {schema : SchemaBindings.Schema} (written : schema.DocumentedAs tree)
    (spelled : Json.Spelled text tree) (shallow : tree.nesting < depthLimit) :
    ∃ document, Document.ofText text = .ok document ∧
      document.schema? = some (ofSchema schema) := by
  obtain ⟨whole, nothing⟩ := spelled.scan_root
  obtain ⟨document, reads, chosen⟩ := reads_documented written shallow
  refine ⟨document, ?_, chosen⟩
  rw [Document.ofText, Json.Document.read, reads _ whole, nothing]
  rfl

end SchemaBindings.Introspection.Wire
