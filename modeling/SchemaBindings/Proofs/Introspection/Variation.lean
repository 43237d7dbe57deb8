import SchemaBindings.Proofs.Introspection.Reordering
import SchemaBindings.Proofs.Json.Variation

namespace SchemaBindings.Introspection

namespace Wire

open Json (Tree Rearranged RecordVaried ListVaried Keeps)
open Json.Filling (Apart)

abbrev Change := Tree .value → Tree .value → Prop

-- The fields that are records or lists of records vary as such, and the others are rearranged.
def varies (inner : List (String × Change)) (field : String) : Change :=
  (inner.lookup field).getD Rearranged

-- So many references are followed, one under the other.
def ReferenceVariedTo : Nat → Change
  | 0 => Rearranged
  | depth + 1 => RecordVaried referenceShape (varies [("ofType", ReferenceVariedTo depth)])

def ReferenceVaried : Change := fun a b => ∃ depth, ReferenceVariedTo depth a b

def FieldVaried : Change := RecordVaried fieldShape (varies [("type", ReferenceVaried)])

def ValueVaried : Change := RecordVaried valueShape (varies [])

def TypeVaried : Change := RecordVaried typeShape (varies [
  ("fields", ListVaried FieldVaried), ("inputFields", ListVaried FieldVaried),
  ("enumValues", ListVaried ValueVaried)])

def RootVaried : Change := RecordVaried rootShape (varies [])

def SchemaVaried : Change := RecordVaried schemaShape (varies [
  ("queryType", RootVaried), ("mutationType", RootVaried), ("subscriptionType", RootVaried),
  ("types", ListVaried TypeVaried)])

def DataVaried : Change := RecordVaried dataShape (varies [("__schema", SchemaVaried)])

def ErrorVaried : Change := RecordVaried errorShape (varies [])

def DocumentVaried : Change := RecordVaried documentShape (varies [
  ("data", DataVaried), ("errors", ListVaried ErrorVaried), ("__schema", SchemaVaried)])

theorem varies_of_rearranged {inner : List (String × Change)}
    (loose : ∀ entry ∈ inner, ∀ a b, Rearranged a b → entry.2 a b) (field : String)
    (a b : Tree .value) (order : Rearranged a b) : varies inner field a b := by
  unfold varies
  cases found : inner.lookup field with
  | none => exact order
  | some change =>
    obtain ⟨before, after, rfl, _⟩ := List.lookup_eq_some_iff.mp found
    exact loose (field, change) (by simp) a b order

theorem eq_of_entries {xs ys : Tree .members} (same : xs.entries = ys.entries) : xs = ys := by
  match xs, ys with
  | .noMembers, .noMembers => rfl
  | .noMembers, .member _ _ _ => cases same
  | .member _ _ _, .noMembers => cases same
  | .member key value xs, .member other found ys =>
    simp only [Tree.entries, List.cons.injEq, Prod.mk.injEq] at same
    obtain ⟨⟨rfl, rfl⟩, rest⟩ := same
    rw [eq_of_entries rest]

theorem eq_of_single {key : Option String} {ys : Tree .members}
    (order : Rearranged (.member key .null .noMembers) ys) : ys = .member key .null .noMembers := by
  cases order with
  | same => rfl
  | member value rest =>
    cases value
    cases rest
    rfl

-- A kind in its long form is an object with a single member, so there is nothing to rearrange.
theorem keeps_readKind (depth : Nat) : Keeps Rearranged (readKind depth) := by
  refine (blind_readKind depth).keeps fun left a b kind whole order read => ?_
  cases whole with
  | string _ => cases order; rfl
  | object inside =>
    rw [readKind] at read
    obtain ⟨within, read, _⟩ := Json.entering_ok read
    cases inside with
    | membersEnd => cases read
    | member _ value rest =>
      obtain ⟨name, _, read⟩ := parts_of_bind read
      obtain ⟨_, unit, read⟩ := parts_of_bind read
      cases rest with
      | member _ _ _ => cases read
      | membersEnd => cases value with
        | null => cases order with
          | same => rfl
          | object members moved =>
            obtain rfl := eq_of_single members
            exact congrArg Tree.object (eq_of_entries (List.perm_singleton.mp moved.symm).symm)
        | _ => cases unit
  | _ => cases read

theorem ReferenceVariedTo.loose (depth : Nat) (order : Rearranged a b) :
    ReferenceVariedTo depth a b := by
  cases depth with
  | zero => exact order
  | succ depth => exact .rearranged order

theorem ReferenceVariedTo.null_iff {depth : Nat} (varied : ReferenceVariedTo depth a b) :
    a = .null ↔ b = .null := by
  cases depth with
  | zero => exact Rearranged.null_iff varied
  | succ depth => exact RecordVaried.null_iff varied

theorem keeps_textOrNull (depth : Nat) : Keeps Rearranged (Json.orNull Json.readText depth) :=
  Json.keeps_orNull (Json.keeps_readText depth) fun _ _ => Rearranged.null_iff

-- One more node in front of references that are read alike.
theorem keeps_readReference_over (further : Nat)
    (keeps : Keeps (ReferenceVariedTo further) (readReference depth)) :
    Keeps (ReferenceVariedTo (further + 1)) (readReference (depth + 1)) := by
  show Keeps (RecordVaried referenceShape _) fun node => readReference (depth + 1) node
  simp only [readReference]
  refine Json.keeps_record (varies_of_rearranged ?_) ?_ ?_ _ (depth + 1)
  · simpa using fun a b => ReferenceVariedTo.loose further
  · intro left
    have inner : Keeps (ReferenceVariedTo further)
        (Json.orNull (fun _ node => readReference depth node) left) :=
      Json.keeps_orNull keeps fun _ _ => ReferenceVariedTo.null_iff
    exact ⟨_,
      .cons ⟨readKind left, fun draft kind => { draft with kind := some kind }⟩
        (fun _ _ => rfl) (keeps_readKind left) (by simp [Apart]) <|
      .cons ⟨Json.orNull Json.readText left, fun draft name => { draft with name }⟩
        (fun _ _ => rfl) (keeps_textOrNull left) (by simp [Apart]) <|
      .cons ⟨Json.orNull (fun _ node => readReference depth node) left,
        fun draft inner => { draft with inner }⟩
        (fun _ _ => rfl) inner (by simp) .nil⟩
  · intro draft stop other
    refine (agree_need "kind" stop other draft.kind).bind ?_
    rintro kind _ rfl
    cases draft.inner <;> exact .done rfl

theorem keeps_readReference (depth : Nat) : Keeps ReferenceVaried (readReference depth) := by
  rintro left right a b reference first second ⟨further, varied⟩ read
  induction depth generalizing further left right a b reference with
  | zero => cases read
  | succ depth ih =>
    have keeps (further : Nat) : Keeps (ReferenceVariedTo further) (readReference depth) :=
      fun left right a b reference first second varied read =>
        ih left right a b reference first second further varied read
    cases further with
    | zero =>
      have deeper : ReferenceVariedTo 1 a b := .rearranged varied
      exact keeps_readReference_over 0 (keeps 0) _ _ _ _ _ first second deeper read
    | succ further =>
      exact keeps_readReference_over further (keeps further) _ _ _ _ _ first second varied read

theorem keeps_readField (depth : Nat) : Keeps FieldVaried (readField depth) := by
  show Keeps (RecordVaried fieldShape _) fun node => readField depth node
  unfold readField
  refine Json.keeps_record (varies_of_rearranged ?_) ?_ ?_ _ depth
  · simpa using fun a b order => ⟨0, order⟩
  · exact fun left => ⟨_,
      .cons ⟨Json.readText left, fun draft name => { draft with name := some name }⟩
        (fun _ _ => rfl) (Json.keeps_readText left) (by simp [Apart]) <|
      .cons ⟨Json.orNull Json.readText left, fun draft description => { draft with description }⟩
        (fun _ _ => rfl) (keeps_textOrNull left) (by simp [Apart]) <|
      .cons ⟨readReference left, fun draft type => { draft with type := some type }⟩
        (fun _ _ => rfl) (keeps_readReference left) (by simp) .nil⟩
  · intro draft stop other
    refine (agree_need "name" stop other draft.name).bind ?_
    rintro name _ rfl
    refine (agree_need "type" stop other draft.type).bind ?_
    rintro type _ rfl
    exact .done rfl

theorem keeps_readValue (depth : Nat) : Keeps ValueVaried (readValue depth) := by
  show Keeps (RecordVaried valueShape _) fun node => readValue depth node
  unfold readValue
  refine Json.keeps_record (varies_of_rearranged (by simp)) ?_ ?_ _ depth
  · exact fun left => ⟨_,
      .cons ⟨Json.readText left, fun draft name => { draft with name := some name }⟩
        (fun _ _ => rfl) (Json.keeps_readText left) (by simp [Apart]) <|
      .cons ⟨Json.orNull Json.readText left, fun draft description => { draft with description }⟩
        (fun _ _ => rfl) (keeps_textOrNull left) (by simp [Apart]) <|
      .cons ⟨Json.readBool left, fun draft isDeprecated => { draft with isDeprecated }⟩
        (fun _ _ => rfl) (Json.keeps_readBool left) (by simp) .nil⟩
  · intro draft stop other
    refine (agree_need "name" stop other draft.name).bind ?_
    rintro name _ rfl
    exact .done rfl

theorem keeps_orEmpty {V : Change} {reader : Json.Reader α}
    (keeps : ∀ depth, Keeps V (reader depth)) (loose : ∀ a b, Rearranged a b → V a b)
    (depth : Nat) : Keeps (ListVaried V) (orEmpty reader depth) :=
  Json.keeps_filled (Json.keeps_orNull (Json.keeps_readList keeps loose depth)
    fun _ _ => ListVaried.null_iff) _

theorem keeps_readType (depth : Nat) : Keeps TypeVaried (readType depth) := by
  show Keeps (RecordVaried typeShape _) fun node => readType depth node
  unfold readType
  refine Json.keeps_record (varies_of_rearranged ?_) ?_ ?_ _ depth
  · simpa using ⟨fun a b => .rearranged, fun a b => .rearranged⟩
  · intro left
    have fields : Keeps (ListVaried FieldVaried) (orEmpty readField left) :=
      keeps_orEmpty keeps_readField (fun _ _ => .rearranged) left
    have values : Keeps (ListVaried ValueVaried) (orEmpty readValue left) :=
      keeps_orEmpty keeps_readValue (fun _ _ => .rearranged) left
    exact ⟨_,
      .cons ⟨readKind left, fun draft kind => { draft with kind := some kind }⟩
        (fun _ _ => rfl) (keeps_readKind left) (by simp [Apart]) <|
      .cons ⟨Json.readText left, fun draft name => { draft with name := some name }⟩
        (fun _ _ => rfl) (Json.keeps_readText left) (by simp [Apart]) <|
      .cons ⟨Json.orNull Json.readText left, fun draft description => { draft with description }⟩
        (fun _ _ => rfl) (keeps_textOrNull left) (by simp [Apart]) <|
      .cons ⟨orEmpty readField left, fun draft fields => { draft with fields }⟩
        (fun _ _ => rfl) fields (by simp [Apart]) <|
      .cons ⟨orEmpty readField left, fun draft inputFields => { draft with inputFields }⟩
        (fun _ _ => rfl) fields (by simp [Apart]) <|
      .cons ⟨orEmpty readValue left, fun draft enumValues => { draft with enumValues }⟩
        (fun _ _ => rfl) values (by simp) .nil⟩
  · intro draft stop other
    refine (agree_need "kind" stop other draft.kind).bind ?_
    rintro kind _ rfl
    refine (agree_need "name" stop other draft.name).bind ?_
    rintro name _ rfl
    exact .done rfl

theorem keeps_readRootOrNull (depth : Nat) : Keeps RootVaried (readRootOrNull depth) := by
  have root : Keeps RootVaried (readRoot depth) := by
    show Keeps (RecordVaried rootShape _) (readRoot depth)
    unfold readRoot
    refine Json.keeps_record (varies_of_rearranged (by simp)) ?_ ?_ _ depth
    · exact fun left => ⟨_, .cons ⟨Json.orNull Json.readText left, fun _ name => name⟩
        (fun _ _ => (bind_pure _).symm) (keeps_textOrNull left) (by simp) .nil⟩
    · exact fun draft stop other => .done rfl
  exact Json.keeps_filled (Json.keeps_orNull root fun _ _ => RecordVaried.null_iff) _

theorem keeps_readSchema (depth : Nat) : Keeps SchemaVaried (readSchema depth) := by
  show Keeps (RecordVaried schemaShape _) fun node => readSchema depth node
  unfold readSchema
  refine Json.keeps_record (varies_of_rearranged ?_) ?_ ?_ _ depth
  · simpa using ⟨fun a b => .rearranged, fun a b => .rearranged⟩
  · intro left
    have types : Keeps (ListVaried TypeVaried) (Json.readList readType left) :=
      Json.keeps_readList keeps_readType (fun _ _ => .rearranged) left
    exact ⟨_,
      .cons ⟨readRootOrNull left, fun draft queryType => { draft with queryType }⟩
        (fun _ _ => rfl) (keeps_readRootOrNull left) (by simp [Apart]) <|
      .cons ⟨readRootOrNull left, fun draft mutationType => { draft with mutationType }⟩
        (fun _ _ => rfl) (keeps_readRootOrNull left) (by simp [Apart]) <|
      .cons ⟨readRootOrNull left, fun draft subscriptionType => { draft with subscriptionType }⟩
        (fun _ _ => rfl) (keeps_readRootOrNull left) (by simp [Apart]) <|
      .cons ⟨Json.readList readType left, fun draft types => { draft with types := some types }⟩
        (fun _ _ => rfl) types (by simp) .nil⟩
  · intro draft stop other
    refine (agree_need "types" stop other draft.types).bind ?_
    rintro types _ rfl
    exact .done rfl

theorem keeps_schemaOrNull (depth : Nat) : Keeps SchemaVaried (Json.orNull readSchema depth) :=
  Json.keeps_orNull (keeps_readSchema depth) fun _ _ => RecordVaried.null_iff

theorem keeps_readData (depth : Nat) : Keeps DataVaried (readData depth) := by
  show Keeps (RecordVaried dataShape _) (readData depth)
  unfold readData
  refine Json.keeps_record (varies_of_rearranged ?_) ?_ ?_ _ depth
  · simpa using fun a b => .rearranged
  · exact fun left => ⟨_, .cons ⟨Json.orNull readSchema left, fun _ schema => schema⟩
      (fun _ _ => (bind_pure _).symm) (keeps_schemaOrNull left) (by simp) .nil⟩
  · exact fun draft stop other => .done rfl

theorem keeps_readError (depth : Nat) : Keeps ErrorVaried (readError depth) := by
  show Keeps (RecordVaried errorShape _) (readError depth)
  unfold readError
  refine Json.keeps_record (varies_of_rearranged (by simp)) ?_ ?_ _ depth
  · exact fun left => ⟨_, .cons ⟨Json.readText left, fun _ message => some message⟩
      (fun _ _ => rfl) (Json.keeps_readText left) (by simp) .nil⟩
  · exact fun draft stop other => agree_need "message" stop other draft

theorem keeps_readDocument (depth : Nat) : Keeps DocumentVaried (readDocument depth) := by
  show Keeps (RecordVaried documentShape _) fun node => readDocument depth node
  unfold readDocument
  refine Json.keeps_record (varies_of_rearranged ?_) ?_ ?_ _ depth
  · simpa using ⟨fun a b => .rearranged, fun a b => .rearranged, fun a b => .rearranged⟩
  · intro left
    have data : Keeps DataVaried (Json.orNull readData left) :=
      Json.keeps_orNull (keeps_readData left) fun _ _ => RecordVaried.null_iff
    have errors : Keeps (ListVaried ErrorVaried) (Json.readList readError left) :=
      Json.keeps_readList keeps_readError (fun _ _ => .rearranged) left
    exact ⟨_,
      .cons ⟨Json.orNull readData left, fun draft data => { draft with underData := data.join }⟩
        (fun _ _ => rfl) data (by simp [Apart]) <|
      .cons ⟨Json.readList readError left, fun draft errors => { draft with errors }⟩
        (fun _ _ => rfl) errors (by simp [Apart]) <|
      .cons ⟨Json.orNull readSchema left, fun draft beside => { draft with beside }⟩
        (fun _ _ => rfl) (keeps_schemaOrNull left) (by simp) .nil⟩
  · exact fun draft stop other => .done rfl

theorem ofText_of_varied (first : Json.Spelled text a) (second : Json.Spelled other b)
    (varied : DocumentVaried a b) (decoded : Document.ofText text = .ok document) :
    Document.ofText other = .ok document := by
  obtain ⟨whole, nothing⟩ := first.scan_root
  obtain ⟨again, none⟩ := second.scan_root
  rw [Document.ofText, Json.Document.read, nothing] at decoded
  obtain ⟨found, read, same⟩ := parts_of_bind decoded
  cases same
  rw [Document.ofText, Json.Document.read, none,
    keeps_readDocument depthLimit _ _ _ _ _ whole again varied read]
  rfl

end Wire

-- What is decoded from one document is decoded from the other, and then all goes on alike.
theorem parse_of_varied (first : Json.Spelled text a) (second : Json.Spelled other b)
    (varied : Wire.DocumentVaried a b) (decoded : Wire.Document.ofText text = .ok document) :
    Wire.Document.ofText other = .ok document ∧ parse text = document.resolve ∧
      parse other = parse text ∧ parseEvents other = parseEvents text := by
  have again := Wire.ofText_of_varied first second varied decoded
  refine ⟨again, ?_, ?_, ?_⟩
  · rw [parse, decoded]
    rfl
  · rw [parse, parse, decoded, again]
  · rw [parseEvents, parseEvents, decoded, again]

section Paint
open Json (Value Tree Rearranged RecordVaried ListVaried)

-- An object with its members in the opposite order, among them others.
def turned (members others : List (String × Value)) : Value :=
  .object (members ++ others).reverse

def keyed (member : String × Value) : Option String × Tree .value := (some member.1, member.2.tree)

theorem entries_membersTree (members : List (String × Value)) :
    (Value.membersTree members).entries = members.map keyed := by
  induction members with
  | nil => rfl
  | cons member rest ih => rw [Value.membersTree, Tree.entries, ih, List.map_cons, keyed]

theorem recordVaried_turned {V : String → Wire.Change}
    {members varied others : List (String × Value)}
    (values : List.Forall₂ (fun x y => x.1 = y.1 ∧ V x.1 x.2.tree y.2.tree) members varied)
    (added : ∀ member ∈ others, member.1 ∉ shape.fields) :
    RecordVaried shape V (Value.object members).tree (turned varied others).tree := by
  have each : List.Forall₂ (Json.MemberVaried shape.fields V)
      (Value.membersTree members).entries (varied.map keyed) := by
    rw [entries_membersTree, List.forall₂_map_left_iff, List.forall₂_map_right_iff]
    exact values.imp fun x y both => ⟨congrArg some both.1, fun field _ same =>
      Option.some.inj same ▸ both.2⟩
  have foreign : ∀ member ∈ others.map keyed, Json.Foreign shape.fields member := by
    intro member inside
    obtain ⟨other, within, rfl⟩ := List.mem_map.mp inside
    exact ⟨other.1, rfl, added other within⟩
  have order : (varied.map keyed ++ others.map keyed).Perm
      (Value.membersTree (varied ++ others).reverse).entries := by
    rw [entries_membersTree, ← List.map_append]
    exact (List.reverse_perm _).symm.map keyed
  rw [turned, Value.tree, Value.tree]
  exact .object (.mk each foreign order)

def turnedColor : Value :=
  turned [("kind", .string "NON_NULL"), ("name", .null),
    ("ofType", turned [("kind", .string "LIST"), ("name", .null),
      ("ofType", TypeRef.value (.nonNull (.named .enumeration "Color")))] [("length", .integer 3)])]
    [("possibleTypes", .list [])]

def turnedPaint : Value :=
  turned [("kind", .string "INPUT_OBJECT"), ("name", .string "Paint"),
    ("description", .string "A \"coat\""), ("fields", .list []),
    ("inputFields", .list [
      turned [("name", .string "colors"), ("description", .null), ("type", turnedColor)]
        [("defaultValue", .string "[RED]"), ("args", .list [.object [("name", .bool false)]])]]),
    ("enumValues", .list [])] [("interfaces", .object [("kind", .null)])]

def turnedShade : Value :=
  turned [("kind", .string "ENUM"), ("name", .string "Color"), ("description", .null),
    ("fields", .list []), ("inputFields", .list []),
    ("enumValues", .list [
      turned [("name", .string "RED"), ("description", .string ""), ("isDeprecated", .bool false)]
        [("deprecationReason", .null)],
      EnumValue.value ⟨"TAN", none, true⟩])] [("Kind", .string "SCALAR"), ("Kind", .null)]

def turnedSchema : Value :=
  turned [("queryType", turned [("name", .string "Query")] [("fields", .list [])]),
    ("mutationType", .null), ("subscriptionType", .object [("name", .string "News")]),
    ("types", .list [turnedPaint, turnedShade])] [("directives", .list [.integer (-1)])]

-- The document of `paint`, turned at every level and with members that no record knows.
def turnedDocument : Value :=
  turned [("data", turned [("__schema", turnedSchema)] [("schema", .null)]),
    ("errors", .list [turned [("message", .string "late")] [("path", .list [])]])]
    [("extensions", .object [("data", .null)])]

theorem colorVaried : Wire.ReferenceVaried
    (TypeRef.value (.nonNull (.list (.nonNull (.named .enumeration "Color"))))).tree
    turnedColor.tree := by
  have list : Wire.ReferenceVariedTo 1
      (TypeRef.value (.list (.nonNull (.named .enumeration "Color")))).tree
      (turned [("kind", .string "LIST"), ("name", .null),
        ("ofType", TypeRef.value (.nonNull (.named .enumeration "Color")))]
        [("length", .integer 3)]).tree :=
    recordVaried_turned (.cons ⟨rfl, Rearranged.same⟩ (.cons ⟨rfl, Rearranged.same⟩
      (.cons ⟨rfl, Rearranged.same⟩ .nil))) (by decide)
  exact ⟨2, recordVaried_turned (.cons ⟨rfl, Rearranged.same⟩ (.cons ⟨rfl, Rearranged.same⟩
    (.cons ⟨rfl, list⟩ .nil))) (by decide)⟩

theorem paintVaried : Wire.TypeVaried
    (TypeDescriptor.value (paintTypes.head (by decide))).tree turnedPaint.tree := by
  have field : Wire.FieldVaried
      (Field.value ⟨"colors", none, .nonNull (.list (.nonNull (.named .enumeration "Color")))⟩).tree
      (turned [("name", .string "colors"), ("description", .null), ("type", turnedColor)]
        [("defaultValue", .string "[RED]"),
          ("args", .list [.object [("name", .bool false)]])]).tree :=
    recordVaried_turned (.cons ⟨rfl, Rearranged.same⟩ (.cons ⟨rfl, Rearranged.same⟩
      (.cons ⟨rfl, colorVaried⟩ .nil))) (by decide)
  exact recordVaried_turned (.cons ⟨rfl, Rearranged.same⟩ (.cons ⟨rfl, Rearranged.same⟩
    (.cons ⟨rfl, Rearranged.same⟩ (.cons ⟨rfl, ListVaried.rearranged .same⟩
    (.cons ⟨rfl, ListVaried.list (.cons field .nil)⟩
    (.cons ⟨rfl, ListVaried.rearranged .same⟩ .nil)))))) (by decide)

theorem shadeVaried : Wire.TypeVaried
    (TypeDescriptor.value (paintTypes.getLast (by decide))).tree turnedShade.tree := by
  have value : Wire.ValueVaried (EnumValue.value ⟨"RED", some "", false⟩).tree
      (turned [("name", .string "RED"), ("description", .string ""), ("isDeprecated", .bool false)]
        [("deprecationReason", .null)]).tree :=
    recordVaried_turned (.cons ⟨rfl, Rearranged.same⟩ (.cons ⟨rfl, Rearranged.same⟩
      (.cons ⟨rfl, Rearranged.same⟩ .nil))) (by decide)
  exact recordVaried_turned (.cons ⟨rfl, Rearranged.same⟩ (.cons ⟨rfl, Rearranged.same⟩
    (.cons ⟨rfl, Rearranged.same⟩ (.cons ⟨rfl, ListVaried.rearranged .same⟩
    (.cons ⟨rfl, ListVaried.rearranged .same⟩
    (.cons ⟨rfl, ListVaried.list (.cons value (.cons (.rearranged .same) .nil))⟩ .nil))))))
    (by decide)

theorem documentVaried_turned :
    Wire.DocumentVaried (paint.document ["late"]).tree turnedDocument.tree := by
  have query : Wire.RootVaried (rootOrNull (some "Query")).tree
      (turned [("name", .string "Query")] [("fields", .list [])]).tree :=
    recordVaried_turned (.cons ⟨rfl, Rearranged.same⟩ .nil) (by decide)
  have error : Wire.ErrorVaried (errorValue "late").tree
      (turned [("message", .string "late")] [("path", .list [])]).tree :=
    recordVaried_turned (.cons ⟨rfl, Rearranged.same⟩ .nil) (by decide)
  have schema : Wire.SchemaVaried paint.value.tree turnedSchema.tree :=
    recordVaried_turned (.cons ⟨rfl, query⟩ (.cons ⟨rfl, RecordVaried.rearranged .same⟩
      (.cons ⟨rfl, RecordVaried.rearranged .same⟩
      (.cons ⟨rfl, ListVaried.list (.cons paintVaried (.cons shadeVaried .nil))⟩ .nil))))
      (by decide)
  have data : Wire.DataVaried (Value.object [("__schema", paint.value)]).tree
      (turned [("__schema", turnedSchema)] [("schema", .null)]).tree :=
    recordVaried_turned (.cons ⟨rfl, schema⟩ .nil) (by decide)
  exact recordVaried_turned (.cons ⟨rfl, data⟩
    (.cons ⟨rfl, ListVaried.list (.cons error .nil)⟩ .nil)) (by decide)

theorem parse_of_varied_turned :
    Wire.DocumentVaried (paint.document ["late"]).tree turnedDocument.tree ∧
      (∃ document, Wire.Document.ofText (paint.document ["late"]).text = .ok document ∧
        Wire.Document.ofText turnedDocument.text = .ok document) ∧
      parse turnedDocument.text = .ok paint := by
  obtain ⟨⟨document, decoded⟩, parsed⟩ := decodes_paint ["late"] (by decide)
  have spelled := (paint.document ["late"]).spelled
  obtain ⟨again, _, same, _⟩ := parse_of_varied spelled turnedDocument.spelled
    documentVaried_turned decoded
  exact ⟨documentVaried_turned, ⟨document, decoded, again⟩, same.trans parsed⟩

end Paint
end SchemaBindings.Introspection
