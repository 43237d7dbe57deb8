import Mathlib.Data.List.Induction
import SchemaBindings.Proofs.Fallible
import SchemaBindings.Proofs.Introspection.Decoding

namespace SchemaBindings.Introspection

namespace Wire

theorem eq_of_isWrapper {kind : Kind} (wraps : kind.isWrapper = true) :
    kind = .list ∨ kind = .nonNull := by
  cases kind with
  | list => exact .inl rfl
  | nonNull => exact .inr rfl
  | _ => cases wraps

namespace Reference

def nodeKind : Reference → Kind
  | .bare kind _ => kind
  | .over kind _ _ => kind

def nodeName? : Reference → Option String
  | .bare _ name => name
  | .over _ name _ => name

-- A node that names a type, whatever lies under it.
structure Names (reference : Reference) (name : String) : Prop where
  noWrapper : reference.nodeKind.isWrapper = false
  known : reference.nodeKind ≠ .unknown
  named : reference.nodeName? = some name

-- Every wrapper has something under it, down to a node that names a type.
inductive WellFormed : Reference → Prop where
  | leaf {reference : Reference} (names : reference.Names name) : WellFormed reference
  | under {inner : Reference} (wraps : kind.isWrapper = true) (inside : WellFormed inner) :
      WellFormed (.over kind name inner)

inductive Means : Reference → TypeRef → Prop where
  | leaf {reference : Reference} (names : reference.Names name) :
      Means reference (.named reference.nodeKind name)
  | list {inner : Reference} (inside : Means inner type) :
      Means (.over .list name inner) (.list type)
  | nonNull {inner : Reference} (inside : Means inner type) :
      Means (.over .nonNull name inner) (.nonNull type)

-- What is wrong at the end of the chain of wrappers.
inductive Faulty : Reference → String → Prop where
  | empty (wraps : kind.isWrapper = true) :
      Faulty (.bare kind name) (kind.wireName ++ " without ofType")
  | unrecognized {reference : Reference} (unknown : reference.nodeKind = .unknown) :
      Faulty reference "unrecognized type kind"
  | nameless {reference : Reference} (noWrapper : reference.nodeKind.isWrapper = false)
      (known : reference.nodeKind ≠ .unknown) (unnamed : reference.nodeName? = none) :
      Faulty reference (reference.nodeKind.wireName ++ " reference without name")
  | under {inner : Reference} (wraps : kind.isWrapper = true) (inside : Faulty inner reason) :
      Faulty (.over kind name inner) reason

variable {reference : Reference}

theorem resolve_leaf (owner field : String) (noWrapper : reference.nodeKind.isWrapper = false) :
    reference.resolve owner field = Wire.leaf owner field reference.nodeKind reference.nodeName? := by
  cases reference with
  | bare kind name => rfl
  | «over» kind name inner => cases kind <;> first | rfl | cases noWrapper

theorem Means.resolve (means : reference.Means type) (owner field : String) :
    reference.resolve owner field = .ok type := by
  induction means with
  | leaf names =>
    rw [resolve_leaf owner field names.noWrapper]
    simp [Wire.leaf, names.noWrapper, names.known, names.named]
  | list _ ih => rw [Reference.resolve, if_pos rfl, ih]; rfl
  | nonNull _ ih => rw [Reference.resolve, if_neg (by decide), if_pos rfl, ih]; rfl

theorem Faulty.resolve (faulty : reference.Faulty reason) (owner field : String) :
    reference.resolve owner field = .error (.malformedReference owner field reason) := by
  induction faulty with
  | empty wraps => simp [Reference.resolve, Wire.leaf, wraps]
  | unrecognized unknown =>
    rw [resolve_leaf owner field (by rw [unknown]; rfl), unknown]
    rfl
  | nameless noWrapper known unnamed =>
    rw [resolve_leaf owner field noWrapper]
    simp [Wire.leaf, noWrapper, known, unnamed]
  | under wraps _ ih =>
    rw [Reference.resolve, ih]
    rcases eq_of_isWrapper wraps with rfl | rfl <;> rfl

theorem leaf_means_or_faulty (reference : Reference) (noWrapper : reference.nodeKind.isWrapper = false) :
    (∃ type, reference.Means type) ∨ ∃ reason, reference.Faulty reason := by
  by_cases unknown : reference.nodeKind = .unknown
  · exact .inr ⟨_, .unrecognized unknown⟩
  · cases named : reference.nodeName? with
    | none => exact .inr ⟨_, .nameless noWrapper unknown named⟩
    | some name => exact .inl ⟨_, .leaf ⟨noWrapper, unknown, named⟩⟩

theorem means_or_faulty (reference : Reference) :
    (∃ type, reference.Means type) ∨ ∃ reason, reference.Faulty reason := by
  induction reference with
  | bare kind name =>
    cases wraps : kind.isWrapper with
    | true => exact .inr ⟨_, .empty wraps⟩
    | false => exact leaf_means_or_faulty (.bare kind name) wraps
  | «over» kind name inner ih =>
    cases wraps : kind.isWrapper with
    | false => exact leaf_means_or_faulty (.over kind name inner) wraps
    | true =>
      rcases ih with ⟨type, means⟩ | ⟨reason, faulty⟩
      · rcases eq_of_isWrapper wraps with rfl | rfl
        · exact .inl ⟨_, .list means⟩
        · exact .inl ⟨_, .nonNull means⟩
      · exact .inr ⟨_, .under wraps faulty⟩

theorem WellFormed.means (sound : reference.WellFormed) : ∃ type, reference.Means type := by
  induction sound with
  | leaf names => exact ⟨_, .leaf names⟩
  | under wraps _ ih =>
    obtain ⟨type, means⟩ := ih
    rcases eq_of_isWrapper wraps with rfl | rfl
    · exact ⟨_, .list means⟩
    · exact ⟨_, .nonNull means⟩

theorem Means.wellFormed (means : reference.Means type) : reference.WellFormed := by
  induction means with
  | leaf names => exact .leaf names
  | list _ ih => exact .under rfl ih
  | nonNull _ ih => exact .under rfl ih

theorem Means.complete (means : reference.Means type) : type.Complete := by
  induction means with
  | leaf names => exact ⟨names.noWrapper, names.known⟩
  | list _ ih => exact ih
  | nonNull _ ih => exact ih

end Reference

structure Field.Means (field : Field) (meant : SchemaBindings.Field) : Prop where
  name : meant.name = field.name
  description : meant.description = field.description
  type : field.type.Means meant.type

theorem Field.Means.resolve {field : Field} (means : field.Means meant) (owner : String) :
    field.resolve owner = .ok meant := by
  obtain ⟨name, description, type⟩ := means
  rw [Field.resolve, type.resolve]
  cases meant
  simp_all [bind, Except.bind, pure, Except.pure]

theorem Field.means_of_wellFormed {field : Field} (sound : field.type.WellFormed) :
    ∃ meant, field.Means meant := by
  obtain ⟨type, means⟩ := sound.means
  exact ⟨⟨field.name, field.description, type⟩, rfl, rfl, means⟩

theorem Field.resolve_faulty {field : Field} (faulty : field.type.Faulty reason) (owner : String) :
    field.resolve owner = .error (.malformedReference owner field.name reason) := by
  rw [Field.resolve, faulty.resolve]
  rfl

namespace TypeEntry

-- The fields whose references count, in the order in which they are looked at.
def checked (entry : TypeEntry) : List Field := entry.fields ++ entry.inputFields

def WellFormed (entry : TypeEntry) : Prop := ∀ field ∈ entry.checked, field.type.WellFormed

structure Means (entry : TypeEntry) (type : TypeDescriptor) : Prop where
  kind : type.kind = entry.kind
  name : type.name = entry.name
  description : type.description = entry.description
  fields : List.Forall₂ Field.Means entry.fields type.fields
  inputFields : List.Forall₂ Field.Means entry.inputFields type.inputFields
  enumValues : type.enumValues = entry.enumValues

-- What is wrong with a type behind types of the given names: its first malformed reference, or
-- else its name.
inductive Fault (entry : TypeEntry) (names : List String) : Error → Prop where
  | malformed (split : entry.checked = before ++ field :: behind)
      (sound : ∀ earlier ∈ before, earlier.type.WellFormed) (faulty : field.type.Faulty reason) :
      Fault entry names (.malformedReference entry.name field.name reason)
  | repeated (sound : entry.WellFormed) (taken : entry.name ∈ names) :
      Fault entry names (.duplicateType entry.name)

theorem WellFormed.means {entry : TypeEntry} (sound : entry.WellFormed) :
    ∃ type, entry.Means type := by
  obtain ⟨fields, first⟩ := exists_each fun field inside =>
    Field.means_of_wellFormed (sound field (List.mem_append_left entry.inputFields inside))
  obtain ⟨inputFields, second⟩ := exists_each fun field inside =>
    Field.means_of_wellFormed (sound field (List.mem_append_right entry.fields inside))
  exact ⟨⟨entry.kind, entry.name, entry.description, fields, inputFields, entry.enumValues⟩,
    rfl, rfl, rfl, first, second, rfl⟩

theorem Means.resolve {entry : TypeEntry} (means : entry.Means type) :
    entry.resolve = .ok type := by
  obtain ⟨kind, name, description, fields, inputFields, enumValues⟩ := means
  have first := mapM_ok (fields.imp fun _ _ means => means.resolve entry.name)
  have second := mapM_ok (inputFields.imp fun _ _ means => means.resolve entry.name)
  rw [TypeEntry.resolve, first, second]
  cases type
  simp_all [bind, Except.bind, pure, Except.pure]

theorem Means.complete {entry : TypeEntry} (means : entry.Means type) : type.Complete := by
  have meant : List.Forall₂ Field.Means entry.checked (type.fields ++ type.inputFields) :=
    List.rel_append means.fields means.inputFields
  exact forall_mem_right (meant.imp fun _ _ field => field.type.complete)

-- Both lists of fields are looked at as if they were one.
theorem resolve_error {entry : TypeEntry}
    (faulty : entry.checked.mapM (Field.resolve entry.name) = .error error) :
    entry.resolve = .error error := by
  rw [checked, List.mapM_append] at faulty
  rw [TypeEntry.resolve]
  cases first : entry.fields.mapM (Field.resolve entry.name) with
  | error other => simp_all [bind, Except.bind]
  | ok fields =>
    cases second : entry.inputFields.mapM (Field.resolve entry.name) with
    | error other => simp_all [bind, Except.bind]
    | ok inputFields => simp [first, second, bind, Except.bind, pure, Except.pure] at faulty

theorem resolve_malformed {entry : TypeEntry} {before behind : List Field} {field : Field}
    (split : entry.checked = before ++ field :: behind)
    (sound : ∀ earlier ∈ before, earlier.type.WellFormed) (faulty : field.type.Faulty reason) :
    entry.resolve = .error (.malformedReference entry.name field.name reason) := by
  apply resolve_error
  rw [split]
  refine mapM_error (fun earlier inside => ?_) (Field.resolve_faulty faulty entry.name)
  obtain ⟨meant, means⟩ := Field.means_of_wellFormed (sound earlier inside)
  exact ⟨meant, means.resolve entry.name⟩

theorem wellFormed_or_malformed (entry : TypeEntry) :
    entry.WellFormed ∨ ∃ error, ∀ names, entry.Fault names error := by
  rcases forall_or_first (·.type.WellFormed) entry.checked with
    sound | ⟨before, field, behind, split, sound, bad⟩
  · exact .inl sound
  · rcases field.type.means_or_faulty with ⟨type, means⟩ | ⟨reason, faulty⟩
    · exact (bad means.wellFormed).elim
    · exact .inr ⟨_, fun _ => .malformed split sound faulty⟩

end TypeEntry

-- Types that can stand in one schema.
structure Sound (entries : List TypeEntry) : Prop where
  distinct : (entries.map (·.name)).Nodup
  wellFormed : ∀ entry ∈ entries, entry.WellFormed

-- The first type with a fault is blamed; all types before it are sound.
def FirstFault (entries : List TypeEntry) (error : Error) : Prop :=
  ∃ before entry behind, entries = before ++ entry :: behind ∧ Sound before ∧
    entry.Fault (before.map (·.name)) error

theorem names_of_means (means : List.Forall₂ TypeEntry.Means entries types) :
    types.map (·.name) = entries.map (·.name) := by
  induction means with
  | nil => rfl
  | cons first _ ih => rw [List.map_cons, List.map_cons, first.name, ih]

theorem Sound.means (sound : Sound entries) :
    ∃ types, List.Forall₂ TypeEntry.Means entries types :=
  exists_each fun entry inside => (sound.wellFormed entry inside).means

-- Sound types are added one after the other, whatever comes behind them.
theorem addTypes_append (means : List.Forall₂ TypeEntry.Means entries types)
    (distinct : (entries.map (·.name)).Nodup) (schema : SchemaBindings.Schema)
    (fresh : ∀ entry ∈ entries, schema.has entry.name = false) (behind : List TypeEntry) :
    addTypes schema (entries ++ behind) =
      addTypes (types.foldl SchemaBindings.Schema.add schema) behind := by
  induction means generalizing schema with
  | nil => rfl
  | @cons entry type entries types first _ ih =>
    rw [List.map_cons, List.nodup_cons] at distinct
    have free : schema.has type.name = false :=
      first.name ▸ fresh entry (List.mem_cons_self ..)
    have others := ih distinct.2 (schema.add type) (by
      intro other inside
      have apart : type.name ≠ other.name := fun same =>
        distinct.1 (first.name ▸ same ▸ List.mem_map_of_mem inside)
      rw [SchemaBindings.Schema.has_add, beq_eq_false_iff_ne.mpr apart,
        fresh other (List.mem_cons_of_mem _ inside)]
      rfl)
    rw [List.cons_append, addTypes, first.resolve]
    simpa [free, bind, Except.bind] using others

theorem addTypes_repeated {entry : TypeEntry} (sound : entry.WellFormed)
    (taken : schema.has entry.name = true) (behind : List TypeEntry) :
    addTypes schema (entry :: behind) = .error (.duplicateType entry.name) := by
  obtain ⟨type, means⟩ := sound.means
  rw [addTypes, means.resolve]
  simp [bind, Except.bind, means.name, taken]
  rfl

namespace Schema

-- The schema whose types the entries describe, in their order.
def Means (schema : Schema) (meant : SchemaBindings.Schema) : Prop :=
  ∃ types, List.Forall₂ TypeEntry.Means schema.types types ∧ meant =
    .assemble schema.queryType schema.mutationType schema.subscriptionType types

theorem resolve_of_means {schema : Schema} {types : List TypeDescriptor}
    (means : List.Forall₂ TypeEntry.Means schema.types types)
    (distinct : (schema.types.map (·.name)).Nodup) :
    schema.resolve = .ok (.assemble schema.queryType schema.mutationType
      schema.subscriptionType types) := by
  have added := addTypes_append means distinct
    { queryType := schema.queryType, mutationType := schema.mutationType
      subscriptionType := schema.subscriptionType }
    (fun _ _ => Std.HashMap.contains_empty) []
  rwa [List.append_nil] at added

theorem resolve_of_sound {schema : Schema} (sound : Sound schema.types) :
    ∃ meant, schema.Means meant ∧ schema.resolve = .ok meant := by
  obtain ⟨types, means⟩ := sound.means
  exact ⟨_, ⟨types, means, rfl⟩, resolve_of_means means sound.distinct⟩

theorem resolve_of_firstFault {schema : Schema} (fault : FirstFault schema.types error) :
    schema.resolve = .error error := by
  obtain ⟨before, entry, behind, split, sound, fault⟩ := fault
  obtain ⟨types, means⟩ := sound.means
  have added := addTypes_append means sound.distinct
    { queryType := schema.queryType, mutationType := schema.mutationType
      subscriptionType := schema.subscriptionType }
    (fun _ _ => Std.HashMap.contains_empty) (entry :: behind)
  rw [resolve, split, added]
  cases fault with
  | malformed split sound faulty =>
    rw [addTypes, TypeEntry.resolve_malformed split sound faulty]
    rfl
  | repeated sound taken =>
    refine addTypes_repeated sound ?_ behind
    rw [SchemaBindings.Schema.has_foldl_add, names_of_means means]
    exact .inl taken

end Schema

theorem sound_or_firstFault (entries : List TypeEntry) :
    Sound entries ∨ ∃ error, FirstFault entries error := by
  induction entries using List.reverseRecOn with
  | nil => exact .inl ⟨.nil, nofun⟩
  | append_singleton before entry ih =>
    rcases ih with sound | ⟨error, earlier, faulty, behind, rfl, sound, fault⟩
    · rcases entry.wellFormed_or_malformed with wellFormed | ⟨error, fault⟩
      · by_cases taken : entry.name ∈ before.map (·.name)
        · exact .inr ⟨_, before, entry, [], rfl, sound, .repeated wellFormed taken⟩
        · left
          constructor
          · rw [List.map_append, List.map_singleton, List.nodup_append]
            refine ⟨sound.distinct, by simp, fun name earlier other last same => taken ?_⟩
            rwa [same, List.mem_singleton.mp last] at earlier
          · intro other inside
            rcases List.mem_append.mp inside with earlier | last
            · exact sound.wellFormed other earlier
            · rwa [List.mem_singleton.mp last]
      · exact .inr ⟨error, before, entry, [], rfl, sound, fault _⟩
    · exact .inr ⟨error, earlier, faulty, behind ++ [entry], by simp, sound, fault⟩

namespace Schema
variable {schema : Schema}

theorem Means.complete (means : schema.Means meant) : ∀ type ∈ meant.types, type.Complete := by
  obtain ⟨types, meanings, rfl⟩ := means
  intro type inside
  rw [← Array.mem_toList_iff, Schema.types_assemble] at inside
  exact forall_mem_right (meanings.imp fun _ _ entry => entry.complete) type inside

theorem resolve_ok_exact : (∃ meant, schema.resolve = .ok meant) ↔ Sound schema.types := by
  constructor
  · rintro ⟨meant, resolved⟩
    rcases sound_or_firstFault schema.types with sound | ⟨error, fault⟩
    · exact sound
    · rw [resolve_of_firstFault fault] at resolved
      cases resolved
  · intro sound
    obtain ⟨meant, _, resolved⟩ := resolve_of_sound sound
    exact ⟨meant, resolved⟩

theorem means_of_resolve (resolved : schema.resolve = .ok meant) : schema.Means meant := by
  obtain ⟨same, means, again⟩ := resolve_of_sound (resolve_ok_exact.mp ⟨meant, resolved⟩)
  rw [resolved] at again
  cases again
  exact means

theorem resolve_error_exact :
    schema.resolve = .error error ↔ FirstFault schema.types error := by
  constructor
  · intro refused
    rcases sound_or_firstFault schema.types with sound | ⟨other, fault⟩
    · obtain ⟨_, _, resolved⟩ := resolve_of_sound sound
      rw [refused] at resolved
      cases resolved
    · rw [resolve_of_firstFault fault] at refused
      cases refused
      exact fault
  · exact resolve_of_firstFault

end Schema
end Wire

open Wire

-- A schema that is parsed is the one that the document describes, and its types have names of their
-- own.
theorem described_of_parse (parsed : parse text = .ok schema) :
    ∃ document described, Document.ofText text = .ok document ∧
      document.schema? = some described ∧ described.Means schema ∧ Sound described.types := by
  obtain ⟨document, decoded, resolved⟩ := parts_of_bind parsed
  cases read : Document.ofText text with
  | error cause =>
    rw [read] at decoded
    cases decoded
  | ok same =>
    rw [read] at decoded
    cases decoded
    rw [Document.resolve] at resolved
    split at resolved
    · rename_i described chosen
      exact ⟨document, described, rfl, chosen, Wire.Schema.means_of_resolve resolved,
        Wire.Schema.resolve_ok_exact.mp ⟨schema, resolved⟩⟩
    · split at resolved <;> cases resolved

-- A document that decodes is either without a schema, and its errors are all that is left to say,
-- or its schema decides: it is sound and parsed as it stands, or its first fault is reported.
theorem parse_decoded (decoded : Document.ofText text = .ok document) :
    (document.underData = none → document.beside = none →
      parse text = .error
        (if document.errors = [] then .missingSchema else .server document.errors)) ∧
    ∀ schema, document.underData = some schema ∨
        document.underData = none ∧ document.beside = some schema →
      ((∃ parsed, parse text = .ok parsed) ↔ Sound schema.types) ∧
      (∀ parsed, parse text = .ok parsed →
        schema.Means parsed ∧ ∀ type ∈ parsed.types, type.Complete) ∧
      ∀ error, parse text = .error error ↔ FirstFault schema.types error := by
  have resolved : parse text = document.resolve := by
    rw [parse, decoded]
    rfl
  rw [resolved]
  constructor
  · intro noData noOther
    rw [Document.resolve, Document.schema?, noData, noOther]
    cases document.errors <;> rfl
  · intro schema chosen
    have used : document.resolve = schema.resolve := by
      rcases chosen with under | ⟨noData, beside⟩
      · rw [Document.resolve, Document.schema?, under]
        rfl
      · rw [Document.resolve, Document.schema?, noData, beside]
        rfl
    rw [used]
    refine ⟨Schema.resolve_ok_exact, fun parsed done => ?_, fun _ => Schema.resolve_error_exact⟩
    have means := Schema.means_of_resolve done
    exact ⟨means, means.complete⟩

def plainPaint : TypeDescriptor :=
  { kind := .object, name := "Paint", description := none, fields := [], inputFields := []
    enumValues := [] }

-- This type has the name of the other, but what is reported is its reference to an unknown kind.
def huedPaint : TypeDescriptor :=
  { plainPaint with
    fields := [{ name := "hue", description := none, type := .list (.named .unknown "Hue") }] }

def paints : SchemaBindings.Schema := .assemble none none none [plainPaint, huedPaint]

theorem firstFault_paints :
    FirstFault (ofSchema paints).types
      (.malformedReference "Paint" "hue" "unrecognized type kind") := by
  have sound : Sound [ofDescriptor plainPaint] := by
    refine ⟨by simp, fun entry inside => ?_⟩
    rw [List.mem_singleton.mp inside]
    exact List.forall_mem_nil _
  have faulty : (ofTypeRef (.list (.named .unknown "Hue"))).Faulty "unrecognized type kind" :=
    .under rfl (.unrecognized rfl)
  have split : (ofDescriptor huedPaint).checked =
      [] ++ ⟨"hue", none, ofTypeRef (.list (.named .unknown "Hue"))⟩ :: [] := rfl
  have fault : (ofDescriptor huedPaint).Fault ["Paint"] _ :=
    .malformed split (List.forall_mem_nil _) faulty
  rw [paints, ofSchema_assemble]
  exact ⟨[ofDescriptor plainPaint], ofDescriptor huedPaint, [], rfl, sound, fault⟩

theorem parse_decoded_paints :
    (∃ document, Document.ofText (paints.document ["late"]).text = .ok document ∧
        document.schema? = some (ofSchema paints)) ∧
      parse (paints.document ["late"]).text =
        .error (.malformedReference "Paint" "hue" "unrecognized type kind") := by
  obtain ⟨document, decoded, chosen⟩ := decodes_documented (paints.documentedAs_document ["late"])
    (paints.document ["late"]).spelled (by decide)
  have used := Option.or_eq_some_iff.mp chosen
  exact ⟨⟨document, decoded, chosen⟩,
    (((parse_decoded decoded).2 _ used).2.2 _).mpr firstFault_paints⟩

namespace Wire

-- What was written for a type means that type.
theorem means_ofTypeRef {reference : TypeRef} (complete : reference.Complete) :
    (ofTypeRef reference).Means reference := by
  induction reference with
  | list inner ih => exact .list (ih complete)
  | nonNull inner ih => exact .nonNull (ih complete)
  | named kind name => exact .leaf ⟨complete.1, complete.2, rfl⟩

theorem means_ofFields {fields : List SchemaBindings.Field}
    (complete : ∀ field ∈ fields, field.type.Complete) :
    List.Forall₂ Field.Means (fields.map ofField) fields := by
  rw [List.forall₂_map_left_iff, List.forall₂_same]
  intro field inside
  exact ⟨rfl, rfl, means_ofTypeRef (complete field inside)⟩

theorem means_ofDescriptor {type : TypeDescriptor} (complete : type.Complete) :
    (ofDescriptor type).Means type := by
  refine ⟨rfl, rfl, rfl, means_ofFields fun field inside => ?_,
    means_ofFields fun field inside => ?_, rfl⟩
  · exact complete field (List.mem_append_left _ inside)
  · exact complete field (List.mem_append_right _ inside)

theorem resolve_assembled {query mutation subscription : Option String}
    {types : List TypeDescriptor} (distinct : (types.map (·.name)).Nodup)
    (complete : ∀ type ∈ types, type.Complete) :
    (ofSchema (.assemble query mutation subscription types)).resolve =
      .ok (.assemble query mutation subscription types) := by
  rw [ofSchema_assemble]
  refine Schema.resolve_of_means ?_ ?_
  · rw [List.forall₂_map_left_iff, List.forall₂_same]
    exact fun type inside => means_ofDescriptor (complete type inside)
  · rwa [List.map_map]

theorem parse_of_documented {schema : SchemaBindings.Schema} (written : schema.DocumentedAs tree)
    (spelled : Json.Spelled text tree) (shallow : tree.nesting < depthLimit) :
    parse text = (ofSchema schema).resolve := by
  obtain ⟨document, decoded, chosen⟩ := decodes_documented written spelled shallow
  have resolved : document.resolve = (ofSchema schema).resolve := by
    rw [Document.resolve, chosen]
  rw [parse, decoded]
  exact resolved

end Wire

-- However a schema is written, parsing gives it back: all types in their order, all fields and
-- values in theirs, and every wrapper.
theorem parse_documented {query mutation subscription : Option String}
    {types : List TypeDescriptor} (distinct : (types.map (·.name)).Nodup)
    (complete : ∀ type ∈ types, type.Complete)
    (written : (Schema.assemble query mutation subscription types).DocumentedAs tree)
    (spelled : Json.Spelled text tree) (shallow : tree.nesting < Wire.depthLimit) :
    parse text = .ok (Schema.assemble query mutation subscription types) :=
  (Wire.parse_of_documented written spelled shallow).trans
    (Wire.resolve_assembled distinct complete)

def paintTypes : List TypeDescriptor := [
  { kind := .inputObject, name := "Paint", description := some "A \"coat\"", fields := []
    inputFields := [
      { name := "colors", description := none
        type := .nonNull (.list (.nonNull (.named .enumeration "Color"))) }]
    enumValues := [] },
  { kind := .enumeration, name := "Color", description := none, fields := [], inputFields := []
    enumValues := [
      { name := "RED", description := some "", isDeprecated := false },
      { name := "TAN", description := none, isDeprecated := true }] }]

def paint : SchemaBindings.Schema := .assemble (some "Query") none (some "News") paintTypes

theorem complete_paint : ∀ type ∈ paintTypes, type.Complete := by
  simp [paintTypes, TypeDescriptor.Complete, TypeRef.Complete, TypeRef.leaf, Kind.isWrapper]

theorem decodes_paint (messages : List String)
    (shallow : (paint.document messages).tree.nesting < Wire.depthLimit) :
    (∃ document, Wire.Document.ofText (paint.document messages).text = .ok document) ∧
      parse (paint.document messages).text = .ok paint := by
  have written := paint.documentedAs_document messages
  have spelled := (paint.document messages).spelled
  obtain ⟨document, decoded, _⟩ := Wire.decodes_documented written spelled shallow
  exact ⟨⟨document, decoded⟩, (Wire.parse_of_documented written spelled shallow).trans
    (Wire.resolve_assembled (by decide) complete_paint)⟩

theorem parse_documented_paint :
    (paintTypes.map (·.name)).Nodup ∧ (∀ type ∈ paintTypes, type.Complete) ∧
      paint.DocumentedAs (paint.document ["late"]).tree ∧
      Json.Spelled (paint.document ["late"]).text (paint.document ["late"]).tree ∧
      (paint.document ["late"]).tree.nesting < Wire.depthLimit ∧
      parse (paint.document ["late"]).text = .ok paint := by
  have distinct : (paintTypes.map (·.name)).Nodup := by decide
  have complete := complete_paint
  have written : (Schema.assemble (some "Query") none (some "News") paintTypes).DocumentedAs
      (paint.document ["late"]).tree := paint.documentedAs_document ["late"]
  have spelled := (paint.document ["late"]).spelled
  have shallow : (paint.document ["late"]).tree.nesting < Wire.depthLimit := by decide
  have parsed := parse_documented distinct complete written spelled shallow
  exact ⟨distinct, complete, written, spelled, shallow, parsed⟩

end SchemaBindings.Introspection
