import SchemaBindings.Proofs.Binding.Placed
import SchemaBindings.Proofs.Generation.Closure
import SchemaBindings.Proofs.Introspection.Resolution

namespace SchemaBindings

namespace Introspection

-- A document with two types of one name is refused.
theorem distinct_of_parse (parsed : parse text = .ok schema) :
    (schema.types.toList.map (·.name)).Nodup := by
  obtain ⟨_, described, _, _, ⟨types, means, rfl⟩, sound⟩ := described_of_parse parsed
  rw [Schema.types_assemble, Wire.names_of_means means]
  exact sound.distinct

end Introspection

namespace Binding

def Place.isItem : Place → Bool
  | .imported | .trait | .type => true
  | .variant | .field => false

-- The names that the items of a text bring in on the level of types.
def itemNames (text : String) : List String :=
  ((placed text).filter (·.place.isItem)).map (·.name)

def importedNames : List String := ["Deserialize", "Serialize"]

theorem itemNames_eq {entries : List Placed} (read : placed text = imports ++ entries) :
    itemNames text = importedNames ++ (entries.filter (·.place.isItem)).map (·.name) := by
  rw [itemNames, read]
  rfl

-- The members of a declaration are names on another level.
theorem items_flatMap {decls : List α} {name : α → String} {members : α → List String} {place : Place}
    (member : place.isItem = false) :
    ((decls.flatMap fun decl => (⟨.type, name decl⟩ : Placed) :: (members decl).map (⟨place, ·⟩)).filter
      (·.place.isItem)).map (·.name) = decls.map name := by
  induction decls with
  | nil => rfl
  | cons decl rest ih =>
    have none : ((members decl).map fun member => (⟨place, member⟩ : Placed)).filter
        (·.place.isItem) = [] := by
      simp [List.filter_map, Function.comp_def, member]
    rw [List.flatMap_cons, List.filter_append, List.map_append, ih, List.filter_cons_of_pos rfl, none]
    rfl

section Texts
variable {decls : Declarations}

theorem itemNames_enumsText (named : decls.Named) (made : enumsText decls = .ok text) :
    itemNames text = importedNames ++ decls.enums.map (·.name) := by
  rw [itemNames_eq (placed_enumsText named made), items_flatMap rfl]

theorem itemNames_inputsText (named : decls.Named) (made : inputsText decls = .ok text) :
    itemNames text = importedNames ++ "Input" :: decls.inputs.map (·.name) := by
  rw [itemNames_eq (placed_inputsText named made), List.filter_cons_of_pos rfl, List.map_cons,
    items_flatMap rfl]

theorem itemNames_scalarsText (named : decls.Named) :
    itemNames (scalarsText decls) = importedNames ++
      (decls.scalars.filter fun decl => !isBuiltinScalar decl.name).map (·.name) := by
  rw [itemNames_eq (placed_scalarsText named)]
  simp [List.filter_map, Function.comp_def, Place.isItem]

end Texts
end Binding

-- The type, its members and the types they refer to have names as the language of schemas asks for.
structure TypeDescriptor.Named (type : TypeDescriptor) : Prop where
  name : Naming.IsName type.name
  fields : ∀ field ∈ type.inputFields, Naming.IsName field.name ∧ Naming.IsName field.type.leaf.2
  values : ∀ value ∈ type.enumValues, Naming.IsName value.name

instance (type : TypeDescriptor) : Decidable type.Named :=
  decidable_of_iff (Naming.IsName type.name ∧
      (∀ field ∈ type.inputFields, Naming.IsName field.name ∧ Naming.IsName field.type.leaf.2) ∧
      ∀ value ∈ type.enumValues, Naming.IsName value.name)
    ⟨fun ⟨name, fields, values⟩ => ⟨name, fields, values⟩,
      fun ⟨name, fields, values⟩ => ⟨name, fields, values⟩⟩

theorem Schema.named_collect {schema : Schema} (named : ∀ type ∈ schema.types.toList, type.Named) :
    schema.collect.Named where
  enums := by
    intro decl declared
    obtain ⟨type, inside, picked⟩ := List.mem_filterMap.mp (mem_sortByName.mp declared)
    have its := named type (mem_ownTypes.mp inside).1
    rw [TypeDescriptor.toEnum?] at picked
    split at picked
    · cases picked
      exact ⟨its.name, its.values⟩
    · cases picked
  inputs := by
    intro decl declared
    obtain ⟨type, inside, _, name, fields⟩ := exists_type_of_mem_inputs declared
    have its := named type (mem_ownTypes.mp inside).1
    exact ⟨name ▸ its.name, fun field there => its.fields field (fields field there)⟩
  scalars := by
    intro decl declared
    obtain ⟨type, inside, picked⟩ := List.mem_filterMap.mp (mem_sortByName.mp declared)
    rw [TypeDescriptor.name_of_toScalar? picked]
    exact (named type (mem_ownTypes.mp inside).1).name

namespace Generation
open Binding

-- A list of names that are fixed, and names that differ from each other.
theorem nodup_fixed_iff {fixed names own : List String} (different : fixed.Nodup)
    (perm : names.Perm own) (distinct : own.Nodup) :
    (fixed ++ names).Nodup ↔ ∀ name ∈ own, name ∉ fixed := by
  rw [List.nodup_append, and_iff_right different, and_iff_right (perm.nodup_iff.mpr distinct)]
  constructor
  · intro apart name there known
    exact apart name known name (perm.mem_iff.mpr there) rfl
  · intro apart name known other there same
    exact apart other (perm.mem_iff.mp there) (same ▸ known)

-- No name that is fixed is one of those that are left out.
theorem unfiltered_iff {fixed names : List String} {kept : String → Bool}
    (keeps : ∀ name ∈ fixed, kept name = true) :
    (∀ name ∈ names.filter kept, name ∉ fixed) ↔ ∀ name ∈ names, name ∉ fixed := by
  constructor
  · intro apart name there known
    exact apart name (List.mem_filter.mpr ⟨there, keeps name known⟩) known
  · intro apart name there
    exact apart name (List.mem_of_mem_filter there)

-- In the files of a document no name is brought in twice, except for types that have the name of
-- something imported, and for an input record with the name of the trait.
theorem itemNames_nodup_exact (parsed : Introspection.parse document = .ok schema)
    (named : schema.collect.Named) (made : Binding.generate schema.collect = .ok files) :
    ∃ enums inputs scalars,
      enumsText schema.collect = .ok enums ∧ inputsText schema.collect = .ok inputs ∧
      scalarsText schema.collect = scalars ∧
      files = [.render enumsFile enums, .render inputsFile inputs, .render scalarsFile scalars] ∧
      ((itemNames enums).Nodup ↔
        ∀ name ∈ schema.namesOf .enumeration, name ∉ ["Deserialize", "Serialize"]) ∧
      ((itemNames inputs).Nodup ↔
        ∀ name ∈ schema.namesOf .inputObject, name ∉ ["Deserialize", "Serialize", "Input"]) ∧
      ((itemNames scalars).Nodup ↔
        ∀ name ∈ schema.namesOf .scalar, name ∉ ["Deserialize", "Serialize"]) := by
  have distinct := Schema.nodup_namesOf (Introspection.distinct_of_parse parsed)
  have sound := (generate_decided schema.collect).ok_iff.mp ⟨files, made⟩
  have enumsMade := enumsText_sound sound.enums
  have inputsMade := inputsText_sound sound.inputs
  rw [generate_sound sound] at made
  cases made
  refine ⟨_, _, _, enumsMade, inputsMade, rfl, rfl, ?_, ?_, ?_⟩
  · rw [itemNames_enumsText named enumsMade]
    exact nodup_fixed_iff (by decide) schema.perm_names_enums (distinct _)
  · rw [itemNames_inputsText named inputsMade]
    change (["Deserialize", "Serialize", "Input"] ++ schema.collect.inputs.map (·.name)).Nodup ↔ _
    exact nodup_fixed_iff (by decide) schema.perm_names_inputs (distinct _)
  · have perm := schema.perm_names_scalars.filter fun name => !isBuiltinScalar name
    rw [List.filter_map] at perm
    rw [itemNames_scalarsText named]
    exact (nodup_fixed_iff (by decide) perm ((distinct _).filter _)).trans
      (unfiltered_iff (by decide +kernel))

-- A schema of one enum, one input record and one scalar.
def trio (color item date : String) : Schema :=
  .assemble none none none [
    { kind := .enumeration, name := color, description := none, fields := [], inputFields := []
      enumValues := [⟨"RED", none, false⟩] },
    { kind := .inputObject, name := item, description := none, fields := []
      inputFields := [⟨"madeOn", none, .named .scalar date⟩], enumValues := [] },
    scalarType date]

theorem parse_trio (distinct : [color, item, date].Nodup) :
    Introspection.parse ((trio color item date).document []).text = .ok (trio color item date) := by
  have read := Introspection.Wire.parse_of_documented
    ((trio color item date).documentedAs_document [])
    ((trio color item date).document []).spelled (Nat.le_of_ble_eq_true rfl)
  rw [read, trio]
  refine Introspection.Wire.resolve_assembled distinct ?_
  simp [scalarType, TypeDescriptor.Complete, TypeRef.Complete, TypeRef.leaf, Kind.isWrapper]

theorem itemNames_nodup_exact_trio :
    ∃ files enums inputs scalars,
      Introspection.parse ((trio "Color" "Item" "Date").document []).text =
        .ok (trio "Color" "Item" "Date") ∧
      Binding.generate (trio "Color" "Item" "Date").collect = .ok files ∧
      files = [.render enumsFile enums, .render inputsFile inputs, .render scalarsFile scalars] ∧
      (itemNames enums).Nodup ∧ (itemNames inputs).Nodup ∧ (itemNames scalars).Nodup := by
  have parsed := parse_trio (show ["Color", "Item", "Date"].Nodup by decide)
  have named : (trio "Color" "Item" "Date").collect.Named := Schema.named_collect (by decide +kernel)
  have sound : (trio "Color" "Item" "Date").collect.Sound :=
    sound_collect (by decide +kernel) (by decide +kernel)
  obtain ⟨files, made⟩ := (generate_decided _).ok_iff.mpr sound
  obtain ⟨enums, inputs, scalars, _, _, _, rendered, first, second, third⟩ :=
    itemNames_nodup_exact parsed named made
  exact ⟨files, enums, inputs, scalars, parsed, made, rendered, first.mpr (by decide +kernel),
    second.mpr (by decide +kernel), third.mpr (by decide +kernel)⟩

-- A record with the name of the trait is declared beside it.
theorem trait_declared_again :
    Introspection.parse ((trio "Color" "Input" "Date").document []).text =
        .ok (trio "Color" "Input" "Date") ∧
      ∃ files inputs, Binding.generate (trio "Color" "Input" "Date").collect = .ok files ∧
        inputsText (trio "Color" "Input" "Date").collect = .ok inputs ∧
        .render inputsFile inputs ∈ files ∧ ¬(itemNames inputs).Nodup := by
  have parsed := parse_trio (show ["Color", "Input", "Date"].Nodup by decide)
  have named : (trio "Color" "Input" "Date").collect.Named :=
    Schema.named_collect (by decide +kernel)
  have sound : (trio "Color" "Input" "Date").collect.Sound :=
    sound_collect (by decide +kernel) (by decide +kernel)
  have inputsMade := inputsText_sound sound.inputs
  refine ⟨parsed, _, _, generate_sound sound, inputsMade, List.mem_cons_of_mem _ (List.mem_cons_self ..),
    fun distinct => ?_⟩
  have there : "Input" ∈ (trio "Color" "Input" "Date").collect.inputs.map (·.name) :=
    (Schema.perm_names_inputs _).mem_iff.mpr (by decide +kernel)
  rw [itemNames_inputsText named inputsMade, List.nodup_append, List.nodup_cons] at distinct
  exact distinct.2.1.1 there

end Generation

namespace Binding

theorem legal_fixed : ∀ name ∈ ["Deserialize", "Serialize", "Input"], Naming.Legal name := by
  have words : ∀ name ∈ ["Deserialize", "Serialize", "Input"],
      Naming.IsName name ∧ Source.isKeyword name = false := by decide +kernel
  exact fun name inside => .word (words name inside).1 (words name inside).2

theorem legal_imports : ∀ entry ∈ imports, Naming.Legal entry.name := fun entry inside =>
  legal_fixed _ (by
    rcases List.mem_pair.mp inside with rfl | rfl
    · decide
    · decide)

-- Declarations with their members, which are identifiers at least where the declaration has one.
theorem legal_flatMap_iff {decls : List α} {name : α → String} {members : α → List String}
    {place : Place} (named : ∀ decl ∈ decls, Naming.IsName (name decl))
    (members_legal : ∀ decl ∈ decls, Source.isKeyword (name decl) = false →
      ∀ member ∈ members decl, Naming.Legal member) :
    (∀ entry ∈ decls.flatMap fun decl =>
        (⟨.type, name decl⟩ : Placed) :: (members decl).map (⟨place, ·⟩), Naming.Legal entry.name) ↔
      ∀ decl ∈ decls, Source.isKeyword (name decl) = false := by
  simp only [List.forall_mem_flatMap, List.forall_mem_cons, List.forall_mem_map]
  constructor
  · exact fun legal decl declared => (named decl declared).legal_iff.mp (legal decl declared).1
  · intro free decl declared
    exact ⟨(named decl declared).legal_iff.mpr (free decl declared),
      members_legal decl declared (free decl declared)⟩

section Texts
variable {decls : Declarations}

theorem legal_enumsText_iff (named : decls.Named) (made : enumsText decls = .ok text) :
    (∀ entry ∈ placed text, Naming.Legal entry.name) ↔
      ∀ decl ∈ decls.enums, Source.isKeyword decl.name = false := by
  rw [placed_enumsText named made, List.forall_mem_append, and_iff_right legal_imports]
  refine legal_flatMap_iff (fun decl declared => (named.enums decl declared).1)
    fun decl declared free => List.forall_mem_map.mpr fun value there => ?_
  obtain ⟨name, values⟩ := named.enums decl declared
  exact Naming.legal_enumValueIdentifier name (values value there) free

theorem legal_identifiers {decl : InputDecl}
    (fields : ∀ field ∈ decl.fields, Naming.IsName field.name) :
    ∀ identifier ∈ decl.identifiers, Naming.Legal identifier :=
  List.forall_mem_map.mpr fun field there => Naming.legal_fieldIdentifier (fields field there)

theorem legal_inputsText_iff (named : decls.Named) (made : inputsText decls = .ok text) :
    (∀ entry ∈ placed text, Naming.Legal entry.name) ↔
      ∀ decl ∈ decls.inputs, Source.isKeyword decl.name = false := by
  rw [placed_inputsText named made, List.forall_mem_append, and_iff_right legal_imports,
    List.forall_mem_cons, and_iff_right (legal_fixed _ (by decide))]
  exact legal_flatMap_iff (fun decl declared => (named.inputs decl declared).1)
    fun decl declared _ => legal_identifiers fun field there =>
      ((named.inputs decl declared).2 field there).1

theorem legal_scalarsText_iff (named : decls.Named) :
    (∀ entry ∈ placed (scalarsText decls), Naming.Legal entry.name) ↔
      ∀ decl ∈ decls.scalars, isBuiltinScalar decl.name = false →
        Source.isKeyword decl.name = false := by
  rw [placed_scalarsText named, List.forall_mem_append, and_iff_right legal_imports,
    List.forall_mem_map]
  simp only [List.mem_filter, Bool.not_eq_true', and_imp]
  exact forall₂_congr fun decl declared =>
    imp_congr_right fun _ => (named.scalars decl declared).legal_iff

-- Fields are identifiers whatever the types are called.
theorem legal_fields (named : decls.Named) (made : inputsText decls = .ok text) :
    ∀ entry ∈ placed text, entry.place = .field → Naming.Legal entry.name := by
  intro entry inside field
  rw [placed_inputsText named made, List.mem_append, List.mem_cons, List.mem_flatMap] at inside
  rcases inside with imported | rfl | ⟨decl, declared, its⟩
  · exact legal_imports entry imported
  · cases field
  · rcases List.mem_cons.mp its with rfl | member
    · cases field
    · obtain ⟨identifier, there, rfl⟩ := List.mem_map.mp member
      exact legal_identifiers (fun other known => ((named.inputs decl declared).2 other known).1)
        identifier there

end Texts
end Binding

namespace Generation
open Binding

theorem forall_names_iff {decls : List α} {name : α → String} {names : List String}
    (p : String → Prop) (perm : (decls.map name).Perm names) :
    (∀ decl ∈ decls, p (name decl)) ↔ ∀ known ∈ names, p known := by
  constructor
  · intro each known there
    obtain ⟨decl, declared, rfl⟩ := List.mem_map.mp (perm.mem_iff.mpr there)
    exact each decl declared
  · exact fun all decl declared => all _ (perm.mem_iff.mp (List.mem_map_of_mem declared))

-- The names that are declared are identifiers exactly if no type that is declared is called by a
-- word that the language of the source keeps for itself. The fields are identifiers in any case.
theorem placed_legal_exact {schema : Schema} (named : ∀ type ∈ schema.types.toList, type.Named)
    (made : Binding.generate schema.collect = .ok files) :
    ∃ enums inputs scalars,
      enumsText schema.collect = .ok enums ∧ inputsText schema.collect = .ok inputs ∧
      scalarsText schema.collect = scalars ∧
      files = [.render enumsFile enums, .render inputsFile inputs, .render scalarsFile scalars] ∧
      (∀ entry ∈ placed inputs, entry.place = .field → Naming.Legal entry.name) ∧
      ((∀ text ∈ [enums, inputs, scalars], ∀ entry ∈ placed text, Naming.Legal entry.name) ↔
        ∀ name ∈ schema.declaredNames, Source.isKeyword name = false) := by
  have known := Schema.named_collect named
  have sound := (generate_decided schema.collect).ok_iff.mp ⟨files, made⟩
  have enumsMade := enumsText_sound sound.enums
  have inputsMade := inputsText_sound sound.inputs
  rw [generate_sound sound] at made
  cases made
  refine ⟨_, _, _, enumsMade, inputsMade, rfl, rfl, legal_fields known inputsMade, ?_⟩
  have enums : (∀ decl ∈ schema.collect.enums, Source.isKeyword decl.name = false) ↔
      ∀ name ∈ schema.namesOf .enumeration, Source.isKeyword name = false :=
    forall_names_iff (Source.isKeyword · = false) schema.perm_names_enums
  have inputs : (∀ decl ∈ schema.collect.inputs, Source.isKeyword decl.name = false) ↔
      ∀ name ∈ schema.namesOf .inputObject, Source.isKeyword name = false :=
    forall_names_iff (Source.isKeyword · = false) schema.perm_names_inputs
  have scalars : (∀ decl ∈ schema.collect.scalars, isBuiltinScalar decl.name = false →
      Source.isKeyword decl.name = false) ↔
        ∀ name ∈ (schema.namesOf .scalar).filter (fun name => !isBuiltinScalar name),
          Source.isKeyword name = false := by
    simp only [List.mem_filter, Bool.not_eq_true', and_imp]
    exact forall_names_iff (fun name => isBuiltinScalar name = false →
      Source.isKeyword name = false) schema.perm_names_scalars
  rw [List.forall_mem_cons, List.forall_mem_cons, List.forall_mem_singleton,
    legal_enumsText_iff known enumsMade, legal_inputsText_iff known inputsMade,
    legal_scalarsText_iff known, enums, inputs, scalars, Schema.declaredNames,
    List.forall_mem_append, List.forall_mem_append, and_assoc]

theorem placed_legal_exact_catalog :
    ∃ files enums inputs scalars,
      Binding.generate catalog.collect = .ok files ∧
      files = [.render enumsFile enums, .render inputsFile inputs, .render scalarsFile scalars] ∧
      ∀ text ∈ [enums, inputs, scalars], ∀ entry ∈ placed text, Naming.Legal entry.name := by
  have sound : catalog.collect.Sound := sound_collect (by decide +kernel) (by decide +kernel)
  obtain ⟨files, made⟩ := (generate_decided catalog.collect).ok_iff.mpr sound
  obtain ⟨enums, inputs, scalars, _, _, _, rendered, _, legal⟩ :=
    placed_legal_exact (by decide +kernel) made
  exact ⟨files, enums, inputs, scalars, made, rendered, legal.mpr (by decide +kernel)⟩

-- An enum that is called by a keyword is declared by that word all the same.
theorem keyword_declared :
    ∃ files enums, Binding.generate (trio "type" "Item" "Date").collect = .ok files ∧
      enumsText (trio "type" "Item" "Date").collect = .ok enums ∧ .render enumsFile enums ∈ files ∧
      ⟨.type, "type"⟩ ∈ placed enums ∧ ¬Naming.Legal "type" := by
  have named : (trio "type" "Item" "Date").collect.Named := Schema.named_collect (by decide +kernel)
  have sound : (trio "type" "Item" "Date").collect.Sound :=
    sound_collect (by decide +kernel) (by decide +kernel)
  have enumsMade := enumsText_sound sound.enums
  have declared : "type" ∈ (trio "type" "Item" "Date").collect.enums.map (·.name) :=
    (Schema.perm_names_enums _).mem_iff.mpr (by decide +kernel)
  obtain ⟨decl, inside, same⟩ := List.mem_map.mp declared
  refine ⟨_, _, generate_sound sound, enumsMade, List.mem_cons_self .., ?_, fun legal => ?_⟩
  · rw [placed_enumsText named enumsMade, List.mem_append, List.mem_flatMap]
    exact .inr ⟨decl, inside, same ▸ List.mem_cons_self ..⟩
  · have name : Naming.IsName "type" := by decide +kernel
    exact absurd (name.legal_iff.mp legal) (by decide +kernel)

end Generation
end SchemaBindings
