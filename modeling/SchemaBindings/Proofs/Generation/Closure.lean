import SchemaBindings.Proofs.Binding.Declared
import SchemaBindings.Proofs.Collection
import SchemaBindings.Proofs.Introspection.Writing

namespace SchemaBindings

namespace Binding

-- The builtin scalars, each with the type that stands for it.
def primitives : List (String × String) :=
  [("String", "String"), ("Int", "i32"), ("Float", "f64"), ("Boolean", "bool")]

def primitive? (name : String) : Option String := primitives.lookup name

-- The emission of scalars leaves out those of the table, and the resolution maps the same ones.
theorem isBuiltinScalar_eq (name : String) : isBuiltinScalar name = (primitive? name).isSome := by
  simp only [isBuiltinScalar, primitive?, primitives, List.lookup_cons, List.lookup_nil]
  cases name == "String" <;> cases name == "Int" <;> cases name == "Float" <;>
    cases name == "Boolean" <;> rfl

theorem boundName_eq (name : String) : boundName name = (primitive? name).getD name := by
  simp only [boundName, primitive?, primitives, List.lookup_cons, List.lookup_nil]
  by_cases text : name = "String"
  · subst text
    rfl
  · rw [beq_eq_false_iff_ne.mpr text]
    cases name == "Int" <;> cases name == "Float" <;> cases name == "Boolean" <;> rfl

end Binding

-- The type and its members have words for names, as the language of schemas asks for.
structure TypeDescriptor.Plain (type : TypeDescriptor) : Prop where
  name : Binding.IsWord type.name
  fields : ∀ field ∈ type.inputFields, Binding.IsWord field.name
  values : ∀ value ∈ type.enumValues, Binding.IsWord value.name

instance (type : TypeDescriptor) : Decidable type.Plain :=
  decidable_of_iff (Binding.IsWord type.name ∧
      (∀ field ∈ type.inputFields, Binding.IsWord field.name) ∧
      ∀ value ∈ type.enumValues, Binding.IsWord value.name)
    ⟨fun ⟨name, fields, values⟩ => ⟨name, fields, values⟩,
      fun ⟨name, fields, values⟩ => ⟨name, fields, values⟩⟩

namespace Schema

-- One type for each name, input records that refer to types of the schema as what they are, and
-- the names of the builtin scalars for scalars alone.
structure Linked (schema : Schema) : Prop where
  distinct : (schema.types.toList.map (·.name)).Nodup
  known : ∀ type ∈ schema.types.toList, type.kind = .inputObject → isInternal type.name = false →
    ∀ field ∈ type.inputFields, ∃ target ∈ schema.types.toList,
      field.type.leaf = (target.kind, target.name) ∧ isInternal target.name = false
  builtin : ∀ type ∈ schema.types.toList, (Binding.primitive? type.name).isSome → type.kind = .scalar

instance (schema : Schema) : Decidable schema.Linked :=
  decidable_of_iff ((schema.types.toList.map (·.name)).Nodup ∧
      (∀ type ∈ schema.types.toList, type.kind = .inputObject → isInternal type.name = false →
        ∀ field ∈ type.inputFields, ∃ target ∈ schema.types.toList,
          field.type.leaf = (target.kind, target.name) ∧ isInternal target.name = false) ∧
      ∀ type ∈ schema.types.toList, (Binding.primitive? type.name).isSome → type.kind = .scalar)
    ⟨fun ⟨distinct, known, builtin⟩ => ⟨distinct, known, builtin⟩,
      fun ⟨distinct, known, builtin⟩ => ⟨distinct, known, builtin⟩⟩

section Collected
variable {schema : Schema}

theorem plain_of_mem_enums (plain : ∀ type ∈ schema.types.toList, type.Plain) :
    ∀ decl ∈ schema.collect.enums, Binding.PlainEnum decl := by
  intro decl declared
  obtain ⟨type, inside, picked⟩ := List.mem_filterMap.mp (mem_sortByName.mp declared)
  have its := plain type (mem_ownTypes.mp inside).1
  rw [TypeDescriptor.toEnum?] at picked
  split at picked
  · cases picked
    exact ⟨its.name, fun value there => (its.values value there).unbroken⟩
  · cases picked

theorem word_of_mem_scalars (plain : ∀ type ∈ schema.types.toList, type.Plain) :
    ∀ decl ∈ schema.collect.scalars, Binding.IsWord decl.name := by
  intro decl declared
  obtain ⟨type, inside, picked⟩ := List.mem_filterMap.mp (mem_sortByName.mp declared)
  rw [TypeDescriptor.name_of_toScalar? picked]
  exact (plain type (mem_ownTypes.mp inside).1).name

-- The fields of a record are those of its type, whatever the order.
theorem exists_type_of_mem_inputs (declared : decl ∈ schema.collect.inputs) :
    ∃ type ∈ schema.ownTypes, type.kind = .inputObject ∧ decl.name = type.name ∧
      ∀ field ∈ decl.fields, field ∈ type.inputFields := by
  obtain ⟨type, inside, picked⟩ := List.mem_filterMap.mp (mem_sortByName.mp declared)
  rw [TypeDescriptor.toInput?] at picked
  split at picked
  · rename_i record
    cases picked
    refine ⟨type, inside, record, rfl, fun field there => ?_⟩
    rcases List.mem_append.mp there with required | optional
    · exact List.mem_of_mem_filter required
    · exact List.mem_of_mem_filter optional
  · cases picked

theorem Linked.target_of_field (linked : schema.Linked) (declared : decl ∈ schema.collect.inputs)
    (there : field ∈ decl.fields) :
    ∃ target ∈ schema.ownTypes, field.type.leaf = (target.kind, target.name) := by
  obtain ⟨type, inside, record, _, fields⟩ := exists_type_of_mem_inputs declared
  obtain ⟨known, own⟩ := mem_ownTypes.mp inside
  obtain ⟨target, present, leaf, others⟩ :=
    linked.known type known record own field (fields field there)
  exact ⟨target, mem_ownTypes.mpr ⟨present, others⟩, leaf⟩

theorem plain_of_mem_inputs (linked : schema.Linked)
    (plain : ∀ type ∈ schema.types.toList, type.Plain) :
    ∀ decl ∈ schema.collect.inputs, Binding.PlainInput decl := by
  intro decl declared
  obtain ⟨type, inside, _, name, fields⟩ := exists_type_of_mem_inputs declared
  have its := plain type (mem_ownTypes.mp inside).1
  refine ⟨name ▸ its.name, fun field there => ⟨(its.fields field (fields field there)).unbroken, ?_⟩⟩
  obtain ⟨target, known, leaf⟩ := linked.target_of_field declared there
  rw [leaf]
  exact (plain target (mem_ownTypes.mp known).1).name.unbroken

-- The names that are declared: all enums, all input records, and the scalars that have no type of
-- their own.
def declaredNames (schema : Schema) : List String :=
  schema.namesOf .enumeration ++ schema.namesOf .inputObject ++
    (schema.namesOf .scalar).filter fun name => !Binding.isBuiltinScalar name

theorem Linked.nodup_declaredNames (linked : schema.Linked) : schema.declaredNames.Nodup := by
  have each := nodup_namesOf linked.distinct
  refine ((each .enumeration).append (each .inputObject)
    (disjoint_namesOf linked.distinct (by decide))).append ((each .scalar).filter _) ?_
  intro name first second
  have last := List.mem_of_mem_filter second
  rcases List.mem_append.mp first with early | early
  · exact disjoint_namesOf linked.distinct (by decide) early last
  · exact disjoint_namesOf linked.distinct (by decide) early last

-- Whatever may stand at the leaf of a field is builtin or has its declaration.
theorem mem_declaredNames (inside : type ∈ schema.ownTypes) (input : type.kind.isInput = true)
    (other : Binding.primitive? type.name = none) : type.name ∈ schema.declaredNames := by
  have here : type.name ∈ schema.namesOf type.kind := mem_namesOf.mpr ⟨type, inside, rfl, rfl⟩
  rw [declaredNames, List.mem_append, List.mem_append]
  cases kind : type.kind <;> rw [kind] at input here
  case enumeration => exact .inl (.inl here)
  case inputObject => exact .inl (.inr here)
  case scalar =>
    refine .inr (List.mem_filter.mpr ⟨here, ?_⟩)
    rw [Binding.isBuiltinScalar_eq, other]
    rfl
  all_goals cases input

-- What the three texts declare, whatever the order of their declarations.
theorem Linked.perm_declared (linked : schema.Linked)
    (plain : ∀ type ∈ schema.types.toList, type.Plain)
    (enumsMade : Binding.enumsText schema.collect = .ok enums)
    (inputsMade : Binding.inputsText schema.collect = .ok inputs) :
    (Binding.declaredNames enums ++ Binding.declaredNames inputs ++
      Binding.declaredNames (Binding.scalarsText schema.collect)).Perm schema.declaredNames := by
  rw [Binding.declaredNames_enumsText_plain enumsMade (plain_of_mem_enums plain),
    Binding.declaredNames_inputsText_plain inputsMade (plain_of_mem_inputs linked plain),
    Binding.declaredNames_scalarsText_plain (word_of_mem_scalars plain)]
  have scalars := (perm_names_scalars schema).filter fun name => !Binding.isBuiltinScalar name
  rw [List.filter_map] at scalars
  exact ((perm_names_enums schema).append (perm_names_inputs schema)).append scalars

theorem Linked.declared_or_primitive (linked : schema.Linked)
    (plain : ∀ type ∈ schema.types.toList, type.Plain)
    (enumsMade : Binding.enumsText schema.collect = .ok enums)
    (inputsMade : Binding.inputsText schema.collect = .ok inputs)
    (declared : decl ∈ schema.collect.inputs) (there : field ∈ decl.fields) :
    field.type.leaf.1 = .scalar ∧
        Binding.primitive? field.type.leaf.2 = some (Binding.boundName field.type.leaf.2) ∨
      (Binding.declaredNames enums ++ Binding.declaredNames inputs ++
        Binding.declaredNames (Binding.scalarsText schema.collect)).count
          (Binding.boundName field.type.leaf.2) = 1 := by
  obtain ⟨target, own, leaf⟩ := linked.target_of_field declared there
  have sound := (Binding.inputsText_decided schema.collect).ok_iff.mp ⟨inputs, inputsMade⟩
  have input := ((sound decl declared).bindable field there).supported
  rw [leaf] at input ⊢
  rw [Binding.boundName_eq]
  cases known : Binding.primitive? target.name with
  | some primitive =>
    exact .inl ⟨linked.builtin target (mem_ownTypes.mp own).1 (by rw [known]; rfl), rfl⟩
  | none =>
    right
    rw [(linked.perm_declared plain enumsMade inputsMade).count_eq, Option.getD_none]
    exact List.count_eq_one_of_mem linked.nodup_declaredNames (mem_declaredNames own input known)

-- The scalars without a declaration are those of the table.
theorem skipped_iff (plain : ∀ type ∈ schema.types.toList, type.Plain)
    (declared : decl ∈ schema.collect.scalars) :
    decl.name ∉ Binding.declaredNames (Binding.scalarsText schema.collect) ↔
      ∃ primitive, Binding.primitive? decl.name = some primitive := by
  rw [Binding.declaredNames_scalarsText_plain (word_of_mem_scalars plain), ← Option.isSome_iff_exists,
    ← Binding.isBuiltinScalar_eq]
  constructor
  · intro skipped
    cases builtin : Binding.isBuiltinScalar decl.name with
    | true => rfl
    | false =>
      refine (skipped (List.mem_map_of_mem (List.mem_filter.mpr ⟨declared, ?_⟩))).elim
      rw [builtin]
      rfl
  · intro builtin inside
    obtain ⟨other, there, same⟩ := List.mem_map.mp inside
    have kept := (List.mem_filter.mp there).2
    rw [same, builtin] at kept
    cases kept

end Collected
end Schema

namespace Generation
open Binding

-- In the three texts every reference of a field is the type of a builtin scalar or has exactly one
-- declaration, and the scalars that are left out are those that are resolved to such a type.
theorem references_declared_once {schema : Schema} (linked : schema.Linked)
    (plain : ∀ type ∈ schema.types.toList, type.Plain)
    (made : Binding.generate schema.collect = .ok files) :
    ∃ enums inputs scalars,
      enumsText schema.collect = .ok enums ∧ inputsText schema.collect = .ok inputs ∧
      scalarsText schema.collect = scalars ∧
      files = [.render enumsFile enums, .render inputsFile inputs, .render scalarsFile scalars] ∧
      (∀ decl ∈ schema.collect.inputs, ∀ field ∈ decl.fields, ∃ identifier type,
        fieldType decl.name field = .ok type ∧
        Contains inputs (inputFieldLines field identifier type) ∧
        (field.type.leaf.1 = .scalar ∧
            primitive? field.type.leaf.2 = some type.expr.leafName ∨
          (declaredNames enums ++ declaredNames inputs ++ declaredNames scalars).count
            type.expr.leafName = 1)) ∧
      ∀ decl ∈ schema.collect.scalars, decl.name ∉ declaredNames scalars ↔
        ∃ primitive, primitive? decl.name = some primitive ∧
          ∀ owner field type, field.type.leaf.2 = decl.name →
            fieldType owner field = .ok type → type.expr.leafName = primitive := by
  have sound := (generate_decided schema.collect).ok_iff.mp ⟨files, made⟩
  have enumsMade := enumsText_sound sound.enums
  have inputsMade := inputsText_sound sound.inputs
  rw [generate_sound sound] at made
  cases made
  refine ⟨_, _, _, enumsMade, inputsMade, rfl, rfl, fun decl declared field there => ?_,
    fun decl declared => ?_⟩
  · have bindable := (sound.inputs decl declared).bindable field there
    refine ⟨_, _, fieldType_bindable bindable decl.name,
      contains_fieldBlock inputsMade declared there, ?_⟩
    rw [leafName_boundField]
    exact linked.declared_or_primitive plain enumsMade inputsMade declared there
  · rw [Schema.skipped_iff plain declared]
    refine exists_congr fun primitive => (and_iff_left_of_imp fun known => ?_).symm
    intro owner field type leaf resolved
    rw [leafName_of_fieldType resolved, leaf, boundName_eq, known, Option.getD_some]

-- Nothing is wrong with what is collected if nothing is wrong with any type.
theorem sound_collect {schema : Schema}
    (enums : ∀ decl ∈ schema.ownTypes.filterMap (·.toEnum?), decl.Sound)
    (inputs : ∀ decl ∈ schema.ownTypes.filterMap (·.toInput?), decl.Sound) :
    schema.collect.Sound :=
  ⟨fun decl declared => enums decl (mem_sortByName.mp declared),
    fun decl declared => inputs decl (mem_sortByName.mp declared)⟩

def scalarType (name : String) : TypeDescriptor :=
  { kind := .scalar, name, description := none, fields := [], inputFields := [], enumValues := [] }

def itemType : TypeDescriptor :=
  { kind := .inputObject, name := "Item", description := none, fields := []
    inputFields := [
      ⟨"price", none, .nonNull (.named .scalar "Float")⟩, ⟨"madeOn", none, .named .scalar "Date"⟩,
      ⟨"color", none, .named .enumeration "Color"⟩, ⟨"owner", none, .named .inputObject "Owner"⟩]
    enumValues := [] }

-- Every kind of type that a field may refer to, and one type that is not collected.
def catalog : Schema := .assemble none none none [
  itemType,
  { kind := .inputObject, name := "Owner", description := none, fields := []
    inputFields := [⟨"items", none, .list (.nonNull (.named .inputObject "Item"))⟩]
    enumValues := [] },
  { kind := .enumeration, name := "Color", description := none, fields := [], inputFields := []
    enumValues := [⟨"RED", none, false⟩, ⟨"DARK_RED", none, true⟩] },
  scalarType "Float", scalarType "Date",
  { kind := .object, name := "__Type", description := none, fields := [], inputFields := []
    enumValues := [] }]

theorem references_declared_once_catalog :
    catalog.Linked ∧ (∀ type ∈ catalog.types.toList, type.Plain) ∧
    ∃ files enums inputs scalars,
      Binding.generate catalog.collect = .ok files ∧
      files = [.render enumsFile enums, .render inputsFile inputs, .render scalarsFile scalars] ∧
      (declaredNames enums ++ declaredNames inputs ++ declaredNames scalars).count "Owner" = 1 ∧
      "Float" ∉ declaredNames scalars := by
  have linked : catalog.Linked := by decide +kernel
  have plain : ∀ type ∈ catalog.types.toList, type.Plain := by decide +kernel
  have sound : catalog.collect.Sound := sound_collect (by decide +kernel) (by decide +kernel)
  obtain ⟨files, made⟩ := (generate_decided catalog.collect).ok_iff.mpr sound
  obtain ⟨enums, inputs, scalars, _, _, _, rendered, references, skipped⟩ :=
    references_declared_once linked plain made
  have declared : ∀ decl ∈ itemType.toInput?, decl ∈ catalog.collect.inputs := fun decl picked =>
    mem_sortByName.mpr (List.mem_filterMap.mpr ⟨itemType, by decide +kernel, picked⟩)
  have float : (⟨"Float", none⟩ : ScalarDecl) ∈ catalog.collect.scalars :=
    mem_sortByName.mpr (by decide +kernel)
  refine ⟨linked, plain, files, enums, inputs, scalars, made, rendered, ?_, ?_⟩
  · obtain ⟨_, type, resolved, _, reference⟩ := references _ (declared _ rfl)
      ⟨"owner", none, .named .inputObject "Owner"⟩ (by decide +kernel)
    cases resolved
    rcases reference with ⟨scalar, _⟩ | once
    · cases scalar
    · exact once
  · refine (skipped _ float).mpr ⟨"f64", rfl, fun _ field type leaf resolved => ?_⟩
    rw [leafName_of_fieldType resolved, leaf]
    rfl

-- A record with one field, of the scalar `b`.
def recordOf (name : String) : InputDecl :=
  { name := "R", description := none, required := []
    optional := [⟨name, none, .named .scalar "b"⟩] }

def referringType (name : String) : TypeDescriptor :=
  { kind := .inputObject, name := "R", description := none, fields := []
    inputFields := [⟨name, none, .named .scalar "b"⟩], enumValues := [] }

-- A name that closes its record, declares `b` and opens another record for the type that follows.
def closingField : String := "x: u8 \x7d\npub type b = u8;\npub struct z \x7b y"

-- A name that closes its enumeration, declares `b` and opens a function. The text from here to
-- where the name comes again becomes a literal, and what follows there closes the function.
def closingValue : String :=
  "x \x7d\npub type b = u8;\nfn z(s: &str) \x7b \x7b match s \x7b t => t, \""

def brokenEnum : EnumDecl :=
  { name := "E", description := none, values := [⟨closingValue, none, false⟩] }

-- Names are put into the texts as they are. The name of a type may go on behind the name of another
-- one, and names of fields and values may end the declaration that they are in and bring others.
def commented : Schema :=
  .assemble none none none [referringType "b", scalarType "b", scalarType "b = u8; //"]

def brokenField : Schema := .assemble none none none [referringType closingField, scalarType "b"]

def brokenValue : Schema := .assemble none none none [
  referringType "b", scalarType "b",
  { kind := .enumeration, name := "E", description := none, fields := [], inputFields := []
    enumValues := brokenEnum.values }]

-- What the texts declare, in the order of the types.
def readNames (schema : Schema) : List String :=
  ((schema.ownTypes.filterMap (·.toEnum?)).flatMap fun decl => namesIn (enumBlock decl)) ++
  ((schema.ownTypes.filterMap (·.toInput?)).flatMap fun decl => namesIn (inputBlock decl)) ++
  (((schema.ownTypes.filterMap (·.toScalar?)).filter fun decl =>
    !isBuiltinScalar decl.name).flatMap fun decl => namesIn (scalarLines decl))

theorem perm_readNames {schema : Schema} (enumsMade : enumsText schema.collect = .ok enums)
    (inputsMade : inputsText schema.collect = .ok inputs)
    (words : ∀ decl ∈ schema.ownTypes.filterMap (·.toInput?), IsWord decl.name) :
    (declaredNames enums ++ declaredNames inputs ++
      declaredNames (scalarsText schema.collect)).Perm (readNames schema) := by
  rw [declaredNames_enumsText enumsMade, declaredNames_scalarsText,
    declaredNames_inputsText inputsMade fun decl declared => words decl (mem_sortByName.mp declared)]
  exact (((List.mergeSort_perm _ _).flatMap_right _).append
    ((List.mergeSort_perm _ _).flatMap_right _)).append
      (((List.mergeSort_perm _ _).filter _).flatMap_right _)

-- Files come out, and yet a field refers to something that is not declared exactly once.
def Misdeclares (schema : Schema) : Prop :=
  (∃ files, Binding.generate schema.collect = .ok files) ∧
  ∃ enums inputs, enumsText schema.collect = .ok enums ∧ inputsText schema.collect = .ok inputs ∧
    ∃ decl ∈ schema.collect.inputs, ∃ field ∈ decl.fields, ∃ type,
      fieldType decl.name field = .ok type ∧ primitive? field.type.leaf.2 = none ∧
      (declaredNames enums ++ declaredNames inputs ++
        declaredNames (scalarsText schema.collect)).count type.expr.leafName ≠ 1

theorem misdeclares_of_readNames {schema : Schema} (sound : schema.collect.Sound)
    (own : referringType name ∈ schema.ownTypes)
    (words : ∀ decl ∈ schema.ownTypes.filterMap (·.toInput?), IsWord decl.name)
    (again : (readNames schema).count "b" ≠ 1) : Misdeclares schema := by
  have enumsMade := enumsText_sound sound.enums
  have inputsMade := inputsText_sound sound.inputs
  have declared : recordOf name ∈ schema.collect.inputs :=
    mem_sortByName.mpr (List.mem_filterMap.mpr ⟨referringType name, own, rfl⟩)
  refine ⟨(generate_decided _).ok_iff.mpr sound, _, _, enumsMade, inputsMade, _, declared, _,
    List.mem_singleton_self _, _, rfl, rfl, ?_⟩
  rw [(perm_readNames enumsMade inputsMade words).count_eq]
  exact again

theorem namesIn_recordOf (name : String) :
    namesIn (inputBlock (recordOf name)) =
      "R" :: namesIn (fieldBlock ⟨name, none, .named .scalar "b"⟩) := by
  have word : IsWord "R" := by decide +kernel
  rw [namesIn_inputBlock word]
  exact congrArg _ (congrArg namesIn (List.append_nil _))

theorem namesIn_recordOf_b : namesIn (inputBlock (recordOf "b")) = ["R"] := by
  rw [namesIn_recordOf, namesIn_quiet (quiet_fieldBlock ⟨by decide +kernel, by decide +kernel⟩)]

theorem namesIn_scalar_b : namesIn (scalarLines ⟨"b", none⟩) = ["b"] :=
  namesIn_scalarLines (by decide +kernel)

theorem readNames_commented : readNames commented = ["R", "b", "b"] := by
  have enums : commented.ownTypes.filterMap (·.toEnum?) = [] := by decide +kernel
  have inputs : commented.ownTypes.filterMap (·.toInput?) = [recordOf "b"] := by decide +kernel
  have scalars : (commented.ownTypes.filterMap (·.toScalar?)).filter
      (fun decl => !isBuiltinScalar decl.name) = [⟨"b", none⟩, ⟨"b = u8; //", none⟩] := by
    decide +kernel
  have again : namesIn (scalarLines ⟨"b = u8; //", none⟩) = ["b"] := by decide +kernel
  simp only [readNames, enums, inputs, scalars, List.flatMap_cons, List.flatMap_nil,
    namesIn_recordOf_b, namesIn_scalar_b, again]
  rfl

theorem readNames_brokenField : readNames brokenField = ["R", "b", "z", "b"] := by
  have enums : brokenField.ownTypes.filterMap (·.toEnum?) = [] := by decide +kernel
  have inputs : brokenField.ownTypes.filterMap (·.toInput?) = [recordOf closingField] := by
    decide +kernel
  have scalars : (brokenField.ownTypes.filterMap (·.toScalar?)).filter
      (fun decl => !isBuiltinScalar decl.name) = [⟨"b", none⟩] := by decide +kernel
  have again : namesIn (fieldBlock ⟨closingField, none, .named .scalar "b"⟩) = ["b", "z"] := by
    decide +kernel
  simp only [readNames, enums, inputs, scalars, List.flatMap_cons, List.flatMap_nil,
    namesIn_recordOf, namesIn_scalar_b, again]
  rfl

theorem readNames_brokenValue : readNames brokenValue = ["E", "b", "b", "R", "b"] := by
  have enums : brokenValue.ownTypes.filterMap (·.toEnum?) = [brokenEnum] := by decide +kernel
  have inputs : brokenValue.ownTypes.filterMap (·.toInput?) = [recordOf "b"] := by decide +kernel
  have scalars : (brokenValue.ownTypes.filterMap (·.toScalar?)).filter
      (fun decl => !isBuiltinScalar decl.name) = [⟨"b", none⟩] := by decide +kernel
  have word : IsWord brokenEnum.name := by decide +kernel
  have variant : namesIn (brokenEnum.values.flatMap (variantBlock brokenEnum.name)) = ["b"] := by
    decide +kernel
  have arm : namesIn (brokenEnum.values.map (valueArm brokenEnum.name)) = ["b"] := by
    decide +kernel
  simp only [readNames, enums, inputs, scalars, List.flatMap_cons, List.flatMap_nil,
    namesIn_enumBlock word, variant, arm, namesIn_recordOf_b, namesIn_scalar_b]
  rfl

theorem names_declare_again :
    (commented.Linked ∧ Misdeclares commented) ∧ (brokenField.Linked ∧ Misdeclares brokenField) ∧
    (brokenValue.Linked ∧ Misdeclares brokenValue) := by
  refine ⟨⟨by decide +kernel, ?_⟩, ⟨by decide +kernel, ?_⟩, by decide +kernel, ?_⟩
  · have sound : commented.collect.Sound := sound_collect (by decide +kernel) (by decide +kernel)
    have own : referringType "b" ∈ commented.ownTypes := by decide +kernel
    exact misdeclares_of_readNames sound own (by decide +kernel)
      (by rw [readNames_commented]; decide)
  · have sound : brokenField.collect.Sound := sound_collect (by decide +kernel) (by decide +kernel)
    have own : referringType closingField ∈ brokenField.ownTypes := by decide +kernel
    exact misdeclares_of_readNames sound own (by decide +kernel)
      (by rw [readNames_brokenField]; decide)
  · have sound : brokenValue.collect.Sound := sound_collect (by decide +kernel) (by decide +kernel)
    have own : referringType "b" ∈ brokenValue.ownTypes := by decide +kernel
    exact misdeclares_of_readNames sound own (by decide +kernel)
      (by rw [readNames_brokenValue]; decide)

end Generation
end SchemaBindings
