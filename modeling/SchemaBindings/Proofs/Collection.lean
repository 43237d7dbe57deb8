import Mathlib.Data.List.Lex
import Mathlib.Data.List.Nodup
import SchemaBindings.Schema

namespace SchemaBindings

section Sorting
variable {name : α → String} {decls others : List α}

theorem pairwise_sortByName (name : α → String) (decls : List α) :
    (sortByName name decls).Pairwise fun a b => name a ≤ name b := by
  have sorted : (sortByName name decls).Pairwise fun a b => decide (name a ≤ name b) = true :=
    List.pairwise_mergeSort
      (fun a b c first second => by
        simp only [decide_eq_true_eq] at first second ⊢
        exact String.le_trans first second)
      (fun a b => by simpa using String.le_total (name a) (name b)) decls
  exact sorted.imp of_decide_eq_true

-- With one declaration for each name there is only one order of the names.
theorem sortByName_eq_of_perm (perm : decls.Perm others) (distinct : (decls.map name).Nodup) :
    sortByName name decls = sortByName name others := by
  have same : (sortByName name decls).Perm (sortByName name others) :=
    (List.mergeSort_perm _ _).trans (perm.trans (List.mergeSort_perm _ _).symm)
  refine List.Perm.eq_of_pairwise (fun a b left right first second => ?_)
    (pairwise_sortByName name decls) (pairwise_sortByName name others) same
  have here : a ∈ decls := (List.mergeSort_perm _ _).mem_iff.mp left
  have there : b ∈ decls := perm.mem_iff.mpr ((List.mergeSort_perm _ _).mem_iff.mp right)
  exact List.inj_on_of_nodup_map distinct here there (String.le_antisymm first second)

theorem mem_sortByName : decl ∈ sortByName name decls ↔ decl ∈ decls :=
  (List.mergeSort_perm _ _).mem_iff

-- One list is the other with a declaration put in where its name belongs.
def Inserted (name : α → String) (decl : α) (decls grown : List α) : Prop :=
  ∃ front behind, decls = front ++ behind ∧ grown = front ++ decl :: behind ∧
    (∀ other ∈ front, name other < name decl) ∧ ∀ other ∈ behind, name decl < name other

theorem inserted_sortByName (perm : others.Perm (decl :: decls))
    (distinct : (others.map name).Nodup) :
    Inserted name decl (sortByName name decls) (sortByName name others) := by
  have there : decl ∈ sortByName name others :=
    mem_sortByName.mpr (perm.mem_iff.mpr (List.mem_cons_self ..))
  obtain ⟨front, behind, split⟩ := List.append_of_mem there
  have whole : (front ++ decl :: behind).Perm others := split ▸ List.mergeSort_perm _ _
  have rest : (front ++ behind).Perm decls :=
    (List.perm_middle.symm.trans (whole.trans perm)).cons_inv
  have sorted : (front ++ decl :: behind).Pairwise fun a b => name a ≤ name b :=
    split ▸ pairwise_sortByName name others
  have apart : (front ++ decl :: behind).Pairwise fun a b => name a ≠ name b :=
    List.pairwise_map.mp ((whole.map name).nodup_iff.mpr distinct)
  have strict : (front ++ decl :: behind).Pairwise fun a b => name a < name b :=
    sorted.imp₂ (fun _ _ below other =>
      String.not_le.mp fun above => other (String.le_antisymm below above)) apart
  obtain ⟨_, later, across⟩ := List.pairwise_append.mp strict
  -- Without the new declaration the list is still sorted, and it has the old ones in it.
  have old : sortByName name decls = front ++ behind := by
    have kept : (front ++ behind).Sublist (front ++ decl :: behind) :=
      (List.sublist_cons_self decl behind).append_left front
    have unsorted : ((front ++ behind).map name).Nodup :=
      List.pairwise_map.mpr (apart.sublist kept)
    rw [← sortByName_eq_of_perm rest unsorted]
    exact List.mergeSort_of_pairwise ((sorted.sublist kept).imp decide_eq_true)
  exact ⟨front, behind, old, split, fun other before => across other before decl (List.mem_cons_self ..),
    (List.pairwise_cons.mp later).1⟩

theorem Inserted.map {f : α → β} (key : β → String) (keeps : ∀ a, key (f a) = name a)
    (inserted : Inserted name decl decls grown) :
    Inserted key (f decl) (decls.map f) (grown.map f) := by
  obtain ⟨front, behind, rfl, rfl, before, after⟩ := inserted
  refine ⟨front.map f, behind.map f, List.map_append, by simp, ?_, ?_⟩
  · simpa [keeps] using before
  · simpa [keeps] using after

theorem Inserted.filter {keep : α → Bool} (kept : keep decl = true)
    (inserted : Inserted name decl decls grown) :
    Inserted name decl (decls.filter keep) (grown.filter keep) := by
  obtain ⟨front, behind, rfl, rfl, before, after⟩ := inserted
  refine ⟨front.filter keep, behind.filter keep, List.filter_append .., ?_,
    fun other inside => before other (List.mem_of_mem_filter inside),
    fun other inside => after other (List.mem_of_mem_filter inside)⟩
  rw [List.filter_append, List.filter_cons_of_pos kept]

theorem Inserted.filter_eq {keep : α → Bool} (dropped : keep decl = false)
    (inserted : Inserted name decl decls grown) : grown.filter keep = decls.filter keep := by
  obtain ⟨front, behind, rfl, rfl, _⟩ := inserted
  rw [List.filter_append, List.filter_append, List.filter_cons_of_neg (by simp [dropped])]

end Sorting

-- A sort of declarations is picked from types and keeps their names.
theorem nodup_names_filterMap {types : List TypeDescriptor} {name : α → String}
    {pick : TypeDescriptor → Option α}
    (keeps : ∀ type decl, pick type = some decl → name decl = type.name)
    (distinct : (types.map (·.name)).Nodup) : ((types.filterMap pick).map name).Nodup := by
  rw [List.Nodup, List.pairwise_map, List.pairwise_filterMap]
  refine (List.pairwise_map.mp distinct).imp fun apart decl picked other chosen same => apart ?_
  rw [← keeps _ decl picked, ← keeps _ other chosen, same]

theorem sortByName_filterMap_eq_of_perm {types others : List TypeDescriptor} {name : α → String}
    {pick : TypeDescriptor → Option α}
    (keeps : ∀ type decl, pick type = some decl → name decl = type.name)
    (perm : types.Perm others) (distinct : (types.map (·.name)).Nodup) :
    sortByName name (types.filterMap pick) = sortByName name (others.filterMap pick) :=
  sortByName_eq_of_perm (perm.filterMap pick) (nodup_names_filterMap keeps distinct)

namespace TypeDescriptor
variable {type : TypeDescriptor}

theorem name_of_toEnum? (picked : type.toEnum? = some decl) : decl.name = type.name := by
  rw [toEnum?] at picked
  split at picked
  · cases picked; rfl
  · cases picked

theorem name_of_toInput? (picked : type.toInput? = some decl) : decl.name = type.name := by
  rw [toInput?] at picked
  split at picked
  · cases picked; rfl
  · cases picked

theorem name_of_toScalar? (picked : type.toScalar? = some decl) : decl.name = type.name := by
  rw [toScalar?] at picked
  split at picked
  · cases picked; rfl
  · cases picked

end TypeDescriptor

theorem Schema.collect_eq_of_perm {first second : Schema}
    (perm : first.types.toList.Perm second.types.toList)
    (distinct : (first.types.toList.map (·.name)).Nodup) : first.collect = second.collect := by
  have own : first.ownTypes.Perm second.ownTypes := perm.filter _
  have apart : (first.ownTypes.map (·.name)).Nodup :=
    distinct.sublist (List.filter_sublist.map _)
  rw [collect, collect,
    sortByName_filterMap_eq_of_perm (fun _ _ => TypeDescriptor.name_of_toEnum?) own apart,
    sortByName_filterMap_eq_of_perm (fun _ _ => TypeDescriptor.name_of_toInput?) own apart,
    sortByName_filterMap_eq_of_perm (fun _ _ => TypeDescriptor.name_of_toScalar?) own apart]

-- The types of one kind, without those that describe the type system.
def Schema.namesOf (schema : Schema) (kind : Kind) : List String :=
  (schema.ownTypes.filter fun type => decide (type.kind = kind)).map (·.name)

theorem names_filterMap {name : α → String} {pick : TypeDescriptor → Option α} {kind : Kind}
    (picks : ∀ type, (pick type).map name = if type.kind = kind then some type.name else none)
    (types : List TypeDescriptor) :
    (types.filterMap pick).map name =
      (types.filter fun type => decide (type.kind = kind)).map (·.name) := by
  induction types with
  | nil => rfl
  | cons type rest ih =>
    have first := picks type
    by_cases right : type.kind = kind
    · rw [if_pos right] at first
      obtain ⟨decl, picked, its⟩ := Option.map_eq_some_iff.mp first
      rw [List.filterMap_cons_some picked, List.filter_cons_of_pos (by simpa using right),
        List.map_cons, List.map_cons, its, ih]
    · rw [if_neg right, Option.map_eq_none_iff] at first
      rw [List.filterMap_cons_none first, List.filter_cons_of_neg (by simpa using right), ih]

namespace Schema
variable {schema : Schema} {kind : Kind}

theorem perm_names_enums (schema : Schema) :
    (schema.collect.enums.map (·.name)).Perm (schema.namesOf .enumeration) := by
  have names : (schema.ownTypes.filterMap (·.toEnum?)).map (·.name) = schema.namesOf .enumeration :=
    names_filterMap (fun type => by rw [TypeDescriptor.toEnum?]; split <;> rfl) schema.ownTypes
  rw [← names]
  exact (List.mergeSort_perm _ _).map _

theorem perm_names_inputs (schema : Schema) :
    (schema.collect.inputs.map (·.name)).Perm (schema.namesOf .inputObject) := by
  have names : (schema.ownTypes.filterMap (·.toInput?)).map (·.name) = schema.namesOf .inputObject :=
    names_filterMap (fun type => by rw [TypeDescriptor.toInput?]; split <;> rfl) schema.ownTypes
  rw [← names]
  exact (List.mergeSort_perm _ _).map _

theorem perm_names_scalars (schema : Schema) :
    (schema.collect.scalars.map (·.name)).Perm (schema.namesOf .scalar) := by
  have names : (schema.ownTypes.filterMap (·.toScalar?)).map (·.name) = schema.namesOf .scalar :=
    names_filterMap (fun type => by rw [TypeDescriptor.toScalar?]; split <;> rfl) schema.ownTypes
  rw [← names]
  exact (List.mergeSort_perm _ _).map _

theorem mem_ownTypes :
    type ∈ schema.ownTypes ↔ type ∈ schema.types.toList ∧ isInternal type.name = false := by
  rw [ownTypes, List.mem_filter, Bool.not_eq_true']

theorem mem_namesOf :
    name ∈ schema.namesOf kind ↔ ∃ type ∈ schema.ownTypes, type.kind = kind ∧ type.name = name := by
  simp only [namesOf, List.mem_map, List.mem_filter, decide_eq_true_eq, and_assoc]

theorem nodup_names_ownTypes (distinct : (schema.types.toList.map (·.name)).Nodup) :
    (schema.ownTypes.map (·.name)).Nodup :=
  distinct.sublist (List.filter_sublist.map _)

theorem nodup_namesOf (distinct : (schema.types.toList.map (·.name)).Nodup) (kind : Kind) :
    (schema.namesOf kind).Nodup :=
  (nodup_names_ownTypes distinct).sublist (List.filter_sublist.map _)

-- A name belongs to one type, and that type has one kind.
theorem disjoint_namesOf (distinct : (schema.types.toList.map (·.name)).Nodup)
    (apart : kind ≠ other) : (schema.namesOf kind).Disjoint (schema.namesOf other) := by
  intro name first second
  obtain ⟨type, inside, right, named⟩ := mem_namesOf.mp first
  obtain ⟨same, there, different, its⟩ := mem_namesOf.mp second
  have one : type = same :=
    List.inj_on_of_nodup_map (nodup_names_ownTypes distinct) inside there (named.trans its.symm)
  exact apart (by rw [← right, one, different])

end Schema

-- Names are compared character by character, and characters by their numbers.
def codePoints (name : String) : List Nat := name.toList.map (·.toNat)

section Names

theorem lex_codePoints (cs ds : List Char) :
    cs.map (·.toNat) < ds.map (·.toNat) ↔ cs < ds := by
  induction cs generalizing ds with
  | nil => cases ds <;> simp
  | cons c cs ih =>
    cases ds with
    | nil => simp
    | cons d ds =>
      have first : c.toNat < d.toNat ↔ c < d := Iff.rfl
      have same : c.toNat = d.toNat ↔ c = d := Char.toNat_inj
      simp only [List.map_cons, List.cons_lt_cons_iff, ih, first, same]

theorem codePoints_lt_iff {a b : String} : codePoints a < codePoints b ↔ a < b := by
  rw [codePoints, codePoints, lex_codePoints]
  exact Iff.rfl

theorem codePoints_le_iff {a b : String} : codePoints a ≤ codePoints b ↔ a ≤ b := by
  rw [← not_lt, codePoints_lt_iff, String.not_lt]

end Names

-- Each declaration is made of one type and each type gives one; types of one name keep their order.
structure Gathers (make : TypeDescriptor → α) (name : α → String) (types : List TypeDescriptor)
    (decls : List α) : Prop where
  perm : decls.Perm (types.map make)
  sorted : decls.Pairwise fun a b => codePoints (name a) ≤ codePoints (name b)
  stable : ∀ shared, (decls.filter fun decl => name decl == shared) =
    (types.filter fun type => type.name == shared).map make
  strict : (types.map (·.name)).Nodup →
    decls.Pairwise fun a b => codePoints (name a) < codePoints (name b)

section Ordering
variable {name : α → String}

-- Declarations of one name are in order as they stand, so sorting leaves them so.
theorem filter_sortByName (name : α → String) (decls : List α) (shared : String) :
    ((sortByName name decls).filter fun decl => name decl == shared) =
      decls.filter fun decl => name decl == shared := by
  have level : (decls.filter fun decl => name decl == shared).Pairwise
      fun a b => decide (name a ≤ name b) = true := by
    refine List.pairwise_of_forall_mem_list fun a left b right => ?_
    have first := eq_of_beq (List.mem_filter.mp left).2
    have second := eq_of_beq (List.mem_filter.mp right).2
    simp [first, second]
  have inside : (decls.filter fun decl => name decl == shared).Sublist (sortByName name decls) :=
    List.sublist_mergeSort
      (fun a b c first second => by
        simp only [decide_eq_true_eq] at first second ⊢
        exact String.le_trans first second)
      (fun a b => by simpa using String.le_total (name a) (name b)) level List.filter_sublist
  have count : (decls.filter fun decl => name decl == shared).length =
      ((sortByName name decls).filter fun decl => name decl == shared).length :=
    ((List.mergeSort_perm decls _).filter _).length_eq.symm
  have again := inside.filter fun decl => name decl == shared
  rw [List.filter_filter] at again
  simp only [Bool.and_self] at again
  exact (again.eq_of_length count).symm

theorem gathers_sortByName {make : TypeDescriptor → α}
    (keeps : ∀ type, name (make type) = type.name) (types : List TypeDescriptor) :
    Gathers make name types (sortByName name (types.map make)) := by
  have perm : (sortByName name (types.map make)).Perm (types.map make) := List.mergeSort_perm _ _
  have sorted := pairwise_sortByName name (types.map make)
  constructor
  case perm => exact perm
  case sorted => exact sorted.imp codePoints_le_iff.mpr
  case stable =>
    intro shared
    rw [filter_sortByName, List.filter_map]
    simp only [Function.comp_def, keeps]
  case strict =>
    intro distinct
    have names : ((sortByName name (types.map make)).map name).Nodup := by
      refine ((perm.map name).nodup_iff).mpr ?_
      simpa only [List.map_map, Function.comp_def, keeps] using distinct
    refine sorted.imp₂ (fun a b below apart => ?_) (List.pairwise_map.mp names)
    refine codePoints_lt_iff.mpr (String.not_le.mp fun above => ?_)
    exact apart (String.le_antisymm below above)

end Ordering

namespace TypeDescriptor

def enumDecl (type : TypeDescriptor) : EnumDecl where
  name := type.name
  description := type.description
  values := type.enumValues

def inputDecl (type : TypeDescriptor) : InputDecl where
  name := type.name
  description := type.description
  required := type.inputFields.filter (·.type.isNonNull)
  optional := type.inputFields.filter (!·.type.isNonNull)

def scalarDecl (type : TypeDescriptor) : ScalarDecl where
  name := type.name
  description := type.description

theorem toEnum?_eq (type : TypeDescriptor) :
    type.toEnum? = if type.kind = .enumeration then some type.enumDecl else none := rfl

theorem toInput?_eq (type : TypeDescriptor) :
    type.toInput? = if type.kind = .inputObject then some type.inputDecl else none := rfl

theorem toScalar?_eq (type : TypeDescriptor) :
    type.toScalar? = if type.kind = .scalar then some type.scalarDecl else none := rfl

end TypeDescriptor

theorem InputDecl.perm_fields (type : TypeDescriptor) :
    type.inputDecl.fields.Perm type.inputFields :=
  List.filter_append_perm (fun field : Field => field.type.isNonNull) type.inputFields

namespace Schema

-- The types of one kind whose names do not start with two underscores.
def selected (schema : Schema) (kind : Kind) : List TypeDescriptor :=
  schema.types.toList.filter fun type =>
    decide (type.kind = kind ∧ ¬['_', '_'] <+: type.name.toList)

theorem filterMap_ownTypes {pick : TypeDescriptor → Option α} {make : TypeDescriptor → α}
    {kind : Kind} (picks : ∀ type, pick type = if type.kind = kind then some (make type) else none)
    (schema : Schema) : schema.ownTypes.filterMap pick = (schema.selected kind).map make := by
  rw [ownTypes, selected]
  induction schema.types.toList with
  | nil => rfl
  | cons type rest ih =>
    by_cases own : ['_', '_'] <+: type.name.toList
    · have internal : isInternal type.name = true := by simpa [isInternal] using own
      rw [List.filter_cons_of_neg (by simp [internal]), List.filter_cons_of_neg (by simp [own]), ih]
    · have external : isInternal type.name = false := by
        simpa [isInternal, ← List.isPrefixOf_iff_prefix] using own
      rw [List.filter_cons_of_pos (by simp [external])]
      by_cases right : type.kind = kind
      · rw [List.filterMap_cons_some (by rw [picks, if_pos right]), ih,
          List.filter_cons_of_pos (by simp [right, own]), List.map_cons]
      · rw [List.filterMap_cons_none (by rw [picks, if_neg right]), ih,
          List.filter_cons_of_neg (by simp [right])]

theorem gathers_ownTypes {pick : TypeDescriptor → Option α} {make : TypeDescriptor → α}
    {name : α → String} {kind : Kind}
    (picks : ∀ type, pick type = if type.kind = kind then some (make type) else none)
    (keeps : ∀ type, name (make type) = type.name) (schema : Schema) :
    Gathers make name (schema.selected kind)
      (sortByName name (schema.ownTypes.filterMap pick)) := by
  rw [filterMap_ownTypes picks]
  exact gathers_sortByName keeps (schema.selected kind)

-- Whatever the schema holds, and however often a name comes in it.
theorem collect_gathers (schema : Schema) :
    Gathers TypeDescriptor.enumDecl EnumDecl.name (schema.selected .enumeration)
      schema.collect.enums ∧
    Gathers TypeDescriptor.inputDecl InputDecl.name (schema.selected .inputObject)
      schema.collect.inputs ∧
    Gathers TypeDescriptor.scalarDecl ScalarDecl.name (schema.selected .scalar)
      schema.collect.scalars ∧
    (∀ decl ∈ schema.collect.inputs, ∃ type ∈ schema.selected .inputObject,
      decl.name = type.name ∧ decl.description = type.description ∧
      decl.required = type.inputFields.filter (·.type.isNonNull) ∧
      decl.optional = type.inputFields.filter (!·.type.isNonNull) ∧
      decl.fields.Perm type.inputFields) ∧
    schema.collect.inputNames.Perm ((schema.selected .inputObject).map (·.name)) ∧
    schema.collect.inputNames.Pairwise fun a b => codePoints a ≤ codePoints b := by
  have enums : Gathers TypeDescriptor.enumDecl EnumDecl.name (schema.selected .enumeration)
      schema.collect.enums := gathers_ownTypes TypeDescriptor.toEnum?_eq (fun _ => rfl) schema
  have inputs : Gathers TypeDescriptor.inputDecl InputDecl.name (schema.selected .inputObject)
      schema.collect.inputs := gathers_ownTypes TypeDescriptor.toInput?_eq (fun _ => rfl) schema
  have scalars : Gathers TypeDescriptor.scalarDecl ScalarDecl.name (schema.selected .scalar)
      schema.collect.scalars := gathers_ownTypes TypeDescriptor.toScalar?_eq (fun _ => rfl) schema
  refine ⟨enums, inputs, scalars, ?_, ?_, ?_⟩
  · intro decl declared
    obtain ⟨type, inside, rfl⟩ := List.mem_map.mp (inputs.perm.mem_iff.mp declared)
    exact ⟨type, inside, rfl, rfl, rfl, rfl, InputDecl.perm_fields type⟩
  · have names := inputs.perm.map InputDecl.name
    rwa [List.map_map] at names
  · exact List.pairwise_map.mpr inputs.sorted

def hue (description : String) (values : List EnumValue) : TypeDescriptor where
  kind := .enumeration
  name := "Hue"
  description := description
  fields := []
  inputFields := []
  enumValues := values

def noteField : Field := ⟨"note", none, .named .scalar "String"⟩

def sizeField : Field := ⟨"size", none, .nonNull (.named .scalar "Int")⟩

def sheetType : TypeDescriptor where
  kind := .inputObject
  name := "Sheet"
  description := none
  fields := []
  inputFields := [noteField, sizeField]
  enumValues := []

-- Two enums of one name, a name beyond ASCII and a type that describes the type system.
def twiceNamed : Schema := .ofTypes [
  { hue "accented" [] with name := "É" }, hue "first" [⟨"RED", none, false⟩], sheetType,
  { hue "own" [] with name := "__Hue" }, hue "second" []]

theorem collect_gathers_twiceNamed :
    (twiceNamed.collect.enums.filter fun decl => decl.name == "Hue") =
      [⟨"Hue", some "first", [⟨"RED", none, false⟩]⟩, ⟨"Hue", some "second", []⟩] ∧
    (⟨"Sheet", none, [sizeField], [noteField]⟩ : InputDecl) ∈ twiceNamed.collect.inputs ∧
    [sizeField, noteField].Perm sheetType.inputFields ∧
    twiceNamed.collect.inputNames.Perm ["Sheet"] := by
  obtain ⟨enums, inputs, _, records, names, _⟩ := collect_gathers twiceNamed
  have sheets : twiceNamed.selected .inputObject = [sheetType] := by decide +kernel
  have declared : (⟨"Sheet", none, [sizeField], [noteField]⟩ : InputDecl) ∈
      twiceNamed.collect.inputs := by
    rw [inputs.perm.mem_iff, sheets]
    exact List.mem_singleton_self _
  refine ⟨(enums.stable "Hue").trans (by decide +kernel), declared, ?_, ?_⟩
  · obtain ⟨type, inside, _, _, _, _, fields⟩ := records _ declared
    rw [sheets, List.mem_singleton] at inside
    exact inside ▸ fields
  · rwa [sheets] at names

end Schema
end SchemaBindings
