import SchemaBindings.Proofs.Binding.Emission

namespace SchemaBindings

def TypeRef.lists : TypeRef → Nat
  | .list inner => inner.lists + 1
  | .nonNull inner => inner.lists
  | .named _ _ => 0

namespace Binding

namespace TypeExpr

def boxes : TypeExpr → Nat
  | .boxed inner => inner.boxes + 1
  | .list inner => inner.boxes
  | .optional inner => inner.boxes
  | .named _ => 0

-- A box is the last layer around the name.
def BoxesName (name : String) : TypeExpr → Prop
  | .boxed inner => inner = .named name
  | .list inner => inner.BoxesName name
  | .optional inner => inner.BoxesName name
  | .named _ => False

-- The value itself is part of what the type takes up: neither a box nor a list lies between.
def HoldsInline (name : String) : TypeExpr → Prop
  | .optional inner => inner.HoldsInline name
  | .named its => its = name
  | .boxed _ => False
  | .list _ => False

variable {name : String}

theorem boxes_unless (expr : TypeExpr) (nonNull : Bool) : (expr.unless nonNull).boxes = expr.boxes := by
  cases nonNull <;> rfl

theorem boxesName_unless (expr : TypeExpr) (nonNull : Bool) :
    (expr.unless nonNull).BoxesName name ↔ expr.BoxesName name := by
  cases nonNull <;> exact Iff.rfl

theorem holdsInline_unless (expr : TypeExpr) (nonNull : Bool) :
    (expr.unless nonNull).HoldsInline name ↔ expr.HoldsInline name := by
  cases nonNull <;> exact Iff.rfl

end TypeExpr

-- A box is due where the leaf is an input record and no list is around it.
def Boxable (inList : Bool) (reference : TypeRef) : Prop :=
  reference.leaf.1 = .inputObject ∧ inList = false ∧ reference.lists = 0

instance (inList : Bool) (reference : TypeRef) : Decidable (Boxable inList reference) :=
  inferInstanceAs (Decidable (_ ∧ _ ∧ _))

theorem boxes_solidType (inList : Bool) (reference : TypeRef) :
    (solidType inList reference).boxes = if Boxable inList reference then 1 else 0 := by
  induction reference generalizing inList with
  | named kind name =>
    simp only [solidType, leafType, Boxable, TypeRef.leaf, TypeRef.lists, and_true]
    split
    · rfl
    · rfl
  | list inner ih =>
    rw [solidType, TypeExpr.boxes, TypeExpr.boxes_unless, ih]
    simp [Boxable, TypeRef.lists]
  | nonNull inner ih => exact ih inList

theorem boxes_boundType (inList : Bool) (reference : TypeRef) :
    (boundType inList reference).boxes = if Boxable inList reference then 1 else 0 := by
  rw [boundType, TypeExpr.boxes_unless, boxes_solidType]

theorem boxesName_solidType (boxable : Boxable inList reference) :
    (solidType inList reference).BoxesName (boundName reference.leaf.2) := by
  induction reference with
  | named kind name =>
    obtain ⟨record, outside, _⟩ := boxable
    rw [solidType, leafType, if_pos ⟨record, outside⟩]
    rfl
  | list inner ih =>
    obtain ⟨_, _, none⟩ := boxable
    cases none
  | nonNull inner ih => exact ih boxable

theorem holdsInline_solidType (inList : Bool) (reference : TypeRef) :
    (solidType inList reference).HoldsInline name ↔
      reference.lists = 0 ∧ ¬Boxable inList reference ∧ boundName reference.leaf.2 = name := by
  induction reference with
  | named kind its =>
    simp only [solidType, leafType, Boxable, TypeRef.leaf, TypeRef.lists, and_true]
    split
    · rename_i boxed
      simp [TypeExpr.HoldsInline, boxed]
    · rename_i plain
      simp [TypeExpr.HoldsInline, plain]
  | list inner ih => simp [solidType, TypeExpr.HoldsInline, TypeRef.lists]
  | nonNull inner ih => exact ih

-- A field of one record has the other record itself in it.
def HoldsRecord (decls : Declarations) (holder held : InputDecl) : Prop :=
  holder ∈ decls.inputs ∧ held ∈ decls.inputs ∧ ∃ field ∈ holder.fields, ∃ type,
    fieldType holder.name field = .ok type ∧ type.expr.HoldsInline held.name

theorem boxes_boundField (field : Field) :
    (boundField field).expr.boxes =
      if field.type.leaf.1 = .inputObject ∧ field.type.lists = 0 then 1 else 0 := by
  rw [boundField, boxes_boundType]
  simp [Boxable]

theorem holdsInline_boundField (field : Field) :
    (boundField field).expr.HoldsInline name ↔
      field.type.leaf.1 ≠ .inputObject ∧ field.type.lists = 0 ∧
        boundName field.type.leaf.2 = name := by
  rw [boundField, boundType, TypeExpr.holdsInline_unless, holdsInline_solidType]
  constructor
  · rintro ⟨bare, plain, same⟩
    exact ⟨fun record => plain ⟨record, rfl, bare⟩, bare, same⟩
  · rintro ⟨other, bare, same⟩
    exact ⟨bare, fun boxable => other boxable.1, same⟩

theorem holdsRecord_iff (sound : ∀ decl ∈ decls.inputs, decl.Sound) (holder held : InputDecl) :
    HoldsRecord decls holder held ↔
      holder ∈ decls.inputs ∧ held ∈ decls.inputs ∧ ∃ field ∈ holder.fields,
        field.type.leaf.1 ≠ .inputObject ∧ field.type.lists = 0 ∧
          boundName field.type.leaf.2 = held.name := by
  refine and_congr_right fun declared => and_congr_right fun _ => exists_congr fun field =>
    and_congr_right fun inside => ?_
  have resolved := fieldType_bindable ((sound holder declared).bindable field inside) holder.name
  rw [← holdsInline_boundField, resolved]
  constructor
  · rintro ⟨type, same, holds⟩
    cases same
    exact holds
  · exact fun holds => ⟨_, rfl, holds⟩

-- Whatever type a field is written with: an input record has one box around its name, or no box
-- but a list, and nothing else is boxed. One record holds another only through a field that is no
-- reference to a record and yet is written with the name of one.
theorem inputs_indirect (made : inputsText decls = .ok text) :
    (∀ decl ∈ decls.inputs, ∀ field ∈ decl.fields, ∃ identifier type,
      fieldType decl.name field = .ok type ∧
      Contains text (inputFieldLines field identifier type) ∧
      (field.type.leaf.1 = .inputObject →
        (∀ name, ¬type.expr.HoldsInline name) ∧
        (field.type.lists = 0 →
          type.expr.boxes = 1 ∧ type.expr.BoxesName (boundName field.type.leaf.2)) ∧
        (0 < field.type.lists → type.expr.boxes = 0)) ∧
      (field.type.leaf.1 ≠ .inputObject → type.expr.boxes = 0)) ∧
    (∀ holder held, HoldsRecord decls holder held ↔
      holder ∈ decls.inputs ∧ held ∈ decls.inputs ∧ ∃ field ∈ holder.fields,
        field.type.leaf.1 ≠ .inputObject ∧ field.type.lists = 0 ∧
          boundName field.type.leaf.2 = held.name) ∧
    ((∀ decl ∈ decls.inputs, ∀ field ∈ decl.fields, field.type.leaf.1 ≠ .inputObject →
        boundName field.type.leaf.2 ∉ decls.inputNames) →
      ∀ holder held, ¬HoldsRecord decls holder held) := by
  have sound := (inputsText_decided decls).ok_iff.mp ⟨text, made⟩
  have edges := holdsRecord_iff sound
  refine ⟨fun decl declared field inside => ?_, edges, fun apart holder held holds => ?_⟩
  · have resolved := fieldType_bindable ((sound decl declared).bindable field inside) decl.name
    refine ⟨_, _, resolved, contains_fieldBlock made declared inside, fun record => ?_, fun other => ?_⟩
    · refine ⟨fun name holds => ((holdsInline_boundField field).mp holds).1 record,
        fun bare => ⟨?_, ?_⟩, fun listed => ?_⟩
      · rw [boxes_boundField, if_pos ⟨record, bare⟩]
      · rw [boundField, boundType, TypeExpr.boxesName_unless]
        exact boxesName_solidType ⟨record, rfl, bare⟩
      · rw [boxes_boundField, if_neg fun boxed => Nat.ne_of_gt listed boxed.2]
    · rw [boxes_boundField, if_neg fun boxed => other boxed.1]
  · obtain ⟨declared, other, field, inside, leaf, _, same⟩ := (edges holder held).mp holds
    exact apart holder declared field inside leaf (same ▸ List.mem_map_of_mem other)

def assetInput : InputDecl :=
  { name := "Asset"
    description := none
    required := [⟨"owner", none, .nonNull (.named .inputObject "Owner")⟩]
    optional := [⟨"parts", none, .list (.nonNull (.named .inputObject "Asset"))⟩] }

def ownerInput : InputDecl :=
  { name := "Owner"
    description := none
    required := []
    optional := [⟨"asset", none, .named .inputObject "Asset"⟩, ⟨"age", none, .named .scalar "Int"⟩] }

-- Records that refer to each other, and one of them to itself in a list.
def cyclic : Declarations := { inputs := [assetInput, ownerInput] }

theorem inputs_indirect_cyclic :
    (∃ text, inputsText cyclic = .ok text) ∧
    fieldType "Owner" ⟨"asset", none, .named .inputObject "Asset"⟩ =
      .ok { expr := .optional (.boxed (.named "Asset")), required := false } ∧
    ∀ holder held, ¬HoldsRecord cyclic holder held := by
  have sound : ∀ decl ∈ cyclic.inputs, decl.Sound := by decide +kernel
  have apart : ∀ decl ∈ cyclic.inputs, ∀ field ∈ decl.fields, field.type.leaf.1 ≠ .inputObject →
      boundName field.type.leaf.2 ∉ cyclic.inputNames := by decide
  have made := inputsText_sound sound
  exact ⟨⟨_, made⟩, rfl, (inputs_indirect made).2.2 apart⟩

-- Among the names of records there may be one that stands for a scalar, as this one for whole
-- numbers. A field of such a scalar then holds the record.
def numberInput : InputDecl :=
  { name := "i32", description := none, required := []
    optional := [⟨"value", none, .named .scalar "Int"⟩] }

def numbers : Declarations := { inputs := [numberInput] }

theorem number_holds_itself :
    (∃ text, inputsText numbers = .ok text) ∧ HoldsRecord numbers numberInput numberInput := by
  have sound : ∀ decl ∈ numbers.inputs, decl.Sound := by decide +kernel
  have inside : numberInput ∈ numbers.inputs := List.mem_singleton_self _
  refine ⟨⟨_, inputsText_sound sound⟩, (holdsRecord_iff sound numberInput numberInput).mpr ?_⟩
  exact ⟨inside, inside, _, List.mem_singleton_self _, nofun, rfl, rfl⟩

end Binding
end SchemaBindings
