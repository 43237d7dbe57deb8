import SchemaBindings.Binding
import SchemaBindings.Proofs.Fallible
import SchemaBindings.Proofs.Json.Tree

namespace SchemaBindings

-- No non-null wrapper stands directly around another one.
def TypeRef.Undoubled : TypeRef → Prop
  | .named _ _ => True
  | .list inner => inner.Undoubled
  | .nonNull inner => inner.isNonNull = false ∧ inner.Undoubled

instance TypeRef.decidableUndoubled : (reference : TypeRef) → Decidable reference.Undoubled
  | .named _ _ => inferInstanceAs (Decidable True)
  | .list inner => inner.decidableUndoubled
  | .nonNull inner =>
    have := inner.decidableUndoubled
    inferInstanceAs (Decidable (_ ∧ _))

namespace Binding

def leafType (inList : Bool) (kind : Kind) (name : String) : TypeExpr :=
  if kind = .inputObject ∧ inList = false then .boxed (.named (boundName name))
  else .named (boundName name)

-- The layer that allows null; a non-null wrapper on the outside leaves it out.
def TypeExpr.unless (expr : TypeExpr) (nonNull : Bool) : TypeExpr :=
  if nonNull then expr else .optional expr

-- What is left of the type once null is not allowed on the outside.
def solidType (inList : Bool) : TypeRef → TypeExpr
  | .named kind name => leafType inList kind name
  | .list inner => .list ((solidType true inner).unless inner.isNonNull)
  | .nonNull inner => solidType inList inner

-- The name inside all layers.
def TypeExpr.leafName : TypeExpr → String
  | .named name => name
  | .boxed inner => inner.leafName
  | .list inner => inner.leafName
  | .optional inner => inner.leafName

def boundType (inList : Bool) (reference : TypeRef) : TypeExpr :=
  (solidType inList reference).unless reference.isNonNull

-- The violation is that of the innermost pair of wrappers: its content resolves, and has no layer
-- left that the outer wrapper could take away.
inductive Doubled : Bool → TypeRef → Error → Prop where
  | here {inner : TypeRef} (sound : (TypeRef.nonNull inner).Undoubled) :
      Doubled inList (.nonNull (.nonNull inner))
        (doubleNonNull (solidType inList inner) (.nonNull (.nonNull inner)))
  | list {inner : TypeRef} (below : Doubled true inner error) : Doubled inList (.list inner) error
  | nonNull {inner : TypeRef} (below : Doubled inList inner error) :
      Doubled inList (.nonNull inner) error

theorem Doubled.internal (doubled : Doubled inList reference error) : error.isInternal = true := by
  induction doubled with
  | here _ => rfl
  | list _ ih => exact ih
  | nonNull _ ih => exact ih

variable {reference : TypeRef}

-- At the leaf there is a name, with or without a box around it.
theorem forall_leafType {p : TypeExpr → Prop} {name : String}
    (boxed : p (.boxed (.named (boundName name)))) (plain : p (.named (boundName name)))
    (inList : Bool) (kind : Kind) : p (leafType inList kind name) := by
  rw [leafType]
  split
  · exact boxed
  · exact plain

theorem leafType_ne_optional (inList : Bool) (kind : Kind) (name : String) (expr : TypeExpr) :
    leafType inList kind name ≠ .optional expr :=
  forall_leafType (p := (· ≠ .optional expr)) nofun nofun inList kind

theorem solidType_ne_optional (inList : Bool) (reference : TypeRef) (expr : TypeExpr) :
    solidType inList reference ≠ .optional expr := by
  induction reference with
  | named kind name => exact leafType_ne_optional inList kind name expr
  | list inner ih => exact nofun
  | nonNull inner ih => exact ih

theorem isOptional_solidType (inList : Bool) (reference : TypeRef) :
    (solidType inList reference).isOptional = false := by
  cases layer : solidType inList reference with
  | optional expr => exact (solidType_ne_optional inList reference expr layer).elim
  | _ => rfl

theorem isOptional_boundType (inList : Bool) (reference : TypeRef) :
    (boundType inList reference).isOptional = !reference.isNonNull := by
  rw [boundType]
  cases reference.isNonNull with
  | false => rfl
  | true => exact isOptional_solidType inList reference

-- A name is kept, or else it becomes one of three primitives.
theorem forall_boundName {p : String → Prop}
    (primitive : ∀ name ∈ ["i32", "f64", "bool"], p name) (kept : p name) :
    p (boundName name) := by
  rw [boundName]
  split
  · exact primitive _ (by simp)
  split
  · exact primitive _ (by simp)
  split
  · exact primitive _ (by simp)
  · exact kept

theorem resolveIn_named (inList : Bool) (kind : Kind) (name : String) :
    resolveIn inList (.named kind name) =
      .ok { expr := .optional (leafType inList kind name), nullable := true } := by
  rw [resolveIn, leafType]

theorem resolveIn_undoubled (sound : reference.Undoubled) (inList : Bool) :
    resolveIn inList reference =
      .ok { expr := boundType inList reference, nullable := !reference.isNonNull } := by
  induction reference generalizing inList with
  | named kind name => exact resolveIn_named inList kind name
  | list inner ih =>
    rw [resolveIn, ih sound true]
    rfl
  | nonNull inner ih =>
    obtain ⟨single, sound⟩ := sound
    rw [resolveIn, ih sound inList, boundType, single]
    rfl

theorem Doubled.resolveIn (doubled : Doubled inList reference error) :
    resolveIn inList reference = .error error := by
  induction doubled with
  | @here inList inner sound =>
    rw [Binding.resolveIn, resolveIn_undoubled sound]
    have solid := solidType_ne_optional inList inner
    cases layer : solidType inList inner with
    | optional expr => exact (solid expr layer).elim
    | _ => simp [bind, Except.bind, boundType, TypeExpr.unless, solidType, TypeRef.isNonNull, layer,
        throw, throwThe, MonadExceptOf.throw]
  | list _ ih =>
    rw [Binding.resolveIn, ih]
    rfl
  | nonNull _ ih =>
    rw [Binding.resolveIn, ih]
    rfl

theorem undoubled_or_doubled (inList : Bool) (reference : TypeRef) :
    reference.Undoubled ∨ ∃ error, Doubled inList reference error := by
  induction reference generalizing inList with
  | named kind name => exact .inl trivial
  | list inner ih =>
    rcases ih true with sound | ⟨error, below⟩
    · exact .inl sound
    · exact .inr ⟨error, .list below⟩
  | nonNull inner ih =>
    rcases ih inList with sound | ⟨error, below⟩
    · cases inner with
      | nonNull innermost => exact .inr ⟨_, .here sound⟩
      | list _ => exact .inl ⟨rfl, sound⟩
      | named _ _ => exact .inl ⟨rfl, sound⟩
    · exact .inr ⟨error, .nonNull below⟩

theorem resolveIn_decided (inList : Bool) (reference : TypeRef) :
    Decided (resolveIn inList reference) reference.Undoubled (Doubled inList reference) :=
  ⟨fun sound => ⟨_, resolveIn_undoubled sound inList⟩, fun _ => Doubled.resolveIn,
    undoubled_or_doubled inList reference⟩

end Binding

-- Fields for which there is a type: a scalar, an enum or an input record at the leaf, and wrappers
-- that can be told apart.
structure Field.Bindable (field : Field) : Prop where
  supported : field.type.leaf.1.isInput = true
  undoubled : field.type.Undoubled

instance (field : Field) : Decidable field.Bindable :=
  decidable_of_iff (field.type.leaf.1.isInput = true ∧ field.type.Undoubled)
    ⟨fun ⟨supported, undoubled⟩ => ⟨supported, undoubled⟩,
      fun ⟨supported, undoubled⟩ => ⟨supported, undoubled⟩⟩

namespace Binding

-- The leaf is blamed before the wrappers.
inductive FieldFault (owner : String) (field : Field) : Error → Prop where
  | unsupported (refused : field.type.leaf.1.isInput = false) :
      FieldFault owner field
        (.unsupportedField owner field.name field.type.leaf.2 field.type.leaf.1)
  | doubled (supported : field.type.leaf.1.isInput = true)
      (doubled : Doubled false field.type error) : FieldFault owner field error

def boundField (field : Field) : FieldType :=
  { expr := boundType false field.type, required := field.type.isNonNull }

theorem TypeExpr.leafName_unless (expr : TypeExpr) (nonNull : Bool) :
    (expr.unless nonNull).leafName = expr.leafName := by
  cases nonNull <;> rfl

theorem leafName_solidType (inList : Bool) (reference : TypeRef) :
    (solidType inList reference).leafName = boundName reference.leaf.2 := by
  induction reference generalizing inList with
  | named kind name => exact forall_leafType (p := (·.leafName = boundName name)) rfl rfl inList kind
  | list inner ih => rw [solidType, TypeExpr.leafName, TypeExpr.leafName_unless, ih, TypeRef.leaf]
  | nonNull inner ih => exact ih inList

theorem leafName_boundType (inList : Bool) (reference : TypeRef) :
    (boundType inList reference).leafName = boundName reference.leaf.2 := by
  rw [boundType, TypeExpr.leafName_unless, leafName_solidType]

theorem plain_boundType {reference : TypeRef} (plain : '<' ∉ reference.leaf.2.toList)
    (inList : Bool) : '<' ∉ (boundType inList reference).leafName.toList := by
  rw [leafName_boundType]
  exact forall_boundName (p := fun name => '<' ∉ name.toList) (by decide) plain

theorem leafName_boundField (field : Field) :
    (boundField field).expr.leafName = boundName field.type.leaf.2 :=
  leafName_boundType false field.type

theorem fieldType_bindable {field : Field} (bindable : field.Bindable) (owner : String) :
    fieldType owner field = .ok (boundField field) := by
  simp only [fieldType, bindable.supported, if_true, resolve,
    resolveIn_undoubled bindable.undoubled]
  rfl

theorem FieldFault.fieldType {field : Field} (fault : FieldFault owner field error) :
    fieldType owner field = .error error := by
  cases fault with
  | unsupported refused => simp [Binding.fieldType, refused]
  | doubled supported doubled =>
    simp only [Binding.fieldType, supported, if_true, resolve, doubled.resolveIn]
    rfl

theorem fieldType_decided (owner : String) (field : Field) :
    Decided (fieldType owner field) field.Bindable (FieldFault owner field) := by
  refine ⟨fun bindable => ⟨_, fieldType_bindable bindable owner⟩, fun _ => FieldFault.fieldType, ?_⟩
  cases supported : field.type.leaf.1.isInput with
  | false => exact .inr ⟨_, .unsupported supported⟩
  | true =>
    rcases (resolveIn_decided false field.type).settled with sound | ⟨error, doubled⟩
    · exact .inl ⟨supported, sound⟩
    · exact .inr ⟨error, .doubled supported doubled⟩

theorem leafName_of_fieldType (resolved : fieldType owner field = .ok type) :
    type.expr.leafName = boundName field.type.leaf.2 := by
  have bindable := (fieldType_decided owner field).ok_iff.mp ⟨type, resolved⟩
  rw [fieldType_bindable bindable] at resolved
  cases resolved
  exact leafName_boundField field

end Binding

open Json (Tree)

-- `accepts` says what may stand for the leaf; everything but a non-null wrapper also allows null.
def TypeRef.Conforms (accepts : String → Tree .value → Prop) : TypeRef → Tree .value → Prop
  | .nonNull inner, value => value ≠ .null ∧ inner.Conforms accepts value
  | .list inner, value => value = .null ∨
      ∃ items, value = .list items ∧ ∀ item ∈ items.toItems, inner.Conforms accepts item
  | .named _ name, value => value = .null ∨ accepts name value

namespace Binding

-- `holds` says what a type of a name can hold.
def TypeExpr.Conforms (holds : String → Tree .value → Prop) : TypeExpr → Tree .value → Prop
  | .optional inner, value => value = .null ∨ inner.Conforms holds value
  | .list inner, value =>
      ∃ items, value = .list items ∧ ∀ item ∈ items.toItems, inner.Conforms holds item
  | .boxed inner, value => inner.Conforms holds value
  | .named name, value => holds name value

theorem resolveIn_list {inner : TypeRef} (resolved : resolveIn inList (.list inner) = .ok result) :
    ∃ item, resolveIn true inner = .ok item ∧
      result = { expr := .optional (.list item.expr), nullable := true } := by
  rw [resolveIn] at resolved
  cases under : resolveIn true inner with
  | error _ => rw [under] at resolved; cases resolved
  | ok item =>
    rw [under] at resolved
    cases resolved
    exact ⟨item, rfl, rfl⟩

-- A non-null wrapper takes away the layer that its content has put on top.
theorem resolveIn_nonNull {inner : TypeRef} (resolved : resolveIn inList (.nonNull inner) = .ok result) :
    ∃ under expr, resolveIn inList inner = .ok under ∧ under.expr = .optional expr ∧
      result = { expr, nullable := false } := by
  rw [resolveIn] at resolved
  cases found : resolveIn inList inner with
  | error _ => rw [found] at resolved; cases resolved
  | ok under =>
    rw [found] at resolved
    cases layer : under.expr with
    | optional expr =>
      simp only [bind, Except.bind, layer] at resolved
      cases resolved
      exact ⟨under, expr, rfl, layer, rfl⟩
    | _ =>
      simp only [bind, Except.bind, layer] at resolved
      cases resolved

section Meaning
variable {accepts holds : String → Tree .value → Prop}

-- What lies under an optional layer does not hold null itself, or the layer could not be taken
-- away without a loss.
def Tight (holds : String → Tree .value → Prop) (expr : TypeExpr) : Prop :=
  ∀ inner, expr = .optional inner → ¬inner.Conforms holds .null

theorem list_conforms {inner : TypeRef} {item : TypeExpr}
    (same : ∀ value, inner.Conforms accepts value ↔ item.Conforms holds value)
    (value : Tree .value) :
    (TypeRef.list inner).Conforms accepts value ↔
      (TypeExpr.optional (.list item)).Conforms holds value := by
  simp only [TypeRef.Conforms, TypeExpr.Conforms, same]

theorem nonNull_conforms {inner : TypeRef} {expr : TypeExpr}
    (same : ∀ value, inner.Conforms accepts value ↔ (TypeExpr.optional expr).Conforms holds value)
    (noNull : ¬expr.Conforms holds .null) (value : Tree .value) :
    (TypeRef.nonNull inner).Conforms accepts value ↔ expr.Conforms holds value := by
  rw [TypeRef.Conforms, same, TypeExpr.Conforms]
  constructor
  · rintro ⟨present, absent | held⟩
    · exact (present absent).elim
    · exact held
  · intro held
    refine ⟨?_, .inr held⟩
    rintro rfl
    exact noNull held

theorem resolveIn_conforms {reference : TypeRef}
    (stands : ∀ value, holds (boundName reference.leaf.2) value ↔ accepts reference.leaf.2 value)
    (noNull : ¬accepts reference.leaf.2 .null)
    (resolved : resolveIn inList reference = .ok result) :
    (∀ value, reference.Conforms accepts value ↔ result.expr.Conforms holds value) ∧
      Tight holds result.expr := by
  induction reference generalizing inList result with
  | named kind name =>
    simp only [resolveIn, Except.ok.injEq] at resolved
    subst resolved
    have plain : ∀ value,
        (if kind = .inputObject ∧ inList = false then TypeExpr.boxed (.named (boundName name))
          else .named (boundName name)).Conforms holds value ↔ accepts name value := by
      intro value
      split
      · exact stands value
      · exact stands value
    constructor
    · intro value
      rw [TypeRef.Conforms, TypeExpr.Conforms, plain]
    · rintro _ same
      cases same
      rwa [plain]
  | list inner ih =>
    obtain ⟨item, under, rfl⟩ := resolveIn_list resolved
    obtain ⟨same, _⟩ := ih stands noNull under
    refine ⟨list_conforms same, ?_⟩
    rintro _ layer held
    cases layer
    obtain ⟨_, null, _⟩ := held
    cases null
  | nonNull inner ih =>
    obtain ⟨under, expr, found, layer, rfl⟩ := resolveIn_nonNull resolved
    obtain ⟨same, tight⟩ := ih stands noNull found
    have absent := tight expr layer
    rw [layer] at same
    refine ⟨nonNull_conforms same absent, ?_⟩
    rintro inner rfl _
    exact absent (.inl rfl)

end Meaning

-- A value conforms to a reference exactly if it conforms to the type that was made for it.
theorem resolve_conforms {reference : TypeRef} {accepts holds : String → Tree .value → Prop}
    (resolved : resolve reference = .ok result) (noNull : ¬accepts reference.leaf.2 .null)
    (stands : ∀ value, holds (boundName reference.leaf.2) value ↔ accepts reference.leaf.2 value)
    (value : Tree .value) :
    reference.Conforms accepts value ↔ result.expr.Conforms holds value :=
  (resolveIn_conforms stands noNull resolved).1 value

theorem resolve_conforms_ints :
    resolve (.nonNull (.list (.nonNull (.named .scalar "Int")))) =
        .ok { expr := .list (.named "i32"), nullable := false } ∧
      ∀ value, (TypeRef.nonNull (.list (.nonNull (.named .scalar "Int")))).Conforms
          (fun name value => name = "Int" ∧ ∃ text, value = .number text) value ↔
        (TypeExpr.list (.named "i32")).Conforms
          (fun name value => name = "i32" ∧ ∃ text, value = .number text) value := by
  have resolved : resolve (.nonNull (.list (.nonNull (.named .scalar "Int")))) =
      .ok { expr := .list (.named "i32"), nullable := false } := rfl
  refine ⟨resolved, resolve_conforms resolved ?_ fun value => ?_⟩
  · rintro ⟨_, _, null⟩
    cases null
  · simp [TypeRef.leaf, boundName]

end Binding
end SchemaBindings
