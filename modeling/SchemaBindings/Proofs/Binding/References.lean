import SchemaBindings.Proofs.Binding.Indirection
import SchemaBindings.Proofs.Schema.Notation

namespace SchemaBindings

-- Below the wrappers `outer` a non-null wrapper stands directly around another one, and nowhere
-- further inside.
structure TypeRef.InnermostPair (whole : TypeRef) (outer : List Kind) (content : TypeRef) : Prop where
  placed : Below outer (.nonNull (.nonNull content)) whole
  last : (TypeRef.nonNull content).Undoubled

namespace Binding

namespace TypeExpr

def lists : TypeExpr → Nat
  | .named _ => 0
  | .boxed inner => inner.lists
  | .list inner => inner.lists + 1
  | .optional inner => inner.lists

-- No layer that allows null lies directly in another one.
def Undoubled : TypeExpr → Prop
  | .named _ => True
  | .boxed inner => inner.Undoubled
  | .list inner => inner.Undoubled
  | .optional inner => inner.isOptional = false ∧ inner.Undoubled

variable {expr : TypeExpr}

theorem lists_unless (expr : TypeExpr) (nonNull : Bool) :
    (expr.unless nonNull).lists = expr.lists := by
  cases nonNull <;> rfl

theorem Undoubled.unless (sound : expr.Undoubled) (solid : expr.isOptional = false)
    (nonNull : Bool) : (expr.unless nonNull).Undoubled := by
  cases nonNull with
  | false => exact ⟨solid, sound⟩
  | true => exact sound

end TypeExpr

theorem lists_solidType (inList : Bool) (reference : TypeRef) :
    (solidType inList reference).lists = reference.wrappers.count .list := by
  induction reference generalizing inList with
  | named kind name => exact forall_leafType (p := (·.lists = 0)) rfl rfl inList kind
  | list inner ih =>
    rw [solidType, TypeExpr.lists, TypeExpr.lists_unless, ih, TypeRef.wrappers, List.count_cons_self]
  | nonNull inner ih =>
    rw [solidType, ih, TypeRef.wrappers, List.count_cons_of_ne (by decide)]

theorem undoubled_solidType (inList : Bool) (reference : TypeRef) :
    (solidType inList reference).Undoubled := by
  induction reference generalizing inList with
  | named kind name => exact forall_leafType (p := (·.Undoubled)) trivial trivial inList kind
  | list inner ih => exact (ih true).unless (isOptional_solidType true inner) inner.isNonNull
  | nonNull inner ih => exact ih inList

-- Below a list the leaf is resolved in another way, so the wrappers around the pair count.
theorem doubled_of_below (placed : TypeRef.Below outer (.nonNull (.nonNull content)) reference)
    (last : (TypeRef.nonNull content).Undoubled) (inList : Bool) :
    Doubled inList reference (doubleNonNull (solidType (inList || outer.contains .list) content)
      (.nonNull (.nonNull content))) := by
  induction outer generalizing reference inList with
  | nil =>
    cases placed
    rw [List.contains_nil, Bool.or_false]
    exact .here last
  | cons kind outer ih =>
    cases placed with
    | list inside =>
      rw [List.contains_cons, beq_self_eq_true, Bool.true_or, Bool.or_true]
      exact .list (ih inside true)
    | nonNull inside =>
      rw [List.contains_cons, show (Kind.list == Kind.nonNull) = false from rfl, Bool.false_or]
      exact .nonNull (ih inside inList)

theorem Doubled.innermostPair (doubled : Doubled inList reference error) :
    ∃ outer content, reference.InnermostPair outer content := by
  induction doubled with
  | here sound => exact ⟨[], _, .here, sound⟩
  | list _ ih =>
    obtain ⟨outer, content, placed, last⟩ := ih
    exact ⟨.list :: outer, content, .list placed, last⟩
  | nonNull _ ih =>
    obtain ⟨outer, content, placed, last⟩ := ih
    exact ⟨.nonNull :: outer, content, .nonNull placed, last⟩

-- The content of the inner wrapper, and what that wrapper is resolved to.
theorem resolveIn_pair (last : (TypeRef.nonNull content).Undoubled) (inList : Bool) :
    resolveIn inList (.nonNull content) =
      .ok { expr := solidType inList content, nullable := false } :=
  resolveIn_undoubled last inList

theorem resolve_error_iff (reference : TypeRef) (error : Error) :
    resolve reference = .error error ↔ ∃ outer content child,
      reference.InnermostPair outer content ∧
      resolveIn (outer.contains .list) (.nonNull content) = .ok child ∧
      error = doubleNonNull child.expr (.nonNull (.nonNull content)) := by
  constructor
  · intro refused
    obtain ⟨outer, content, placed, last⟩ :=
      ((resolveIn_decided false reference).error_iff.mp refused).innermostPair
    refine ⟨outer, content, _, ⟨placed, last⟩, resolveIn_pair last _, ?_⟩
    have again := (doubled_of_below placed last false).resolveIn
    rw [resolve, again, Bool.false_or] at refused
    exact (Except.error.inj refused).symm
  · rintro ⟨outer, content, child, ⟨placed, last⟩, resolved, rfl⟩
    rw [resolveIn_pair last] at resolved
    cases resolved
    have doubled := doubled_of_below placed last false
    rw [Bool.false_or] at doubled
    exact doubled.resolveIn

-- A reference has a type exactly if no non-null wrapper stands directly around another one. It is
-- said to allow null just if it does, which is if the outermost wrapper is no such one, and it has
-- as many lists as the reference. Otherwise the violation tells the innermost pair of wrappers and
-- what the inner one of them is resolved to where it stands.
theorem resolve_exact (reference : TypeRef) :
    ((∃ resolved, resolve reference = .ok resolved) ↔ reference.Undoubled) ∧
    (∀ resolved, resolve reference = .ok resolved →
      resolved.nullable = resolved.expr.isOptional ∧
      resolved.nullable = !reference.isNonNull ∧
      resolved.expr.lists = reference.wrappers.count .list ∧
      resolved.expr.Undoubled) ∧
    (∀ error, resolve reference = .error error → error.isInternal = true) ∧
    ∀ error, resolve reference = .error error ↔ ∃ outer content child,
      reference.InnermostPair outer content ∧
      resolveIn (outer.contains .list) (.nonNull content) = .ok child ∧
      error = .invariant ("non-null wrapper applied to non-nullable type `" ++ child.expr.text ++
        "` (from `" ++ (TypeRef.nonNull (.nonNull content)).sdl ++ "`)") := by
  have decided := resolveIn_decided false reference
  refine ⟨decided.ok_iff, fun resolved made => ?_, fun error refused => ?_,
    resolve_error_iff reference⟩
  · have sound := decided.ok_iff.mp ⟨resolved, made⟩
    rw [resolve, resolveIn_undoubled sound] at made
    cases made
    refine ⟨(isOptional_boundType false reference).symm, rfl, ?_, ?_⟩
    · rw [boundType, TypeExpr.lists_unless, lists_solidType]
    · exact (undoubled_solidType false reference).unless (isOptional_solidType false reference) _
  · obtain ⟨_, _, _, _, _, rfl⟩ := (resolve_error_iff reference error).mp refused
    rfl

-- The inner pair of three is told, as it stands in a list.
example : resolve (.list (.nonNull (.nonNull (.nonNull (.named .inputObject "Paint"))))) =
    .error (.invariant
      "non-null wrapper applied to non-nullable type `Paint` (from `Paint!!`)") := rfl

end Binding

theorem TypeRef.lists_eq_count (reference : TypeRef) :
    reference.lists = reference.wrappers.count .list := by
  induction reference with
  | named kind name => rfl
  | list inner ih => rw [lists, wrappers, List.count_cons_self, ih]
  | nonNull inner ih => rw [lists, wrappers, List.count_cons_of_ne (by decide), ih]

namespace Binding

namespace TypeExpr
variable {expr : TypeExpr}

-- The letter with which a type begins that is more than a name.
def mark? : TypeExpr → Option Char
  | .named _ => none
  | .boxed _ => some 'B'
  | .list _ => some 'V'
  | .optional _ => some 'O'

-- A name may begin with the same letter, but there is no angle behind it.
theorem mark?_eq (plain : '<' ∉ expr.leafName.toList) :
    expr.mark? = if '<' ∈ expr.text.toList then expr.text.toList.head? else none := by
  cases expr with
  | named name => exact (if_neg plain).symm
  | boxed inner => simp [mark?, text]
  | list inner => simp [mark?, text]
  | optional inner => simp [mark?, text]

theorem mark?_congr {first second : TypeExpr} (plainFirst : '<' ∉ first.leafName.toList)
    (plainSecond : '<' ∉ second.leafName.toList) (same : first.text = second.text) :
    first.mark? = second.mark? := by
  rw [mark?_eq plainFirst, mark?_eq plainSecond, same]

theorem eq_of_around {before behind first second : String}
    (same : before ++ first ++ behind = before ++ second ++ behind) : first = second :=
  (String.append_right_inj before).mp ((String.append_left_inj behind).mp same)

theorem eq_of_text {first second : TypeExpr} (plainFirst : '<' ∉ first.leafName.toList)
    (plainSecond : '<' ∉ second.leafName.toList) (same : first.text = second.text) :
    first = second := by
  induction first generalizing second with
  | named name =>
    cases second with
    | named its => exact congrArg named same
    | _ => cases mark?_congr plainFirst plainSecond same
  | boxed inner ih =>
    cases second with
    | boxed content => exact congrArg boxed (ih plainFirst plainSecond (eq_of_around same))
    | _ => cases mark?_congr plainFirst plainSecond same
  | list inner ih =>
    cases second with
    | list content => exact congrArg list (ih plainFirst plainSecond (eq_of_around same))
    | _ => cases mark?_congr plainFirst plainSecond same
  | optional inner ih =>
    cases second with
    | optional content => exact congrArg optional (ih plainFirst plainSecond (eq_of_around same))
    | _ => cases mark?_congr plainFirst plainSecond same

-- The wrappers of the reference that a type is made for. A layer that allows null stands for the
-- lack of a wrapper.
def wrappers : TypeExpr → List Kind
  | .optional (.list item) => .list :: item.wrappers
  | .optional _ => []
  | .list item => .nonNull :: .list :: item.wrappers
  | .boxed _ => [.nonNull]
  | .named _ => [.nonNull]

end TypeExpr

theorem wrappers_boundType {reference : TypeRef} (sound : reference.Undoubled) (inList : Bool) :
    (boundType inList reference).wrappers = reference.wrappers := by
  induction reference generalizing inList with
  | named kind name =>
    exact forall_leafType (p := fun expr => (TypeExpr.optional expr).wrappers = []) rfl rfl inList kind
  | list inner ih => exact congrArg (Kind.list :: ·) (ih sound true)
  | nonNull inner ih =>
    obtain ⟨single, sound⟩ := sound
    cases inner with
    | nonNull _ => cases single
    | list item => exact congrArg (Kind.nonNull :: ·) (ih sound inList)
    | named kind name =>
      exact forall_leafType (p := (·.wrappers = [.nonNull])) rfl rfl inList kind

-- Outside all lists the box tells an input record from any other leaf.
theorem boxes_pos_iff {reference : TypeRef} (bare : .list ∉ reference.wrappers) :
    0 < (boundType false reference).boxes ↔ reference.leaf.1 = .inputObject := by
  have none : reference.lists = 0 := by
    rw [reference.lists_eq_count]
    exact List.count_eq_zero.mpr bare
  rw [boxes_boundType]
  split
  · rename_i boxable
    exact iff_of_true Nat.one_pos boxable.1
  · rename_i plain
    exact iff_of_false (Nat.lt_irrefl 0) fun record => plain ⟨record, rfl, none⟩

-- If the types that two references are resolved to are written with the same text, the references
-- have the same wrappers in the same order and leaves that are called by the same name. Which kind
-- of leaf it is shows as well, as far as no list is around it. Only the angle that opens must not
-- occur in the names.
theorem references_of_text {first second : TypeRef} (one : resolve first = .ok resolved)
    (other : resolve second = .ok again) (plainFirst : '<' ∉ first.leaf.2.toList)
    (plainSecond : '<' ∉ second.leaf.2.toList) (same : resolved.expr.text = again.expr.text) :
    first.wrappers = second.wrappers ∧
    boundName first.leaf.2 = boundName second.leaf.2 ∧
    (.list ∉ first.wrappers → (first.leaf.1 = .inputObject ↔ second.leaf.1 = .inputObject)) := by
  have soundFirst := (resolveIn_decided false first).ok_iff.mp ⟨resolved, one⟩
  have soundSecond := (resolveIn_decided false second).ok_iff.mp ⟨again, other⟩
  rw [resolve, resolveIn_undoubled soundFirst] at one
  rw [resolve, resolveIn_undoubled soundSecond] at other
  cases one
  cases other
  have types : boundType false first = boundType false second :=
    TypeExpr.eq_of_text (plain_boundType plainFirst false)
      (plain_boundType plainSecond false) same
  have wrappers : first.wrappers = second.wrappers := by
    rw [← wrappers_boundType soundFirst false, types, wrappers_boundType soundSecond]
  refine ⟨wrappers, ?_, fun bare => ?_⟩
  · rw [← leafName_boundType false first, types, leafName_boundType]
  · rw [← boxes_pos_iff bare, types, boxes_pos_iff (wrappers ▸ bare)]

-- A scalar that is called like a primitive shares its text with the scalar it stands for; the
-- wrappers are the same all the same.
theorem references_of_text_ints :
    ∃ resolved again,
      resolve (.nonNull (.list (.named .scalar "Int"))) = .ok resolved ∧
      resolve (.nonNull (.list (.named .enumeration "i32"))) = .ok again ∧
      resolved.expr.text = "Vec<Option<i32>>" ∧ again.expr.text = "Vec<Option<i32>>" ∧
      (TypeRef.nonNull (.list (.named .scalar "Int"))).wrappers =
        (TypeRef.nonNull (.list (.named .enumeration "i32"))).wrappers ∧
      boundName "Int" = boundName "i32" := by
  have one : resolve (.nonNull (.list (.named .scalar "Int"))) =
      .ok { expr := .list (.optional (.named "i32")), nullable := false } := rfl
  have other : resolve (.nonNull (.list (.named .enumeration "i32"))) =
      .ok { expr := .list (.optional (.named "i32")), nullable := false } := rfl
  obtain ⟨wrappers, leaf, _⟩ :=
    references_of_text one other (by decide +kernel) (by decide +kernel) rfl
  exact ⟨_, _, one, other, rfl, rfl, wrappers, leaf⟩

end Binding
end SchemaBindings
