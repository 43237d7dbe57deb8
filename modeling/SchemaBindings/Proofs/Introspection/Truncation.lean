import SchemaBindings.Introspection.Query
import SchemaBindings.Proofs.Introspection.Resolution
import SchemaBindings.Proofs.Schema.Notation

namespace SchemaBindings

open Json (Value)

namespace TypeRef

def nodeKind : TypeRef → Kind
  | .list _ => .list
  | .nonNull _ => .nonNull
  | .named kind _ => kind

def nodeName? : TypeRef → Option String
  | .named _ name => some name
  | _ => none

def inner? : TypeRef → Option TypeRef
  | .list inner => some inner
  | .nonNull inner => some inner
  | .named _ _ => none

-- What is answered about a reference if it is followed so many times: the last node is not asked
-- for what it wraps.
def answer : Nat → TypeRef → Value
  | 0, type =>
    .object [("kind", .string type.nodeKind.wireName), ("name", nameOrNull type.nodeName?)]
  | levels + 1, type =>
    .object [("kind", .string type.nodeKind.wireName), ("name", nameOrNull type.nodeName?),
      ("ofType", (type.inner?.map (answer levels)).getD .null)]

end TypeRef

namespace Introspection

-- The lines that ask for such an answer.
def selectionLines (margin : String) : Nat → List String
  | 0 => [margin ++ "kind", margin ++ "name"]
  | levels + 1 =>
    [margin ++ "kind", margin ++ "name", margin ++ "ofType \x7b"] ++
      selectionLines (margin ++ "  ") levels ++ [margin ++ "\x7d"]

def referenceFragment (levels : Nat) : List String :=
  ["fragment TypeRef on __Type \x7b"] ++ selectionLines "  " levels ++ ["\x7d"]

theorem queryLines_ends : ∃ before, queryLines = before ++ referenceFragment 7 :=
  ⟨queryLines.takeWhile (· != "fragment TypeRef on __Type \x7b"), by decide +kernel⟩

namespace Wire

namespace Reference

-- A reference down to the node that is reached in so many steps, and that node without what it
-- wraps.
def cut : Nat → Reference → Reference
  | 0, reference => .bare reference.nodeKind reference.nodeName?
  | _ + 1, .bare kind name => .bare kind name
  | levels + 1, .over kind name inner => .over kind name (inner.cut levels)

variable {reference : Reference}

theorem Names.cut (names : reference.Names name) (levels : Nat) :
    (reference.cut levels).Means (.named reference.nodeKind name) := by
  obtain ⟨noWrapper, known, named⟩ := names
  cases levels with
  | zero => exact .leaf ⟨noWrapper, known, named⟩
  | succ levels =>
    cases reference with
    | bare kind its => exact .leaf ⟨noWrapper, known, named⟩
    | «over» kind its inner => exact .leaf ⟨noWrapper, known, named⟩

theorem Means.cut (means : reference.Means type) (deep : type.depth ≤ levels) :
    (reference.cut levels).Means type := by
  induction means generalizing levels with
  | leaf names => exact names.cut levels
  | list _ ih =>
    cases levels with
    | zero => cases deep
    | succ levels => exact .list (ih (Nat.le_of_succ_le_succ deep))
  | nonNull _ ih =>
    cases levels with
    | zero => cases deep
    | succ levels => exact .nonNull (ih (Nat.le_of_succ_le_succ deep))

-- The node at the cut is a wrapper, and there is nothing under it.
theorem Means.cut_short (means : reference.Means type) (short : levels < type.depth) :
    ∃ kind, type.wrappers[levels]? = some kind ∧
      (reference.cut levels).Faulty (kind.wireName ++ " without ofType") := by
  induction means generalizing levels with
  | leaf names => cases short
  | list _ ih =>
    cases levels with
    | zero => exact ⟨.list, rfl, .empty rfl⟩
    | succ levels =>
      obtain ⟨kind, placed, faulty⟩ := ih (Nat.lt_of_succ_lt_succ short)
      exact ⟨kind, placed, .under rfl faulty⟩
  | nonNull _ ih =>
    cases levels with
    | zero => exact ⟨.nonNull, rfl, .empty rfl⟩
    | succ levels =>
      obtain ⟨kind, placed, faulty⟩ := ih (Nat.lt_of_succ_lt_succ short)
      exact ⟨kind, placed, .under rfl faulty⟩

theorem Means.resolve_short (means : reference.Means type) (short : levels < type.depth)
    (owner field : String) : ∃ kind, type.wrappers[levels]? = some kind ∧
      (reference.cut levels).resolve owner field =
        .error (.malformedReference owner field (kind.wireName ++ " without ofType")) := by
  obtain ⟨kind, placed, faulty⟩ := means.cut_short short
  exact ⟨kind, placed, faulty.resolve owner field⟩

end Reference

def Reference.node (kind : Kind) (name : Option String) : Option Reference → Reference
  | some inner => .over kind name inner
  | none => .bare kind name

-- A node is read from its members, whether it wraps something or not.
theorem yields_node {members : Json.Tree .members} (under : Option Reference)
    (record : Json.Record referenceShape members)
    (kinded : members.Gives "kind" (IsText kind.wireName))
    (named : members.MayGive "name" IsText name)
    (below : members.MayGive "ofType" (Json.Yields readReference) under) :
    Json.Yields readReference (.node kind name under) (.object members) := by
  refine ⟨nofun, fun fits => ?_⟩
  cases under with
  | none => exact reads_reference kind name none record kinded named below fits
  | some inner => exact reads_reference kind name (some inner) record kinded named below fits

-- An answer decodes to the reference that was asked about, as far as it was followed.
theorem yields_answer (levels : Nat) (type : TypeRef) :
    Json.Yields readReference ((ofTypeRef type).cut levels) (type.answer levels).tree := by
  induction levels generalizing type with
  | zero =>
    have node : (ofTypeRef type).cut 0 = .node type.nodeKind type.nodeName? none := by
      cases type <;> rfl
    rw [node, TypeRef.answer, Value.tree]
    refine yields_node none (Value.record_membersTree _ (by simp)) ?_ (mayGive_nameOrNull _ rfl) ?_
    · exact gives_of_lookup rfl (by rw [Value.tree]; rfl)
    · exact .inl (by rw [Value.find?_membersTree]; rfl)
  | succ levels ih =>
    have node : (ofTypeRef type).cut (levels + 1) = .node type.nodeKind type.nodeName?
        (type.inner?.map fun inner => (ofTypeRef inner).cut levels) := by
      cases type <;> rfl
    rw [node, TypeRef.answer, Value.tree]
    refine yields_node _ (Value.record_membersTree _ (by simp)) ?_ (mayGive_nameOrNull _ rfl) ?_
    · exact gives_of_lookup rfl (by rw [Value.tree]; rfl)
    · cases type.inner? with
      | none => exact .inr (by rw [Value.find?_membersTree]; rfl)
      | some inner => exact gives_of_lookup rfl (ih inner)

end Wire

open Wire

-- The query follows references seven times. An answer about a reference with so many wrappers or
-- less is read as that reference; about any other one it is refused, and the wrapper at which it
-- ends is blamed. So it is with every well-formed reference wherever it is cut off.
theorem resolve_answered {type : TypeRef} (complete : type.Complete) (owner field : String) :
    (∃ before, queryLines = before ++ referenceFragment 7) ∧
    Json.Yields readReference ((ofTypeRef type).cut 7) (type.answer 7).tree ∧
    (type.depth ≤ 7 → ((ofTypeRef type).cut 7).resolve owner field = .ok type) ∧
    (7 < type.depth → ∃ kind, type.wrappers[7]? = some kind ∧
      ((ofTypeRef type).cut 7).resolve owner field =
        .error (.malformedReference owner field (kind.wireName ++ " without ofType"))) ∧
    ∀ reference : Reference, reference.WellFormed → ∃ meant, reference.Means meant ∧
      (∀ levels, meant.depth ≤ levels →
        (reference.cut levels).resolve owner field = .ok meant) ∧
      ∀ levels < meant.depth, ∃ kind, meant.wrappers[levels]? = some kind ∧
        (reference.cut levels).resolve owner field =
          .error (.malformedReference owner field (kind.wireName ++ " without ofType")) := by
  have means := means_ofTypeRef complete
  refine ⟨queryLines_ends, yields_answer 7 type, fun whole => ?_, fun short => ?_, ?_⟩
  · exact (means.cut whole).resolve owner field
  · exact means.resolve_short short owner field
  · intro reference sound
    obtain ⟨meant, means⟩ := sound.means
    refine ⟨meant, means, fun levels whole => ?_, fun levels short => ?_⟩
    · exact (means.cut whole).resolve owner field
    · exact means.resolve_short short owner field

-- Eight wrappers, the last of which is not asked for what it wraps.
def crowded : TypeRef :=
  .nonNull (.list (.nonNull (.list (.nonNull (.list (.nonNull (.list (.named .scalar "Int"))))))))

theorem resolve_answered_crowded :
    crowded.Complete ∧ crowded.depth = 8 ∧
      ((ofTypeRef crowded).cut 7).resolve "Paint" "hues" =
        .error (.malformedReference "Paint" "hues" "LIST without ofType") := by
  have complete : crowded.Complete := by
    rw [TypeRef.Complete]
    decide
  obtain ⟨_, _, _, refused, _⟩ := resolve_answered complete "Paint" "hues"
  obtain ⟨kind, placed, error⟩ := refused (by decide)
  cases placed
  exact ⟨complete, rfl, error⟩

end Introspection
end SchemaBindings
