import SchemaBindings.Proofs.Json.Scalars

namespace SchemaBindings.Json

def NoBlank (cs : List Char) : Prop := ∀ c ∈ cs.head?, isBlank c = false

theorem skipBlanks_blanks (blanks : Blanks u) (ends : NoBlank rest) (spot : Spot) :
    skipBlanks spot (u ++ rest) = ⟨spot.pastAll u, rest⟩ := by
  induction u generalizing spot with
  | nil =>
    cases rest with
    | nil => rfl
    | cons c rest =>
      have other : isBlank c = false := ends c rfl
      rw [List.nil_append, skipBlanks, other]
      rfl
  | cons c u ih =>
    have blank : isBlank c = true := blanks c (List.mem_cons_self ..)
    rw [List.cons_append, skipBlanks, if_pos blank,
      ih (fun d inside => blanks d (List.mem_cons_of_mem _ inside))]
    rfl

theorem noBlank_cons (other : isBlank c = false) (rest : List Char) : NoBlank (c :: rest) := by
  intro d first
  cases Option.some.inj first
  exact other

-- Behind a value stand blanks, and then a sign that no number goes on with or nothing.
theorem endsNumber_blanks (blanks : Blanks u) (ends : EndsNumber rest) : EndsNumber (u ++ rest) := by
  cases u with
  | nil => exact ends
  | cons b u =>
    intro c first
    cases Option.some.inj first
    have blank : isBlank b = true := blanks b (List.mem_cons_self ..)
    simp only [isBlank, Bool.or_eq_true, beq_iff_eq] at blank
    rcases blank with ((rfl | rfl) | rfl) | rfl <;> decide

theorem endsNumber_sign (sign : c = ',' ∨ c = ']' ∨ c = '}') (rest : List Char) :
    EndsNumber (c :: rest) := by
  intro d first
  cases Option.some.inj first
  rcases sign with rfl | rfl | rfl <;> decide

-- A value begins with a sign of its own, which is no blank and does not close a list.
structure BeginsValue (c : Char) : Prop where
  noBlank : isBlank c = false
  noEnd : c ≠ ']'

theorem beginsValue_digit (digit : Number.isDigit d = true) : BeginsValue d := by
  constructor
  · simp only [isBlank, Bool.or_eq_false_iff, beq_eq_false_iff_ne]
    refine ⟨⟨⟨?_, ?_⟩, ?_⟩, ?_⟩ <;> (rintro rfl; revert digit; decide)
  · rintro rfl
    revert digit
    decide

theorem Spells.begins {tree : Tree .value} (spelled : Spells tree cs) :
    ∃ c rest, cs = c :: rest ∧ BeginsValue c := by
  cases spelled with
  | null => exact ⟨_, _, rfl, by decide, by decide⟩
  | trueWord => exact ⟨_, _, rfl, by decide, by decide⟩
  | falseWord => exact ⟨_, _, rfl, by decide, by decide⟩
  | number shape =>
    obtain ⟨c, rest, rfl, rfl | digit⟩ := shape.head
    · exact ⟨_, _, rfl, by decide, by decide⟩
    · exact ⟨_, _, rfl, beginsValue_digit digit⟩
  | string _ => exact ⟨_, _, rfl, by decide, by decide⟩
  | list _ _ => exact ⟨_, _, rfl, by decide, by decide⟩
  | object _ _ => exact ⟨_, _, rfl, by decide, by decide⟩

theorem Spells.begins_item {value : Tree .value} {rest : Tree .items}
    (spelled : Spells (.item value rest) cs) : ∃ c more, cs = c :: more ∧ BeginsValue c := by
  cases spelled with
  | lastItem value _ =>
    obtain ⟨c, more, rfl, begins⟩ := value.begins
    exact ⟨_, _, rfl, begins⟩
  | nextItem value _ _ _ =>
    obtain ⟨c, more, rfl, begins⟩ := value.begins
    exact ⟨_, _, rfl, begins⟩

theorem Spells.begins_member {value : Tree .value} {rest : Tree .members}
    (spelled : Spells (.member key value rest) cs) : ∃ more, cs = '"' :: more := by
  cases spelled with
  | lastMember _ _ _ _ _ => exact ⟨_, rfl⟩
  | nextMember _ _ _ _ _ _ _ => exact ⟨_, rfl⟩

-- What scanning the spelled text of a part comes to, in front of any rest. An empty list and an
-- empty object are closed before their items or members are scanned.
def Scans : {p : Part} → Tree p → List Char → Prop
  | .value, tree, cs => ∀ fuel spot front rest, 2 * cs.length ≤ fuel → Blanks front →
      EndsNumber rest → ∃ node stop,
        scanValue fuel spot (front ++ (cs ++ rest)) = (node, ⟨stop, rest⟩) ∧ node.Says tree
  | .items, tree, cs => tree ≠ .noItems → ∀ fuel spot rest, 2 * cs.length ≤ fuel →
      ∃ node stop, scanItems fuel spot (cs ++ rest) = (node, ⟨stop, rest⟩) ∧ node.Says tree
  | .members, tree, cs => tree ≠ .noMembers → ∀ fuel first spot rest, 2 * cs.length ≤ fuel →
      ∃ node stop, scanMembers fuel first spot (cs ++ rest) = (node, ⟨stop, rest⟩) ∧ node.Says tree

theorem scanValue_scalar (fuel : Nat) (blanks : Blanks front) (noBlank : isBlank c = false)
    (noList : c ≠ '[') (noObject : c ≠ '{') (spot : Spot) :
    scanValue (fuel + 1) spot (front ++ c :: cs) =
      scanScalar (spot.pastAll front) (c :: cs) := by
  rw [scanValue, skipBlanks_blanks blanks (noBlank_cons noBlank cs)]
  simp [noList, noObject]

section Steps
variable (fuel : Nat) (spot : Spot)

theorem scanValue_emptyList (blanks : Blanks front) (space : Blanks inside) :
    ∃ start stop, scanValue (fuel + 1) spot (front ++ '[' :: (inside ++ ']' :: rest)) =
      (.list start (.itemsEnd stop), ⟨stop, rest⟩) := by
  refine ⟨spot.pastAll front, (((spot.pastAll front).along 1).pastAll inside).along 1, ?_⟩
  rw [scanValue, skipBlanks_blanks blanks (noBlank_cons rfl _)]
  simp only
  rw [skipBlanks_blanks space (noBlank_cons rfl _)]
  rfl

theorem scanValue_list (blanks : Blanks front) (space : Blanks inside) (begins : BeginsValue c) :
    ∃ start first, scanValue (fuel + 1) spot (front ++ '[' :: (inside ++ c :: cs)) =
      (.list start (scanItems fuel first (c :: cs)).1, (scanItems fuel first (c :: cs)).2) := by
  refine ⟨spot.pastAll front, ((spot.pastAll front).along 1).pastAll inside, ?_⟩
  have noEnd := begins.noEnd
  rw [scanValue, skipBlanks_blanks blanks (noBlank_cons rfl _)]
  simp only
  rw [skipBlanks_blanks space (noBlank_cons begins.noBlank _)]
  simp [noEnd]

theorem scanValue_emptyObject (blanks : Blanks front) (space : Blanks inside) :
    ∃ start stop, scanValue (fuel + 1) spot (front ++ '{' :: (inside ++ '}' :: rest)) =
      (.object start (.membersEnd stop), ⟨stop, rest⟩) := by
  refine ⟨spot.pastAll front, (((spot.pastAll front).along 1).pastAll inside).along 1, ?_⟩
  rw [scanValue, skipBlanks_blanks blanks (noBlank_cons rfl _)]
  simp only
  rw [skipBlanks_blanks space (noBlank_cons rfl _)]
  rfl

theorem scanValue_object (blanks : Blanks front) (space : Blanks inside) :
    ∃ start first, scanValue (fuel + 1) spot (front ++ '{' :: (inside ++ '"' :: cs)) =
      (.object start (scanMembers fuel true first ('"' :: cs)).1,
        (scanMembers fuel true first ('"' :: cs)).2) := by
  refine ⟨spot.pastAll front, ((spot.pastAll front).along 1).pastAll inside, ?_⟩
  rw [scanValue, skipBlanks_blanks blanks (noBlank_cons rfl _)]
  simp only
  rw [skipBlanks_blanks space (noBlank_cons rfl _)]
  rfl

theorem scanItems_last (value : scanValue fuel spot cs = (node, ⟨stop, behind ++ ']' :: rest⟩))
    (blanks : Blanks behind) :
    ∃ last, scanItems (fuel + 1) spot cs = (.item node (.itemsEnd last), ⟨last, rest⟩) := by
  refine ⟨(stop.pastAll behind).along 1, ?_⟩
  rw [scanItems, value]
  simp only [Cursor.skipBlanks]
  rw [skipBlanks_blanks blanks (noBlank_cons rfl _)]
  rfl

theorem scanItems_next
    (value : scanValue fuel spot cs = (node, ⟨stop, behind ++ ',' :: (due ++ c :: more)⟩))
    (blanks : Blanks behind) (space : Blanks due) (begins : BeginsValue c) :
    ∃ next, scanItems (fuel + 1) spot cs =
      (.item node (scanItems fuel next (c :: more)).1, (scanItems fuel next (c :: more)).2) := by
  refine ⟨((stop.pastAll behind).along 1).pastAll due, ?_⟩
  have noEnd := begins.noEnd
  rw [scanItems, value]
  simp only [Cursor.skipBlanks]
  rw [skipBlanks_blanks blanks (noBlank_cons rfl _)]
  simp only
  rw [skipBlanks_blanks space (noBlank_cons begins.noBlank _)]
  simp [noEnd]

end Steps

-- A value that scans well wherever it begins, and what is left behind it.
def ScansTo (fuel : Nat) (tree : Tree .value) (cs left : List Char) : Prop :=
  ∀ spot, ∃ node stop, scanValue fuel spot cs = (node, ⟨stop, left⟩) ∧ node.Says tree

theorem scanMembers_last (key : StringText ks s) (blanks : Blanks t)
    (value : ScansTo fuel tree cs (behind ++ '}' :: rest)) (space : Blanks behind) (first : Bool)
    (spot : Spot) :
    ∃ node stop, scanMembers (fuel + 1) first spot ('"' :: (ks ++ '"' :: (t ++ ':' :: cs))) =
      (node, ⟨stop, rest⟩) ∧ node.Says (.member (s.map String.ofList) tree .noMembers) := by
  obtain ⟨stop, passed⟩ := passString_text key (spot.along 1) (t ++ ':' :: cs)
  have content := readContent_text key (spot.along 1) (t ++ ':' :: cs)
  obtain ⟨node, last, scanned, whole⟩ := value ((stop.pastAll t).along 1)
  have computed : scanMembers (fuel + 1) first spot ('"' :: (ks ++ '"' :: (t ++ ':' :: cs))) =
      (.member (readContent (spot.along 1) (ks ++ '"' :: (t ++ ':' :: cs)))
        (settle ⟨stop.pastAll t, ':' :: cs⟩) node (last.pastAll behind)
        (.membersEnd ((last.pastAll behind).along 1)), ⟨(last.pastAll behind).along 1, rest⟩) := by
    rw [scanMembers, passed]
    simp only [Cursor.skipBlanks]
    rw [skipBlanks_blanks blanks (noBlank_cons rfl _)]
    simp only
    rw [scanned]
    simp only
    rw [skipBlanks_blanks space (noBlank_cons rfl _)]
    rfl
  exact ⟨_, _, computed, .member content whole .membersEnd⟩

theorem scanMembers_next (key : StringText ks s) (blanks : Blanks t)
    (value : ScansTo fuel tree cs (behind ++ ',' :: (due ++ '"' :: more)))
    (space : Blanks behind) (front : Blanks due)
    (others : ∀ spot, ∃ node stop,
      scanMembers fuel false spot ('"' :: more) = (node, ⟨stop, rest⟩) ∧ node.Says trees)
    (first : Bool) (spot : Spot) :
    ∃ node stop, scanMembers (fuel + 1) first spot ('"' :: (ks ++ '"' :: (t ++ ':' :: cs))) =
      (node, ⟨stop, rest⟩) ∧ node.Says (.member (s.map String.ofList) tree trees) := by
  obtain ⟨stop, passed⟩ := passString_text key (spot.along 1) (t ++ ':' :: cs)
  have content := readContent_text key (spot.along 1) (t ++ ':' :: cs)
  obtain ⟨node, last, scanned, whole⟩ := value ((stop.pastAll t).along 1)
  obtain ⟨nodes, final, following, wholes⟩ := others (((last.pastAll behind).along 1).pastAll due)
  have computed : scanMembers (fuel + 1) first spot ('"' :: (ks ++ '"' :: (t ++ ':' :: cs))) =
      (.member (readContent (spot.along 1) (ks ++ '"' :: (t ++ ':' :: cs)))
        (settle ⟨stop.pastAll t, ':' :: cs⟩) node (last.pastAll behind) nodes, ⟨final, rest⟩) := by
    rw [scanMembers, passed]
    simp only [Cursor.skipBlanks]
    rw [skipBlanks_blanks blanks (noBlank_cons rfl _)]
    simp only
    rw [scanned]
    simp only
    rw [skipBlanks_blanks space (noBlank_cons rfl _)]
    simp only
    rw [skipBlanks_blanks front (noBlank_cons rfl _)]
    simp only
    rw [following]
  exact ⟨_, _, computed, .member content whole wholes⟩

theorem passWord_append (spot : Spot) (word rest : List Char) :
    ∃ stop, passWord spot word (word ++ rest) = .ok ⟨stop, rest⟩ := by
  induction word generalizing spot with
  | nil => exact ⟨spot, by rw [List.nil_append, passWord]⟩
  | cons c word ih =>
    obtain ⟨stop, passed⟩ := ih (spot.past c)
    exact ⟨stop, by rw [List.cons_append, passWord, if_pos (beq_self_eq_true c), passed]⟩

theorem scanWord_append (spot : Spot) (c : Char) (word rest : List Char) (content : Scalar) :
    ∃ stop, scanWord spot c word content (word ++ rest) =
      (.scalar spot stop content, ⟨stop, rest⟩) := by
  obtain ⟨stop, passed⟩ := passWord_append (spot.past c) word rest
  exact ⟨stop, by rw [scanWord, passed]⟩

theorem scanString_text (content : StringText cs s) (spot : Spot) (rest : List Char) :
    ∃ node stop, scanString spot (cs ++ '"' :: rest) = (node, ⟨stop, rest⟩) ∧
      node.Says (.string (s.map String.ofList)) := by
  obtain ⟨stop, passed⟩ := passString_text content (spot.along 1) rest
  have scanned : scanString spot (cs ++ '"' :: rest) =
      (.scalar spot stop (.string (readContent (spot.along 1) (cs ++ '"' :: rest))),
        ⟨stop, rest⟩) := by
    simp only [scanString, passed]
  exact ⟨_, _, scanned, .string (readContent_text content (spot.along 1) rest)⟩

theorem scanScalar_number (shape : NumberText text) (spot : Spot) :
    scanScalar spot (text ++ rest) = scanNumber spot (text ++ rest) := by
  obtain ⟨c, cs, rfl, rfl | digit⟩ := shape.head
  · rfl
  · have word : c ≠ '"' ∧ c ≠ 'n' ∧ c ≠ 't' ∧ c ≠ 'f' := by
      refine ⟨?_, ?_, ?_, ?_⟩ <;> (rintro rfl; revert digit; decide)
    simp [scanScalar, word, digit]

-- A value without brackets scans as soon as its text does behind the blanks.
theorem scans_scalar {tree : Tree .value} (spelled : Spells tree cs)
    (single : ∀ c ∈ cs.head?, c ≠ '[' ∧ c ≠ '{')
    (scanned : ∀ spot rest, EndsNumber rest → ∃ node stop,
      scanScalar spot (cs ++ rest) = (node, ⟨stop, rest⟩) ∧ node.Says tree) :
    Scans tree cs := by
  intro fuel spot front rest fits blanks ends
  obtain ⟨c, more, rfl, begins⟩ := spelled.begins
  obtain ⟨noList, noObject⟩ := single c rfl
  cases fuel with
  | zero => simp at fits
  | succ fuel =>
    rw [List.cons_append, scanValue_scalar fuel blanks begins.noBlank noList noObject]
    exact scanned _ rest ends

theorem scans_list (blanks : Blanks inside) (items : Spells tree cs) (scans : Scans tree cs) :
    Scans (.list tree) ('[' :: (inside ++ cs)) := by
  intro fuel spot front rest fits space _
  cases fuel with
  | zero => simp at fits
  | succ fuel =>
    rw [List.cons_append, List.append_assoc]
    by_cases empty : tree = .noItems
    · subst empty
      cases items
      obtain ⟨start, stop, scanned⟩ := scanValue_emptyList fuel spot space blanks
      exact ⟨_, stop, scanned, .list .itemsEnd⟩
    · obtain ⟨c, more, rfl, begins⟩ : ∃ c more, cs = c :: more ∧ BeginsValue c := by
        cases tree with
        | noItems => exact (empty rfl).elim
        | item _ _ => exact items.begins_item
      obtain ⟨start, first, scanned⟩ := scanValue_list fuel spot space blanks begins
      obtain ⟨node, stop, inner, whole⟩ := scans empty fuel first rest (by
        simp only [List.length_cons, List.length_append] at fits ⊢
        omega)
      rw [List.cons_append] at inner ⊢
      rw [inner] at scanned
      exact ⟨_, stop, scanned, .list whole⟩

theorem scans_object (blanks : Blanks inside) (members : Spells tree cs) (scans : Scans tree cs) :
    Scans (.object tree) ('{' :: (inside ++ cs)) := by
  intro fuel spot front rest fits space _
  cases fuel with
  | zero => simp at fits
  | succ fuel =>
    rw [List.cons_append, List.append_assoc]
    by_cases empty : tree = .noMembers
    · subst empty
      cases members
      obtain ⟨start, stop, scanned⟩ := scanValue_emptyObject fuel spot space blanks
      exact ⟨_, stop, scanned, .object .membersEnd⟩
    · obtain ⟨more, rfl⟩ : ∃ more, cs = '"' :: more := by
        cases tree with
        | noMembers => exact (empty rfl).elim
        | member _ _ _ => exact members.begins_member
      obtain ⟨start, first, scanned⟩ := scanValue_object fuel spot space blanks
      obtain ⟨node, stop, inner, whole⟩ := scans empty fuel true first rest (by
        simp only [List.length_cons, List.length_append] at fits ⊢
        omega)
      rw [List.cons_append] at inner ⊢
      rw [inner] at scanned
      exact ⟨_, stop, scanned, .object whole⟩

theorem scans_lastItem (value : Scans tree cs) (blanks : Blanks behind) :
    Scans (.item tree .noItems) (cs ++ (behind ++ [']'])) := by
  intro _ fuel spot rest fits
  cases fuel with
  | zero => simp at fits
  | succ fuel =>
    obtain ⟨node, stop, scanned, whole⟩ := value fuel spot [] (behind ++ ']' :: rest)
      (by simp only [List.length_append, List.length_cons] at fits; omega) (by simp [Blanks])
      (endsNumber_blanks blanks (endsNumber_sign (by simp) rest))
    obtain ⟨last, scanned⟩ := scanItems_last fuel spot scanned blanks
    simp only [List.append_assoc, List.cons_append, List.nil_append] at scanned ⊢
    exact ⟨_, last, scanned, .item whole .itemsEnd⟩

theorem scans_nextItem (value : Scans tree cs) (blanks : Blanks behind) (space : Blanks due)
    (items : Spells (.item following others) ds) (scans : Scans (.item following others) ds) :
    Scans (.item tree (.item following others)) (cs ++ (behind ++ ',' :: (due ++ ds))) := by
  intro _ fuel spot rest fits
  cases fuel with
  | zero => simp at fits
  | succ fuel =>
    obtain ⟨c, more, rfl, begins⟩ := items.begins_item
    obtain ⟨node, stop, scanned, whole⟩ := value fuel spot []
      (behind ++ ',' :: (due ++ c :: (more ++ rest)))
      (by simp only [List.length_append, List.length_cons] at fits; omega) (by simp [Blanks])
      (endsNumber_blanks blanks (endsNumber_sign (by simp) _))
    obtain ⟨next, scanned⟩ := scanItems_next fuel spot scanned blanks space begins
    obtain ⟨nodes, last, following, wholes⟩ := scans (by simp) fuel next rest
      (by simp only [List.length_append, List.length_cons] at fits ⊢; omega)
    rw [List.cons_append] at following
    rw [following] at scanned
    simp only [List.append_assoc, List.cons_append, List.nil_append] at scanned ⊢
    exact ⟨_, last, scanned, .item whole wholes⟩

-- The value of a member begins behind the colon and its blanks.
theorem scansTo_value (fuel : Nat) (value : Scans tree cs) (fits : 2 * cs.length ≤ fuel)
    (front : Blanks u) (behind : Blanks v) (sign : c = ',' ∨ c = ']' ∨ c = '}') (rest : List Char) :
    ScansTo fuel tree (u ++ (cs ++ (v ++ c :: rest))) (v ++ c :: rest) := fun spot =>
  value fuel spot u _ fits front (endsNumber_blanks behind (endsNumber_sign sign rest))

theorem scans_lastMember (key : StringText ks s) (behindKey : Blanks t) (front : Blanks u)
    (value : Scans tree cs) (behind : Blanks v) :
    Scans (.member (s.map String.ofList) tree .noMembers)
      ('"' :: (ks ++ '"' :: (t ++ ':' :: (u ++ (cs ++ (v ++ ['}'])))))) := by
  intro _ fuel first spot rest fits
  cases fuel with
  | zero => simp at fits
  | succ fuel =>
    have inner := scansTo_value fuel value
      (by simp only [List.length_append, List.length_cons] at fits; omega) front behind
      (c := '}') (by simp) rest
    obtain ⟨node, stop, scanned, whole⟩ := scanMembers_last key behindKey inner behind first spot
    refine ⟨node, stop, ?_, whole⟩
    simpa only [List.append_assoc, List.cons_append, List.nil_append] using scanned

theorem scans_nextMember (key : StringText ks s) (behindKey : Blanks t) (front : Blanks u)
    (value : Scans tree cs) (behind : Blanks v) (due : Blanks w)
    (members : Spells (.member name following others) ds)
    (scans : Scans (.member name following others) ds) :
    Scans (.member (s.map String.ofList) tree (.member name following others))
      ('"' :: (ks ++ '"' :: (t ++ ':' :: (u ++ (cs ++ (v ++ ',' :: (w ++ ds))))))) := by
  intro _ fuel first spot rest fits
  cases fuel with
  | zero => simp at fits
  | succ fuel =>
    obtain ⟨more, rfl⟩ := members.begins_member
    have inner := scansTo_value fuel value
      (by simp only [List.length_append, List.length_cons] at fits; omega) front behind
      (c := ',') (by simp) (w ++ '"' :: (more ++ rest))
    have others := fun spot => scans (by simp) fuel false spot rest
      (by simp only [List.length_append, List.length_cons] at fits ⊢; omega)
    simp only [List.cons_append] at others
    obtain ⟨node, stop, scanned, whole⟩ :=
      scanMembers_next key behindKey inner behind due others first spot
    refine ⟨node, stop, ?_, whole⟩
    simpa only [List.append_assoc, List.cons_append, List.nil_append] using scanned

theorem Spells.scans {p : Part} {tree : Tree p} {cs : List Char} (spelled : Spells tree cs) :
    Scans tree cs := by
  induction spelled with
  | null =>
    refine scans_scalar .null (by simp) fun spot rest _ => ?_
    obtain ⟨stop, scanned⟩ := scanWord_append spot 'n' ['u', 'l', 'l'] rest .null
    exact ⟨_, stop, scanned, .null⟩
  | trueWord =>
    refine scans_scalar .trueWord (by simp) fun spot rest _ => ?_
    obtain ⟨stop, scanned⟩ := scanWord_append spot 't' ['r', 'u', 'e'] rest (.bool true)
    exact ⟨_, stop, scanned, .bool⟩
  | falseWord =>
    refine scans_scalar .falseWord (by simp) fun spot rest _ => ?_
    obtain ⟨stop, scanned⟩ := scanWord_append spot 'f' ['a', 'l', 's', 'e'] rest (.bool false)
    exact ⟨_, stop, scanned, .bool⟩
  | number shape =>
    refine scans_scalar (.number shape) ?_ fun spot rest ends => ?_
    · intro c first
      obtain ⟨d, ds, rfl, sign⟩ := shape.head
      cases Option.some.inj first
      rcases sign with rfl | digit
      · decide
      · constructor <;> (rintro rfl; revert digit; decide)
    · obtain ⟨stop, scanned⟩ := scanNumber_text shape ends spot
      exact ⟨_, stop, (scanScalar_number shape spot).trans scanned, .number⟩
  | string content =>
    refine scans_scalar (.string content) (by simp) fun spot rest _ => ?_
    obtain ⟨node, stop, scanned, whole⟩ := scanString_text content spot rest
    refine ⟨node, stop, ?_, whole⟩
    rw [List.cons_append, List.append_assoc]
    exact scanned
  | list blanks items ih => exact scans_list blanks items ih
  | object blanks members ih => exact scans_object blanks members ih
  | noItems => exact fun nonempty => (nonempty rfl).elim
  | lastItem _ blanks ih => exact scans_lastItem ih blanks
  | nextItem _ blanks space items value rest => exact scans_nextItem value blanks space items rest
  | noMembers => exact fun nonempty => (nonempty rfl).elim
  | lastMember key behindKey front _ behind ih =>
    exact scans_lastMember key behindKey front ih behind
  | nextMember key behindKey front _ behind due members value rest =>
    exact scans_nextMember key behindKey front value behind due members rest

-- Every spelled document is scanned to its end, into a node that says its tree.
theorem Spelled.scan_root {text : String} {tree : Tree .value} (spelled : Spelled text tree) :
    (scan text).root.Says tree ∧ (scan text).trailing = none := by
  obtain ⟨before, cs, behind, front, spells, space, equal⟩ := spelled
  have ends : EndsNumber (behind ++ []) :=
    endsNumber_blanks space (by intro c first; cases first)
  obtain ⟨node, stop, scanned, whole⟩ := spells.scans (2 * text.toList.length + 2) Spot.first
    before behind (by rw [equal]; simp only [List.length_append]; omega) front
    (by simpa using ends)
  have left : skipBlanks stop (behind ++ []) = ⟨stop.pastAll behind, []⟩ :=
    skipBlanks_blanks space (by intro c first; cases first) stop
  rw [List.append_nil] at left
  rw [← List.append_assoc, ← equal] at scanned
  simp only [scan, scanned, Cursor.skipBlanks, left]
  exact ⟨whole, rfl⟩

end SchemaBindings.Json
