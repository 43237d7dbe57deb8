import SchemaBindings.Json.Scan

namespace SchemaBindings.Json

-- The family of `Node` without places and without faults. A string or a key has no content when
-- its escapes are well formed and still give no text.
inductive Tree : Part → Type where
  | null : Tree .value
  | bool (b : Bool) : Tree .value
  | number (text : List Char) : Tree .value
  | string (content : Option String) : Tree .value
  | list (items : Tree .items) : Tree .value
  | object (members : Tree .members) : Tree .value
  | noItems : Tree .items
  | item (value : Tree .value) (rest : Tree .items) : Tree .items
  | noMembers : Tree .members
  | member (key : Option String) (value : Tree .value) (rest : Tree .members) : Tree .members

namespace Tree

def text (s : String) : Tree .value := .string (some s)

-- Items have a list of values, and only they.
def toItems : {p : Part} → Tree p → List (Tree .value)
  | _, .item value rest => value :: rest.toItems
  | _, _ => []

-- Members have a list of keys with their values, and only they.
def entries : {p : Part} → Tree p → List (Option String × Tree .value)
  | _, .member key value rest => (key, value) :: rest.entries
  | _, _ => []

def keys {p : Part} (members : Tree p) : List (Option String) := members.entries.map (·.1)

def find? {p : Part} (members : Tree p) (key : String) : Option (Tree .value) :=
  members.entries.lookup (some key)

-- How many brackets are open at the deepest place.
def nesting : {p : Part} → Tree p → Nat
  | _, .null => 0
  | _, .bool _ => 0
  | _, .number _ => 0
  | _, .string _ => 0
  | _, .list items => items.nesting + 1
  | _, .object members => members.nesting + 1
  | _, .noItems => 0
  | _, .item value rest => max value.nesting rest.nesting
  | _, .noMembers => 0
  | _, .member _ value rest => max value.nesting rest.nesting

theorem nesting_le_of_mem_toItems {p : Part} {items : Tree p} {value : Tree .value}
    (member : value ∈ items.toItems) : value.nesting ≤ items.nesting := by
  induction items with
  | item first rest _ ih =>
    simp only [nesting]
    rcases List.mem_cons.mp member with rfl | later
    · exact Nat.le_max_left _ _
    · exact Nat.le_trans (ih later) (Nat.le_max_right _ _)
  | _ => cases member

theorem nesting_le_of_mem_entries {p : Part} {members : Tree p} {key : Option String}
    {value : Tree .value} (member : (key, value) ∈ members.entries) :
    value.nesting ≤ members.nesting := by
  induction members with
  | member other first rest _ ih =>
    simp only [nesting]
    rcases List.mem_cons.mp member with equal | later
    · cases equal
      exact Nat.le_max_left _ _
    · exact Nat.le_trans (ih later) (Nat.le_max_right _ _)
  | _ => cases member

end Tree

-- A faulty part says nothing.
inductive Node.Says : {p : Part} → Node p → Tree p → Prop where
  | null : Says (.scalar start stop .null) .null
  | bool : Says (.scalar start stop (.bool b)) (.bool b)
  | number : Says (.scalar start stop (.number (Number.evaluate start text))) (.number text)
  | string (same : content.toOption = s) : Says (.scalar start stop (.string content)) (.string s)
  | list (items : Says node tree) : Says (.list start node) (.list tree)
  | object (members : Says node tree) : Says (.object start node) (.object tree)
  | itemsEnd : Says (.itemsEnd stop) .noItems
  | item (value : Says node tree) (rest : Says others trees) :
      Says (.item node others) (.item tree trees)
  | membersEnd : Says (.membersEnd stop) .noMembers
  | member (same : key.toOption = name) (value : Says node tree) (rest : Says others trees) :
      Says (.member key settled node next others) (.member name tree trees)

theorem Node.Says.passingFault {p : Part} {node : Node p} {tree : Tree p}
    (whole : node.Says tree) : node.passingFault = none := by
  induction whole with
  | null => rfl
  | bool => rfl
  | number => rfl
  | string => rfl
  | list _ ih => exact ih
  | object _ ih => exact ih
  | itemsEnd => rfl
  | item _ _ value rest => rw [Node.passingFault, value, rest]; rfl
  | membersEnd => rfl
  | member _ _ _ value rest => rw [Node.passingFault, value, rest]; rfl

def Blanks (cs : List Char) : Prop := ∀ c ∈ cs, isBlank c = true

def Digits (cs : List Char) : Prop := ∀ c ∈ cs, Number.isDigit c = true

-- No zero stands in front of other digits.
inductive WholeText : List Char → Prop where
  | zero : WholeText ['0']
  | digits (first : Number.isDigit d = true) (nonzero : d ≠ '0') (rest : Digits ds) :
      WholeText (d :: ds)

inductive FractionText : List Char → Prop where
  | absent : FractionText []
  | digits (first : Number.isDigit d = true) (rest : Digits ds) : FractionText ('.' :: d :: ds)

inductive SignText : List Char → Prop where
  | absent : SignText []
  | plus : SignText ['+']
  | minus : SignText ['-']

inductive ExponentText : List Char → Prop where
  | absent : ExponentText []
  | digits (letter : e = 'e' ∨ e = 'E') (sign : SignText s) (first : Number.isDigit d = true)
      (rest : Digits ds) : ExponentText (e :: (s ++ d :: ds))

inductive NumberText : List Char → Prop where
  | plain (whole : WholeText w) (fraction : FractionText f) (exponent : ExponentText x) :
      NumberText (w ++ (f ++ x))
  | negative (whole : WholeText w) (fraction : FractionText f) (exponent : ExponentText x) :
      NumberText ('-' :: (w ++ (f ++ x)))

-- The second half of a pair of escapes stands in front.
def StartsWithTrail (cs : List Char) : Prop :=
  ∃ a b c d unit rest, cs = '\\' :: 'u' :: a :: b :: c :: d :: rest ∧
    hexUnit a b c d = some unit ∧ isTrail unit = true

-- What stands between the quotes, and the characters it gives. Half a pair of escapes that stands
-- alone is well formed but gives none.
inductive StringText : List Char → Option (List Char) → Prop where
  | done : StringText [] (some [])
  | plain (quote : c ≠ '"') (slash : c ≠ '\\') (control : isControl c = false)
      (rest : StringText cs s) : StringText (c :: cs) (s.map (c :: ·))
  | escape (known : simpleEscape e = some c) (rest : StringText cs s) :
      StringText ('\\' :: e :: cs) (s.map (c :: ·))
  | unit (known : hexUnit a b c d = some unit) (noLead : isLead unit = false)
      (noTrail : isTrail unit = false) (rest : StringText cs s) :
      StringText ('\\' :: 'u' :: a :: b :: c :: d :: cs) (s.map (Char.ofNat unit :: ·))
  | pair (known : hexUnit a b c d = some first) (lead : isLead first = true)
      (followed : hexUnit e f g h = some second) (trail : isTrail second = true)
      (rest : StringText cs s) :
      StringText ('\\' :: 'u' :: a :: b :: c :: d :: '\\' :: 'u' :: e :: f :: g :: h :: cs)
        (s.map (joinUnits first second :: ·))
  | loneLead (known : hexUnit a b c d = some unit) (lead : isLead unit = true)
      (alone : ¬StartsWithTrail cs) (rest : StringText cs s) :
      StringText ('\\' :: 'u' :: a :: b :: c :: d :: cs) none
  | loneTrail (known : hexUnit a b c d = some unit) (trail : isTrail unit = true)
      (rest : StringText cs s) : StringText ('\\' :: 'u' :: a :: b :: c :: d :: cs) none

-- Items and members are spelled from the first of them to the closing bracket.
inductive Spells : {p : Part} → Tree p → List Char → Prop where
  | null : Spells .null ['n', 'u', 'l', 'l']
  | trueWord : Spells (.bool true) ['t', 'r', 'u', 'e']
  | falseWord : Spells (.bool false) ['f', 'a', 'l', 's', 'e']
  | number (shape : NumberText text) : Spells (.number text) text
  | string (content : StringText cs s) :
      Spells (.string (s.map String.ofList)) ('"' :: (cs ++ ['"']))
  | list (inside : Blanks u) (items : Spells tree cs) : Spells (.list tree) ('[' :: (u ++ cs))
  | object (inside : Blanks u) (members : Spells tree cs) :
      Spells (.object tree) ('{' :: (u ++ cs))
  | noItems : Spells .noItems [']']
  | lastItem (value : Spells tree cs) (behind : Blanks u) :
      Spells (.item tree .noItems) (cs ++ (u ++ [']']))
  | nextItem (value : Spells tree cs) (behind : Blanks u) (due : Blanks v)
      (rest : Spells (.item following others) ds) :
      Spells (.item tree (.item following others)) (cs ++ (u ++ ',' :: (v ++ ds)))
  | noMembers : Spells .noMembers ['}']
  | lastMember (key : StringText ks s) (behindKey : Blanks t) (front : Blanks u)
      (value : Spells tree cs) (behind : Blanks v) :
      Spells (.member (s.map String.ofList) tree .noMembers)
        ('"' :: (ks ++ '"' :: (t ++ ':' :: (u ++ (cs ++ (v ++ ['}']))))))
  | nextMember (key : StringText ks s) (behindKey : Blanks t) (front : Blanks u)
      (value : Spells tree cs) (behind : Blanks v) (due : Blanks w)
      (rest : Spells (.member name following others) ds) :
      Spells (.member (s.map String.ofList) tree (.member name following others))
        ('"' :: (ks ++ '"' :: (t ++ ':' :: (u ++ (cs ++ (v ++ ',' :: (w ++ ds)))))))

-- Blanks may also stand around the whole document.
def Spelled (text : String) (tree : Tree .value) : Prop :=
  ∃ before cs behind, Blanks before ∧ Spells tree cs ∧ Blanks behind ∧
    text.toList = before ++ cs ++ behind

end SchemaBindings.Json
