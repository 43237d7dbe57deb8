import Mathlib.Algebra.Group.Nat.Defs
import Mathlib.Data.List.TakeWhile
import SchemaBindings.Source.Token

namespace SchemaBindings

section Parting
variable {p : α → Bool} {front behind : List α}

theorem takeWhile_front (holds : ∀ a ∈ front, p a = true)
    (stops : ∀ a ∈ behind.head?, p a = false) : (front ++ behind).takeWhile p = front := by
  rw [List.takeWhile_append_of_pos holds]
  cases behind with
  | nil => rw [List.takeWhile_nil, List.append_nil]
  | cons a behind =>
    rw [List.takeWhile_cons_of_neg (Bool.eq_false_iff.mp (stops a rfl)), List.append_nil]

theorem dropWhile_front (holds : ∀ a ∈ front, p a = true)
    (stops : ∀ a ∈ behind.head?, p a = false) : (front ++ behind).dropWhile p = behind := by
  rw [List.dropWhile_append_of_pos holds]
  cases behind with
  | nil => rfl
  | cons a behind => rw [List.dropWhile_cons_of_neg (Bool.eq_false_iff.mp (stops a rfl))]

end Parting

namespace Text.Quoted

open Source.Literal (isHexDigit hexValue)

-- What a letter behind a backslash stands for.
def escapedChar : Char → Option Char
  | '0' => some '\x00'
  | 't' => some '\t'
  | 'r' => some '\r'
  | 'n' => some '\n'
  | '\\' => some '\\'
  | '\'' => some '\''
  | '"' => some '"'
  | _ => none

def behind (c : Char) (read : Option (List Char × List Char)) : Option (List Char × List Char) :=
  read.map fun (cs, after) => (c :: cs, after)

-- From behind the opening quote: the text up to the closing one, and what follows that.
mutual
def content : List Char → Option (List Char × List Char)
  | [] => none
  | c :: rest =>
    if c == '"' then some ([], rest)
    else if c == '\\' then escaped rest
    else if c == '\r' then none
    else behind c (content rest)

def escaped : List Char → Option (List Char × List Char)
  | [] => none
  | c :: rest =>
    if c == 'u' then braced rest
    else (escapedChar c).bind fun meant => behind meant (content rest)

def braced : List Char → Option (List Char × List Char)
  | [] => none
  | c :: rest => if c == '{' then numbered 0 0 rest else none

-- Up to six digits, and the brace behind them.
def numbered (value count : Nat) : List Char → Option (List Char × List Char)
  | [] => none
  | c :: rest =>
    if isHexDigit c then
      if count < 6 then numbered (value * 16 + hexValue c) (count + 1) rest else none
    else if c == '}' && 0 < count && value.isValidChar then
      behind (Char.ofNat value) (content rest)
    else none
end

-- The literal at the front, and what follows it.
def read : List Char → Option (String × List Char)
  | '"' :: rest => (content rest).map fun (cs, after) => (String.ofList cs, after)
  | _ => none

section Digits

theorem hexDigit_read : ∀ n < 16, isHexDigit (hexDigit n) = true ∧ hexValue (hexDigit n) = n := by
  decide

theorem length_hexDigits_le (small : n < 16 ^ (k + 1)) : (hexDigits n).length ≤ k + 1 := by
  induction k generalizing n with
  | zero => simp [hexDigits, show n < 16 by omega]
  | succ k ih =>
    rw [hexDigits]
    split
    · simp
    · have shorter : n / 16 < 16 ^ (k + 1) := by
        rw [Nat.pow_succ] at small
        exact Nat.div_lt_of_lt_mul (by omega)
      rw [List.length_append, List.length_singleton]
      exact Nat.succ_le_succ (ih shorter)

theorem length_hexDigits_pos (n : Nat) : 0 < (hexDigits n).length := by
  rw [hexDigits]
  split
  · exact Nat.one_pos
  · simp

theorem length_hexDigits_char (c : Char) : (hexDigits c.toNat).length ≤ 6 := by
  have small : c.toNat < 16 ^ (5 + 1) := by
    rcases c.valid with low | ⟨_, high⟩
    · exact Nat.lt_trans low (by decide)
    · exact Nat.lt_trans high (by decide)
  exact length_hexDigits_le small

-- A reader that takes up to six digits one by one. The induction follows the digits from the first
-- one on, with the value so far in front of them.
theorem read_hexDigits {reader : Nat → Nat → List Char → α}
    (digit : ∀ n < 16, ∀ value count rest, count < 6 →
      reader value count (hexDigit n :: rest) = reader (value * 16 + n) (count + 1) rest)
    (n value count : Nat) (room : count + (hexDigits n).length ≤ 6) (rest : List Char) :
    reader value count (hexDigits n ++ rest) =
      reader (value * 16 ^ (hexDigits n).length + n) (count + (hexDigits n).length) rest := by
  fun_induction hexDigits n generalizing rest with
  | case1 n small =>
    rw [List.length_singleton] at room
    rw [List.singleton_append, digit n small _ _ _ (by omega), List.length_singleton, Nat.pow_one]
  | case2 n large ih =>
    rw [List.length_append, List.length_singleton] at room
    have sum (power : Nat) : (value * power + n / 16) * 16 + n % 16 = value * (power * 16) + n := by
      have parts := Nat.div_add_mod n 16
      rw [Nat.add_mul, Nat.mul_assoc]
      omega
    rw [List.append_assoc, ih (by omega), List.singleton_append,
      digit _ (Nat.mod_lt _ (by decide)) _ _ _ (by omega), List.length_append,
      List.length_singleton, Nat.pow_succ, sum, Nat.add_assoc]

theorem numbered_digit : ∀ n < 16, ∀ value count rest, count < 6 →
    numbered value count (hexDigit n :: rest) = numbered (value * 16 + n) (count + 1) rest := by
  intro n digit value count rest room
  obtain ⟨known, its⟩ := hexDigit_read n digit
  rw [numbered, known, if_pos rfl, if_pos room, its]

theorem content_code (c : Char) (rest : List Char) :
    content ('\\' :: 'u' :: '{' :: (hexDigits c.toNat ++ '}' :: rest)) =
      behind c (content rest) := by
  have count := length_hexDigits_char c
  have some := length_hexDigits_pos c.toNat
  have valid : c.toNat.isValidChar := c.valid
  have brace : isHexDigit '}' = false := by decide
  have opened : content ('\\' :: 'u' :: '{' :: (hexDigits c.toNat ++ '}' :: rest)) =
      numbered 0 0 (hexDigits c.toNat ++ '}' :: rest) := rfl
  rw [opened, read_hexDigits numbered_digit _ _ _ (by omega), numbered, brace]
  simp [some, valid]

end Digits

section Escapes

-- The letters that stand for another character when a backslash is before them.
def shortSigns : List Char := ['0', 't', 'r', 'n', '\\', '"']

-- The three ways in which a character is written.
inductive Escaped (c : Char) : List Char → Prop where
  | short (sign : letter ∈ shortSigns) (meant : escapedChar letter = some c) :
      Escaped c ['\\', letter]
  | shown (visible : isVisible c = true) (quote : c ≠ '"') (backslash : c ≠ '\\') : Escaped c [c]
  | code : Escaped c ('\\' :: 'u' :: '{' :: (hexDigits c.toNat ++ ['}']))

theorem escaped_escape (c : Char) : Escaped c (escape c) := by
  rw [escape]
  -- The characters that have an escape of their own.
  iterate 6
    split
    · rename_i same
      rw [beq_iff_eq.mp same]
      exact .short (by decide) rfl
  rename_i backslash quote
  split
  · rename_i visible
    exact .shown visible (mt beq_iff_eq.mpr quote) (mt beq_iff_eq.mpr backslash)
  · exact .code

theorem forall_hexDigits {p : Char → Prop} (digit : ∀ n < 16, p (hexDigit n)) (n : Nat) :
    ∀ d ∈ hexDigits n, p d := by
  fun_induction hexDigits n with
  | case1 n small => exact List.forall_mem_singleton.mpr (digit n small)
  | case2 n large ih =>
    exact List.forall_mem_append.mpr
      ⟨ih, List.forall_mem_singleton.mpr (digit _ (Nat.mod_lt _ (by decide)))⟩

theorem Escaped.visible {text : List Char} (way : Escaped c text) :
    ∀ d ∈ text, isVisible d = true := by
  cases way with
  | short sign _ =>
    have signs : shortSigns.all isVisible = true := by decide
    have shown := List.all_eq_true.mp signs _ sign
    exact List.forall_mem_cons.mpr ⟨by decide, List.forall_mem_singleton.mpr shown⟩
  | shown visible _ _ => exact List.forall_mem_singleton.mpr visible
  | code =>
    simp only [List.forall_mem_cons, List.forall_mem_append]
    exact ⟨by decide, by decide, by decide, forall_hexDigits (by decide) _, by decide, nofun⟩

-- No character between the quotes breaks the line.
theorem visible_encode (s : String) : ∀ d ∈ (encode s).toList, isVisible d = true := by
  rw [encode, String.toList_ofList, List.cons_append, List.forall_mem_cons, List.forall_mem_append]
  refine ⟨by decide, fun d inside => ?_, List.forall_mem_singleton.mpr (by decide)⟩
  obtain ⟨c, _, its⟩ := List.mem_flatMap.mp inside
  exact (escaped_escape c).visible d its

theorem Escaped.content {text : List Char} (way : Escaped c text) (rest : List Char) :
    content (text ++ rest) = behind c (content rest) := by
  cases way with
  | short sign meant =>
    rename_i letter
    have others : shortSigns.all (· != 'u') = true := by decide
    have other : ¬(letter == 'u') = true := by simpa using List.all_eq_true.mp others letter sign
    have opened : Quoted.content ('\\' :: letter :: rest) = escaped (letter :: rest) := rfl
    rw [List.cons_append, List.singleton_append, opened, escaped, if_neg other, meant]
    rfl
  | shown visible quote backslash =>
    have carriage : c ≠ '\r' := by
      rintro rfl
      cases visible
    rw [List.singleton_append, Quoted.content, if_neg (mt beq_iff_eq.mp quote),
      if_neg (mt beq_iff_eq.mp backslash), if_neg (mt beq_iff_eq.mp carriage)]
  | code =>
    rw [List.cons_append, List.cons_append, List.cons_append, List.append_assoc]
    exact content_code c rest

theorem content_escapes (cs after : List Char) :
    content (cs.flatMap escape ++ '"' :: after) = some (cs, after) := by
  induction cs with
  | nil => rfl
  | cons c rest ih => rw [List.flatMap_cons, List.append_assoc, (escaped_escape c).content, ih]; rfl

theorem read_encode (s : String) (after : List Char) :
    read ((encode s).toList ++ after) = some (s, after) := by
  rw [encode, String.toList_ofList, List.cons_append, List.cons_append, List.append_assoc, read,
    List.singleton_append, content_escapes, Option.map_some]
  dsimp only
  rw [String.ofList_toList]

end Escapes

section Closing

-- Whether a literal is over before its last quote: at a quote with no backslash of its own before
-- it, or because a backslash takes that last quote for itself.
def endsEarly : List Char → Bool
  | [] => false
  | ['\\'] => true
  | '\\' :: _ :: rest => endsEarly rest
  | c :: rest => c == '"' || endsEarly rest

theorem endsEarly_plain (quote : c ≠ '"') (backslash : c ≠ '\\') (rest : List Char) :
    endsEarly (c :: rest) = endsEarly rest := by
  have other : (c == '"') = false := beq_eq_false_iff_ne.mpr quote
  rw [endsEarly.eq_4 _ _ (fun same => absurd same backslash) fun _ _ same => absurd same backslash,
    other, Bool.false_or]

theorem endsEarly_append (plain : ∀ c ∈ text, c ≠ '"' ∧ c ≠ '\\') (rest : List Char) :
    endsEarly (text ++ rest) = endsEarly rest := by
  induction text with
  | nil => rfl
  | cons c others ih =>
    obtain ⟨⟨quote, backslash⟩, later⟩ := List.forall_mem_cons.mp plain
    rw [List.cons_append, endsEarly_plain quote backslash, ih later]

theorem Escaped.endsEarly {text : List Char} (way : Escaped c text) (rest : List Char) :
    endsEarly (text ++ rest) = endsEarly rest := by
  cases way with
  | short _ _ => rfl
  | shown _ quote backslash => exact endsEarly_plain quote backslash rest
  | code =>
    have digits := endsEarly_append (forall_hexDigits (by decide) c.toNat) ('}' :: rest)
    have brace := endsEarly_plain (c := '}') (by decide) (by decide) rest
    have opened : Quoted.endsEarly
        ('\\' :: 'u' :: '{' :: (hexDigits c.toNat ++ ['}']) ++ rest) =
        Quoted.endsEarly ('{' :: (hexDigits c.toNat ++ '}' :: rest)) := by simp [Quoted.endsEarly]
    rw [opened, endsEarly_plain (by decide) (by decide), digits, brace]

theorem endsEarly_escapes (cs : List Char) : endsEarly (cs.flatMap escape) = false := by
  induction cs with
  | nil => rfl
  | cons c rest ih => rw [List.flatMap_cons, (escaped_escape c).endsEarly, ih]

end Closing

end Text.Quoted

end SchemaBindings
