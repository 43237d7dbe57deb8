import Mathlib.Data.List.Chain
import SchemaBindings.Proofs.Naming.Legal

namespace SchemaBindings.Naming

def letters (cs : List Char) : List Char := cs.filter (!isSeparator ·)

-- With the rows laid end to end, the row in which the nth character stands.
def rowOf : List (List Char) → Nat → Nat
  | [], _ => 0
  | row :: rest, n => if n < row.length then 0 else rowOf rest (n - row.length) + 1

-- The word into which the character at a position falls, by its number. The words hold the letters
-- of the name in their order, so that the letters before the position are counted.
def wordAt (cs : List Char) (i : Nat) : Nat := rowOf (words cs) (letters (cs.take i)).length

section Rows
variable {done rest rows : List (List Char)}

theorem rowOf_append (done rest : List (List Char)) (n : Nat) :
    rowOf (done ++ rest) (done.flatten.length + n) = done.length + rowOf rest n := by
  induction done with
  | nil => simp
  | cons row others ih =>
    have beyond : ¬row.length + others.flatten.length + n < row.length := by omega
    have left : row.length + others.flatten.length + n - row.length = others.flatten.length + n := by
      omega
    rw [List.cons_append, List.flatten_cons, List.length_append, rowOf, if_neg beyond, left, ih,
      List.length_cons]
    omega

theorem rowOf_lt (inside : n < done.flatten.length) : rowOf (done ++ rest) n < done.length := by
  induction done generalizing n with
  | nil => cases inside
  | cons row others ih =>
    rw [List.cons_append, rowOf]
    split
    · exact Nat.zero_lt_succ _
    · rw [List.flatten_cons, List.length_append] at inside
      exact Nat.succ_lt_succ (ih (by omega))

theorem le_rowOf (beyond : done.flatten.length ≤ n) : done.length ≤ rowOf (done ++ rest) n := by
  obtain ⟨m, rfl⟩ := Nat.exists_eq_add_of_le beyond
  rw [rowOf_append]
  exact Nat.le_add_right ..

theorem mem_rowOf {c : Char} (found : rows.flatten[n]? = some c) :
    ∃ row, rows[rowOf rows n]? = some row ∧ c ∈ row := by
  induction rows generalizing n with
  | nil => cases found
  | cons row others ih =>
    rw [List.flatten_cons, List.getElem?_append] at found
    rw [rowOf]
    split at found
    · rename_i within
      rw [if_pos within]
      exact ⟨row, rfl, List.mem_of_getElem? found⟩
    · rename_i beyond
      rw [if_neg beyond]
      exact ih found

end Rows

section Letters
variable {cs before after : List Char}

theorem split_at {values : List α} (found : values[i]? = some a) :
    values = values.take i ++ a :: values.drop (i + 1) ∧ (values.take i).length = i := by
  obtain ⟨bound, its⟩ := List.getElem?_eq_some_iff.mp found
  constructor
  · rw [← its, List.getElem_cons_drop, List.take_append_drop]
  · exact List.length_take_of_le (Nat.le_of_lt bound)

theorem letters_append (before after : List Char) :
    letters (before ++ after) = letters before ++ letters after := List.filter_append ..

theorem letters_cons (letter : isSeparator c = false) (cs : List Char) :
    letters (c :: cs) = c :: letters cs := by
  rw [letters, List.filter_cons_of_pos (by rw [letter]; rfl)]
  rfl

theorem letters_separator (separator : isSeparator c = true) : letters [c] = [] := by
  rw [letters, List.filter_cons_of_neg (by rw [separator]; decide)]
  rfl

theorem letters_take (cs : List Char) (before : i ≤ j) :
    (letters (cs.take i)).length ≤ (letters (cs.take j)).length :=
  ((List.take_sublist_take_left before).filter _).length_le

-- A letter is as far along among the letters as there are letters before it.
theorem getElem?_letters (found : cs[i]? = some c) (letter : isSeparator c = false) :
    (letters cs)[(letters (cs.take i)).length]? = some c := by
  have whole : letters cs = letters (cs.take i) ++ c :: letters (cs.drop (i + 1)) := by
    rw [← letters_cons letter, ← letters_append, ← (split_at found).1]
  rw [whole, List.getElem?_append_right (Nat.le_refl _), Nat.sub_self]
  rfl

end Letters

section Steps
variable {c p : Char} {held behind rest : List Char}

theorem wordsFrom_end (some : held ≠ []) : wordsFrom held [] = [held.reverse] := by
  simp [wordsFrom, some]

theorem wordsFrom_separator (separator : isSeparator c = true) (some : held ≠ []) :
    wordsFrom held (c :: rest) = held.reverse :: wordsFrom [] rest := by
  simp [wordsFrom.eq_def held, separator, some]

theorem wordsFrom_first (letter : isSeparator c = false) (rest : List Char) :
    wordsFrom [] (c :: rest) = wordsFrom [c] rest := by
  rw [wordsFrom, letter, if_neg Bool.false_ne_true]

theorem wordsFrom_opens (letter : isSeparator c = false) (opens : opensWord p c rest.head? = true) :
    wordsFrom (p :: behind) (c :: rest) = (p :: behind).reverse :: wordsFrom [c] rest := by
  rw [wordsFrom, letter, if_neg Bool.false_ne_true, if_pos opens]

theorem wordsFrom_joins (letter : isSeparator c = false)
    (joins : opensWord p c rest.head? = false) :
    wordsFrom (p :: behind) (c :: rest) = wordsFrom (c :: p :: behind) rest := by
  rw [wordsFrom, letter, if_neg Bool.false_ne_true, joins, if_neg Bool.false_ne_true]

end Steps

section Reading
variable {cs held before after : List Char}

-- One character more: perhaps a word is done, and the character is held unless it is a separator.
theorem wordsFrom_cons (held : List Char) (c : Char) (after : List Char) :
    ∃ done kept, wordsFrom held (c :: after) = done ++ wordsFrom kept after ∧
      done.flatten ++ kept.reverse = held.reverse ++ letters [c] ∧
      kept.head? = if isSeparator c then none else some c := by
  rw [wordsFrom.eq_def]
  dsimp only
  split
  · rename_i separator
    rw [letters_separator separator]
    cases held with
    | nil => exact ⟨[], [], rfl, rfl, rfl⟩
    | cons previous behind =>
      refine ⟨[(previous :: behind).reverse], [], rfl, ?_, rfl⟩
      rw [List.flatten_singleton]
      rfl
  · rename_i letter
    rw [letters_cons (Bool.eq_false_iff.mpr letter)]
    cases held with
    | nil => exact ⟨[], [c], rfl, rfl, rfl⟩
    | cons previous behind =>
      dsimp only
      split
      · refine ⟨[(previous :: behind).reverse], [c], rfl, ?_, rfl⟩
        rw [List.flatten_singleton]
        rfl
      · exact ⟨[], c :: previous :: behind, rfl, List.reverse_cons, rfl⟩

-- The induction is on what has been read: the words that are done and the one that is held make up
-- its letters.
theorem wordsFrom_append (held before after : List Char) :
    ∃ done kept, wordsFrom held (before ++ after) = done ++ wordsFrom kept after ∧
      done.flatten ++ kept.reverse = held.reverse ++ letters before := by
  induction before generalizing held with
  | nil => exact ⟨[], held, rfl, (List.append_nil _).symm⟩
  | cons c rest ih =>
    obtain ⟨first, kept, step, passed, _⟩ := wordsFrom_cons held c (rest ++ after)
    obtain ⟨others, last, run, more⟩ := ih kept
    refine ⟨first ++ others, last, ?_, ?_⟩
    · rw [List.cons_append, step, run, List.append_assoc]
    · rw [List.flatten_append, List.append_assoc, more, ← List.append_assoc, passed,
        List.append_assoc, ← letters_append]
      rfl

theorem words_append_cons (before : List Char) (c : Char) (after : List Char) :
    ∃ done kept, words (before ++ c :: after) = done ++ wordsFrom kept after ∧
      done.flatten ++ kept.reverse = letters (before ++ [c]) ∧
      kept.head? = if isSeparator c then none else some c := by
  obtain ⟨done, held, run, passed⟩ := wordsFrom_append [] before (c :: after)
  obtain ⟨others, kept, step, more, last⟩ := wordsFrom_cons held c after
  refine ⟨done ++ others, kept, ?_, ?_, last⟩
  · rw [words, run, step, List.append_assoc]
  · rw [List.flatten_append, List.append_assoc, more, ← List.append_assoc, passed, letters_append]
    rfl

theorem flatten_words (cs : List Char) : (words cs).flatten = letters cs := by
  obtain ⟨done, kept, run, passed⟩ := wordsFrom_append [] cs []
  have last : (wordsFrom kept []).flatten = kept.reverse := by
    cases kept with
    | nil => rfl
    | cons c behind => exact List.flatten_singleton ..
  rw [List.append_nil] at run
  rw [words, run, List.flatten_append, last, passed]
  rfl

end Reading

section Seams
variable {cs before after : List Char} {p c : Char}

theorem opensWord_iff : opensWord p c next = true ↔
    Text.isUpper c = true ∧ (Text.isLower p = true ∨ Text.isAsciiDigit p = true ∨
      Text.isUpper p = true ∧ ∃ n, next = some n ∧ Text.isLower n = true) := by
  simp only [opensWord, Bool.and_eq_true, Bool.or_eq_true, Option.any_eq_true, or_assoc]

-- Behind its first letter a word is held, and the second one opens a word or is held as well.
theorem wordAt_seam (first : isSeparator p = false) (second : isSeparator c = false)
    (before after : List Char) :
    wordAt (before ++ p :: c :: after) before.length ≠
        wordAt (before ++ p :: c :: after) (before.length + 1) ↔
      opensWord p c after.head? = true := by
  obtain ⟨done, kept, read, passed, last⟩ := words_append_cons before p (c :: after)
  rw [first, if_neg Bool.false_ne_true] at last
  obtain ⟨earlier, rfl⟩ := List.head?_eq_some_iff.mp last
  have one : letters (before ++ [p]) = letters before ++ [p] := by
    rw [letters_append, letters_cons first]
    rfl
  have count : (letters before).length = done.flatten.length + earlier.length := by
    rw [one, List.reverse_cons, ← List.append_assoc] at passed
    rw [← List.append_cancel_right passed, List.length_append, List.length_reverse]
  have left : wordAt (before ++ p :: c :: after) before.length =
      done.length + rowOf (wordsFrom (p :: earlier) (c :: after)) earlier.length := by
    rw [wordAt, List.take_left, read, count, rowOf_append]
  have right : wordAt (before ++ p :: c :: after) (before.length + 1) =
      done.length + rowOf (wordsFrom (p :: earlier) (c :: after)) (earlier.length + 1) := by
    rw [wordAt, List.take_length_add_append, List.take_succ_cons, List.take_zero, one, read,
      List.length_append, count, Nat.add_assoc, rowOf_append]
    rfl
  rw [left, right]
  by_cases opens : opensWord p c after.head? = true
  · obtain ⟨more, others, begun⟩ := wordsFrom_held (List.cons_ne_nil c []) after
    rw [wordsFrom_opens second opens, begun]
    simp [rowOf, opens]
  · have joins : opensWord p c after.head? = false := Bool.eq_false_iff.mpr opens
    obtain ⟨more, others, begun⟩ := wordsFrom_held (List.cons_ne_nil c (p :: earlier)) after
    rw [wordsFrom_joins second joins, begun]
    simp [rowOf, joins]

-- A separator leaves nothing held, so that the words before it are done.
theorem wordAt_separated (separator : isSeparator s = true) (letter : isSeparator p = false)
    (found : before[i]? = some p) (beyond : before.length ≤ j) (after : List Char) :
    wordAt (before ++ s :: after) i < wordAt (before ++ s :: after) j := by
  obtain ⟨done, kept, read, passed, last⟩ := words_append_cons before s after
  rw [separator, if_pos rfl, List.head?_eq_none_iff] at last
  subst last
  rw [List.reverse_nil, List.append_nil, letters_append, letters_separator separator,
    List.append_nil] at passed
  obtain ⟨bound, _⟩ := List.getElem?_eq_some_iff.mp found
  have inside : (letters ((before ++ s :: after).take i)).length < done.flatten.length := by
    have there := (List.getElem?_eq_some_iff.mp (getElem?_letters found letter)).1
    rwa [passed, List.take_append_of_le_length (Nat.le_of_lt bound)]
  have whole : done.flatten.length ≤ (letters ((before ++ s :: after).take j)).length := by
    have first := letters_take (before ++ s :: after) beyond
    rwa [List.take_left, ← passed] at first
  rw [wordAt, wordAt, read]
  exact Nat.lt_of_lt_of_le (rowOf_lt inside) (le_rowOf whole)

end Seams

-- The words are the name without its separators; none is empty, and none has a separator in it. Two
-- letters side by side fall into different words exactly if the second is a capital behind a small
-- letter or a digit, or behind another capital and before a small letter; two letters with a
-- separator between them always do.
theorem words_exact (cs : List Char) :
    (words cs).flatten = cs.filter (!isSeparator ·) ∧
    (∀ word ∈ words cs, word ≠ [] ∧ '_' ∉ word ∧ '-' ∉ word) ∧
    (∀ i c, cs[i]? = some c → isSeparator c = false →
      ∃ word, (words cs)[wordAt cs i]? = some word ∧ c ∈ word) ∧
    (∀ i p c, cs[i]? = some p → cs[i + 1]? = some c →
      isSeparator p = false → isSeparator c = false →
      (wordAt cs i ≠ wordAt cs (i + 1) ↔
        Text.isUpper c = true ∧ (Text.isLower p = true ∨ Text.isAsciiDigit p = true ∨
          Text.isUpper p = true ∧ ∃ n, cs[i + 2]? = some n ∧ Text.isLower n = true))) ∧
    (∀ i k j p s, i < k → k < j → cs[i]? = some p → cs[k]? = some s →
      isSeparator p = false → isSeparator s = true → wordAt cs i < wordAt cs j) := by
  refine ⟨flatten_words cs, fun word inside => ?_, fun i c found letter => ?_, ?_, ?_⟩
  · obtain ⟨filled, plain⟩ := solid_of_mem_words inside
    refine ⟨filled, fun there => ?_, fun there => ?_⟩
    · exact absurd (plain _ there) (by decide)
    · exact absurd (plain _ there) (by decide)
  · refine mem_rowOf ?_
    rw [flatten_words]
    exact getElem?_letters found letter
  · intro i p c firstAt secondAt first second
    obtain ⟨whole, count⟩ := split_at firstAt
    have next : cs.drop (i + 1) = c :: cs.drop (i + 2) := by
      obtain ⟨bound, its⟩ := List.getElem?_eq_some_iff.mp secondAt
      rw [← its, List.getElem_cons_drop]
    have seam := wordAt_seam first second (cs.take i) (cs.drop (i + 2))
    rw [← next, ← whole, count, opensWord_iff, List.head?_drop] at seam
    exact seam
  · intro i k j p s before behind firstAt found letter separator
    obtain ⟨whole, count⟩ := split_at found
    have there : (cs.take k)[i]? = some p := by rw [List.getElem?_take_of_lt before, firstAt]
    have beyond : (cs.take k).length ≤ j := count.trans_le (Nat.le_of_lt behind)
    have parted := wordAt_separated separator letter there beyond (cs.drop (k + 1))
    rwa [← whole] at parted

-- The acronym ends before the capital that a small letter follows, a digit ends a word before a
-- capital, and a separator ends one in any case.
theorem words_exact_acronym :
    let cs := "getHTTPServer_v2X".toList
    wordAt cs 5 = wordAt cs 6 ∧ wordAt cs 6 ≠ wordAt cs 7 ∧ wordAt cs 15 ≠ wordAt cs 16 ∧
      wordAt cs 12 < wordAt cs 14 := by
  obtain ⟨_, _, _, seams, separated⟩ := words_exact "getHTTPServer_v2X".toList
  have found : "getHTTPServer_v2X".toList[5 + 2]? = some 'S' := by decide +kernel
  have small : ¬∃ n, "getHTTPServer_v2X".toList[5 + 2]? = some n ∧ Text.isLower n = true := by
    rintro ⟨n, there, lower⟩
    rw [found] at there
    cases there
    exact absurd lower (by decide +kernel)
  refine ⟨?_, ?_, ?_, ?_⟩
  · by_contra apart
    have its := (seams 5 'T' 'P' (by decide +kernel) (by decide +kernel) rfl rfl).mp apart
    rcases its.2 with lower | digit | ⟨_, next⟩
    · exact absurd lower (by decide +kernel)
    · exact absurd digit (by decide +kernel)
    · exact small next
  · refine (seams 6 'P' 'S' (by decide +kernel) (by decide +kernel) rfl rfl).mpr ?_
    exact ⟨by decide +kernel, .inr (.inr ⟨by decide +kernel, 'e', by decide +kernel, by decide⟩)⟩
  · refine (seams 15 '2' 'X' (by decide +kernel) (by decide +kernel) rfl rfl).mpr ?_
    exact ⟨by decide +kernel, .inr (.inl (by decide +kernel))⟩
  · exact separated 12 13 14 'r' '_' (by decide) (by decide) (by decide +kernel) (by decide +kernel)
      rfl rfl

variable {row next rest : List Char} {rows : List (List Char)}

-- Neither the end of a word nor the beginning of one.
structure Inner (c : Char) : Prop where
  letter : isSeparator c = false
  small : Text.isUpper c = false

theorem Inner.joins (inner : Inner c) (p : Char) (next : Option Char) :
    opensWord p c next = false := by
  rw [opensWord, inner.small, Bool.false_and]

theorem wordsFrom_inner (inner : ∀ c ∈ row, Inner c) (some : held ≠ []) (rest : List Char) :
    wordsFrom held (row ++ rest) = wordsFrom (row.reverse ++ held) rest := by
  induction row generalizing held with
  | nil => rfl
  | cons c more ih =>
    obtain ⟨first, others⟩ := List.forall_mem_cons.mp inner
    obtain ⟨p, behind, rfl⟩ := List.exists_cons_of_ne_nil some
    rw [List.cons_append, wordsFrom_joins first.letter (first.joins p _),
      ih others (List.cons_ne_nil c _)]
    simp

section Joined

-- It is held as one word if it is read from its beginning, and no small letter follows.
structure Whole (row : List Char) : Prop where
  filled : row ≠ []
  held : ∀ rest, rest.head?.any Text.isLower = false →
    wordsFrom [] (row ++ rest) = wordsFrom row.reverse rest

theorem words_intercalate (whole : ∀ row ∈ rows, Whole row) :
    words (['_'].intercalate rows) = rows := by
  induction rows with
  | nil => rfl
  | cons row others ih =>
    obtain ⟨first, later⟩ := List.forall_mem_cons.mp whole
    have some : row.reverse ≠ [] := List.reverse_ne_nil_iff.mpr first.filled
    cases others with
    | nil =>
      have read := first.held [] rfl
      rw [List.append_nil] at read
      rw [List.intercalate_singleton, words, read, wordsFrom_end some, List.reverse_reverse]
    | cons second others =>
      rw [List.intercalate_cons_cons, List.append_assoc, words, first.held _ rfl,
        List.singleton_append, wordsFrom_separator rfl some, List.reverse_reverse, ← words, ih later]

end Joined

section Abutting

-- After its first letter it has no capital.
inductive Opened : List Char → Prop where
  | mk (first : isSeparator c = false) (inner : ∀ d ∈ tail, Inner d) : Opened (c :: tail)

theorem Opened.held (opened : Opened row) (rest : List Char) :
    wordsFrom [] (row ++ rest) = wordsFrom row.reverse rest := by
  obtain ⟨first, inner⟩ := opened
  rename_i c tail
  rw [List.cons_append, wordsFrom_first first, wordsFrom_inner inner (List.cons_ne_nil c []),
    List.reverse_cons]

theorem Opened.whole (opened : Opened row) : Whole row := by
  refine ⟨?_, fun rest _ => opened.held rest⟩
  rintro rfl
  cases opened

-- The first letter of the second word parts it from the first word.
inductive Seam : List Char → List Char → Prop where
  | mk {before tail : List Char} {p c : Char} (last : before.getLast? = some p)
      (opens : opensWord p c tail.head? = true) : Seam before (c :: tail)

theorem opensWord_append (opens : opensWord p c row.head? = true) (rest : List Char) :
    opensWord p c (row ++ rest).head? = true := by
  cases row with
  | cons d tail => exact opens
  | nil =>
    rw [opensWord_iff] at opens ⊢
    obtain ⟨capital, small | digit | ⟨_, n, none, _⟩⟩ := opens
    · exact ⟨capital, .inl small⟩
    · exact ⟨capital, .inr (.inl digit)⟩
    · cases none

theorem words_flatten (opened : ∀ row ∈ rows, Opened row) (seams : rows.IsChain Seam) :
    words rows.flatten = rows := by
  induction rows with
  | nil => rfl
  | cons row others ih =>
    obtain ⟨first, later⟩ := List.forall_mem_cons.mp opened
    rw [List.flatten_cons, words, first.held]
    cases others with
    | nil =>
      have some : row.reverse ≠ [] := List.reverse_ne_nil_iff.mpr first.whole.filled
      rw [List.flatten_nil, wordsFrom_end some, List.reverse_reverse]
    | cons second others =>
      obtain ⟨seam, further⟩ := List.isChain_cons_cons.mp seams
      have behind := ih later further
      obtain @⟨tail, p, c, last, opens⟩ := seam
      obtain ⟨letter, _⟩ := (List.forall_mem_cons.mp later).1
      obtain ⟨held, kept⟩ : ∃ held, row.reverse = p :: held := by
        rw [List.getLast?_eq_head?_reverse] at last
        exact List.head?_eq_some_iff.mp last
      rw [List.flatten_cons, List.cons_append, words, wordsFrom_first letter] at behind
      rw [List.flatten_cons, List.cons_append, kept,
        wordsFrom_opens letter (opensWord_append opens _), behind, ← kept, List.reverse_reverse]

end Abutting
end SchemaBindings.Naming
