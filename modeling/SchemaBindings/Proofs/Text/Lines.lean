import Mathlib.Data.List.Induction
import SchemaBindings.Proofs.Text.Literals

namespace SchemaBindings.Text

theorem noBreak_linesFrom {line : List Char} (inside : line ∈ linesFrom held cs)
    (unbroken : '\n' ∉ held) : '\n' ∉ line := by
  induction cs generalizing held with
  | nil =>
    rw [linesFrom] at inside
    split at inside
    · cases inside
    · rw [List.mem_singleton.mp inside, List.mem_reverse]
      exact unbroken
  | cons c rest ih =>
    unfold linesFrom at inside
    split at inside
    · rcases List.mem_cons.mp inside with rfl | later
      · rw [List.mem_reverse]
        split
        · exact fun there => unbroken (List.mem_cons_of_mem _ there)
        · exact unbroken
      · exact ih later nofun
    · rename_i plain
      refine ih inside fun there => ?_
      rcases List.mem_cons.mp there with rfl | before
      · exact plain rfl
      · exact unbroken before

theorem noBreak_lines {line : List Char} (inside : line ∈ lines cs) : '\n' ∉ line :=
  noBreak_linesFrom inside nofun

theorem noBreak_trimEnd {line : List Char} (unbroken : '\n' ∉ line) : '\n' ∉ trimEnd line := by
  intro there
  have kept := (List.dropWhile_sublist _).subset (List.mem_reverse.mp there)
  exact unbroken (List.mem_reverse.mp kept)

section Case

theorem ofNat_ne_break (above : 10 < n) : Char.ofNat n ≠ '\n' := by
  intro same
  by_cases valid : n.isValidChar
  · rw [Char.ofNat, dif_pos valid] at same
    exact absurd (congrArg Char.toNat same) (Nat.ne_of_gt above)
  · rw [Char.ofNat, dif_neg valid] at same
    cases same

-- No stretch of the tables is moved as far down as the line feed.
theorem shiftBy_ne_break {shifts : List (Nat × Nat × Nat × Int)}
    (above : ∀ shift ∈ shifts, 10 < (shift.1 : Int) + shift.2.2.2) (other : c ≠ '\n') :
    shiftBy shifts c ≠ '\n' := by
  rw [shiftBy]
  split
  · rename_i first last step distance found
    have stretch := List.find?_some found
    have far := above _ (List.mem_of_find?_eq_some found)
    simp only [Bool.and_eq_true, decide_eq_true_eq] at stretch
    dsimp only at far
    exact ofNat_ne_break (by omega)
  · exact other

theorem lowerAscii_ne_break (other : c ≠ '\n') : lowerAscii c ≠ '\n' := by
  rw [lowerAscii]
  split
  · exact ofNat_ne_break (by omega)
  · exact other

theorem upperAscii_ne_break (other : c ≠ '\n') : upperAscii c ≠ '\n' := by
  rw [upperAscii]
  split
  · rename_i letter
    rw [isAsciiLower, Bool.and_eq_true, decide_eq_true_eq, Char.le_def, UInt32.le_iff_toNat_le] at letter
    have small : 97 ≤ c.toNat := letter.1
    exact ofNat_ne_break (by omega)
  · exact other

theorem noBreak_lowerChar (other : c ≠ '\n') : '\n' ∉ lowerChar c := by
  rw [lowerChar]
  split
  · exact mt List.mem_singleton.mp (lowerAscii_ne_break other).symm
  split
  · decide
  · exact mt List.mem_singleton.mp (shiftBy_ne_break (by decide +kernel) other).symm

theorem noBreak_upperChar (other : c ≠ '\n') : '\n' ∉ upperChar c := by
  have above : ∀ entry ∈ CaseTable.upperExpansions, ∀ code ∈ entry.2, 10 < code := by
    decide +kernel
  rw [upperChar]
  split
  · exact mt List.mem_singleton.mp (upperAscii_ne_break other).symm
  split
  · rename_i found
    intro inside
    obtain ⟨code, there, same⟩ := List.mem_map.mp inside
    exact ofNat_ne_break (above _ (List.mem_of_find?_eq_some found) code there) same
  · exact mt List.mem_singleton.mp (shiftBy_ne_break (by decide +kernel) other).symm

theorem noBreak_lowerFrom (unbroken : '\n' ∉ cs) (before : List Char) :
    '\n' ∉ lowerFrom before cs := by
  induction cs generalizing before with
  | nil => exact nofun
  | cons c rest ih =>
    have other := List.ne_of_not_mem_cons unbroken
    rw [lowerFrom]
    refine List.not_mem_append ?_ (ih (List.not_mem_of_not_mem_cons unbroken) _)
    split
    · rw [lowerSigma]
      split
      · decide
      · decide
    · exact noBreak_lowerChar (Ne.symm other)

theorem noBreak_lower (unbroken : '\n' ∉ cs) : '\n' ∉ lower cs := noBreak_lowerFrom unbroken []

end Case

theorem Quoted.noBreak_encode (s : String) : '\n' ∉ (encode s).toList := by
  intro there
  exact absurd (visible_encode s _ there) (by decide)

-- How a text falls into lines. A line feed ends a line, and a carriage return before it belongs to
-- the end; the last line may stand without.
inductive Broken : List Char → List (List Char) → Prop where
  | nil : Broken [] []
  | last (some : line ≠ []) (unbroken : '\n' ∉ line) : Broken line [line]
  | feed (unbroken : '\n' ∉ line) (bare : line.getLast? ≠ some '\r') (rest : Broken cs all) :
      Broken (line ++ '\n' :: cs) (line :: all)
  | carriage (unbroken : '\n' ∉ line) (rest : Broken cs all) :
      Broken (line ++ '\r' :: '\n' :: cs) (line :: all)

-- A carriage return with more behind it in its line than white space.
def StrayReturn (cs : List Char) : Prop :=
  ∃ before between c after, cs = before ++ '\r' :: (between ++ c :: after) ∧
    '\n' ∉ between ∧ isBlank c = false

section Breaking
variable {cs line held : List Char} {all : List (List Char)}

theorem broken_linesFrom (unbroken : '\n' ∉ held) :
    Broken (held.reverse ++ cs) (linesFrom held cs) := by
  induction cs generalizing held with
  | nil =>
    rw [linesFrom, List.append_nil]
    split
    · rename_i empty
      rw [List.isEmpty_iff.mp empty]
      exact .nil
    · rename_i some
      exact .last (by simpa using some) (by simpa using unbroken)
  | cons c rest ih =>
    unfold linesFrom
    split
    · rename_i feed
      rw [beq_iff_eq.mp feed]
      have others : Broken ([].reverse ++ rest) (linesFrom [] rest) := ih List.not_mem_nil
      split
      · rename_i line
        rw [List.reverse_cons, List.append_assoc]
        exact .carriage (fun there => unbroken (List.mem_cons_of_mem _ (List.mem_reverse.mp there)))
          others
      · rename_i bare
        refine .feed (by simpa using unbroken) (fun ends => ?_) others
        rw [List.getLast?_reverse] at ends
        cases held with
        | nil => cases ends
        | cons d line => exact bare line (by simpa using ends)
    · rename_i plain
      have other : c ≠ '\n' := by simpa using plain
      have kept : '\n' ∉ c :: held := fun there =>
        (List.mem_cons.mp there).elim (fun same => other same.symm) unbroken
      have more := ih kept
      rwa [List.reverse_cons, List.append_assoc] at more

theorem broken_lines (cs : List Char) : Broken cs (lines cs) := by
  have broken : Broken ([].reverse ++ cs) (linesFrom [] cs) := broken_linesFrom List.not_mem_nil
  exact broken

theorem linesFrom_plain {c : Char} (other : c ≠ '\n') (held rest : List Char) :
    linesFrom held (c :: rest) = linesFrom (c :: held) rest := by
  conv => lhs; unfold linesFrom
  exact if_neg (by simpa using other)

theorem linesFrom_append (unbroken : '\n' ∉ line) (rest : List Char) :
    linesFrom held (line ++ rest) = linesFrom (line.reverse ++ held) rest := by
  induction line generalizing held with
  | nil => rfl
  | cons c others ih =>
    have other := List.ne_of_not_mem_cons unbroken
    rw [List.cons_append, linesFrom_plain other.symm, ih (List.not_mem_of_not_mem_cons unbroken),
      List.reverse_cons, List.append_assoc]
    rfl

theorem linesFrom_feed (held cs : List Char) : linesFrom held ('\n' :: cs) =
    (match held with | '\r' :: line => line | line => line).reverse :: lines cs := by
  unfold linesFrom
  rfl

theorem Broken.eq_lines (broken : Broken cs all) : all = lines cs := by
  induction broken with
  | nil => rfl
  | @last line some unbroken =>
    have taken : linesFrom [] (line ++ []) = linesFrom (line.reverse ++ []) [] :=
      linesFrom_append unbroken []
    simp only [List.append_nil] at taken
    rw [lines, taken, linesFrom, if_neg (by simpa using some), List.reverse_reverse]
  | @feed line cs all unbroken bare rest ih =>
    rw [lines, linesFrom_append unbroken, List.append_nil, linesFrom_feed, ih]
    split
    · rename_i shown
      refine absurd ?_ bare
      rw [← List.head?_reverse, shown]
      rfl
    · rw [List.reverse_reverse]
  | @carriage line cs all unbroken rest ih =>
    have ended : line ++ '\r' :: '\n' :: cs = (line ++ ['\r']) ++ '\n' :: cs := by simp
    have kept : '\n' ∉ line ++ ['\r'] := List.not_mem_append unbroken (by decide)
    rw [lines, ended, linesFrom_append kept, List.append_nil, linesFrom_feed, ih]
    simp

-- There is one way to take a text apart.
theorem broken_iff : Broken cs all ↔ all = lines cs := by
  constructor
  · exact Broken.eq_lines
  · rintro rfl
    exact broken_lines cs

end Breaking

section Trimming
variable {cs line front behind : List Char} {c : Char}

theorem trimEnd_blank (blank : isBlank c = true) (cs : List Char) :
    trimEnd (cs ++ [c]) = trimEnd cs := by
  simp [trimEnd, blank]

theorem trimEnd_solid (solid : isBlank c = false) (cs : List Char) :
    trimEnd (cs ++ [c]) = cs ++ [c] := by
  simp [trimEnd, solid]

-- A line is white space, or has a last character that is not.
theorem blank_or_solid (line : List Char) :
    (∀ c ∈ line, isBlank c = true) ∧ trimEnd line = [] ∨
    ∃ front c gap, line = front ++ c :: gap ∧ isBlank c = false ∧ (∀ d ∈ gap, isBlank d = true) ∧
      trimEnd line = front ++ [c] := by
  induction line using List.reverseRecOn with
  | nil => exact .inl ⟨nofun, rfl⟩
  | append_singleton cs d ih =>
    cases blank : isBlank d with
    | false => exact .inr ⟨cs, d, [], rfl, blank, nofun, trimEnd_solid blank cs⟩
    | true =>
      rw [trimEnd_blank blank]
      rcases ih with ⟨all, none⟩ | ⟨front, c, gap, rfl, solid, rest, kept⟩
      · refine .inl ⟨fun c inside => ?_, none⟩
        rcases List.mem_append.mp inside with before | here
        · exact all c before
        · rwa [List.mem_singleton.mp here]
      · refine .inr ⟨front, c, gap ++ [d], by simp, solid, fun e inside => ?_, kept⟩
        rcases List.mem_append.mp inside with before | here
        · exact rest e before
        · rwa [List.mem_singleton.mp here]

theorem trimEnd_append (solid : isBlank c = false) (front behind : List Char) :
    trimEnd (front ++ c :: behind) = front ++ c :: trimEnd behind := by
  induction behind using List.reverseRecOn with
  | nil => exact trimEnd_solid solid front
  | append_singleton cs d ih =>
    rw [← List.cons_append, ← List.append_assoc]
    cases blank : isBlank d with
    | false => rw [trimEnd_solid blank, trimEnd_solid blank]; simp
    | true => rw [trimEnd_blank blank, trimEnd_blank blank, ih]

-- What is kept ends in no carriage return, since that is white space.
theorem getLast?_trimEnd (line : List Char) : (trimEnd line).getLast? ≠ some '\r' := by
  rcases blank_or_solid line with ⟨_, none⟩ | ⟨front, c, gap, _, solid, _, kept⟩
  · rw [none]
    exact nofun
  · rw [kept, List.getLast?_concat]
    intro same
    cases same
    cases solid

theorem return_trimEnd_iff (unbroken : '\n' ∉ line) : '\r' ∈ trimEnd line ↔ StrayReturn line := by
  constructor
  · intro inside
    rcases blank_or_solid line with ⟨_, none⟩ | ⟨front, c, gap, rfl, solid, _, kept⟩
    · rw [none] at inside
      cases inside
    · rw [kept] at inside
      rcases List.mem_append.mp inside with there | here
      · obtain ⟨before, between, rfl⟩ := List.append_of_mem there
        refine ⟨before, between, c, gap, by simp, fun feed => unbroken ?_, solid⟩
        simp [feed]
      · rw [← List.mem_singleton.mp here] at solid
        cases solid
  · rintro ⟨before, between, c, after, rfl, _, solid⟩
    rw [← List.cons_append, ← List.append_assoc, trimEnd_append solid]
    simp

end Trimming

section Strays
variable {cs line : List Char} {all : List (List Char)}

theorem StrayReturn.mem (stray : StrayReturn cs) : '\r' ∈ cs := by
  obtain ⟨before, between, c, after, rfl, _⟩ := stray
  simp

-- A line feed lies between what is in a line and what is behind it.
theorem stray_feed_iff (unbroken : '\n' ∉ line) :
    StrayReturn (line ++ '\n' :: cs) ↔ StrayReturn line ∨ StrayReturn cs := by
  constructor
  · rintro ⟨before, between, c, after, same, free, solid⟩
    have other : c ≠ '\n' := by
      rintro rfl
      cases solid
    rcases List.append_eq_append_iff.mp same with ⟨more, rfl, behind⟩ | ⟨more, rfl, behind⟩
    · cases more with
      | nil => cases behind
      | cons d more =>
        obtain ⟨rfl, rest⟩ := List.cons.inj behind
        exact .inr ⟨more, between, c, after, rest, free, solid⟩
    · cases more with
      | nil => cases behind
      | cons d more =>
        obtain ⟨rfl, rest⟩ := List.cons.inj behind
        rcases List.append_eq_append_iff.mp rest with ⟨gap, rfl, left⟩ | ⟨gap, rfl, left⟩
        · cases gap with
          | nil => exact absurd (List.cons.inj left).1 other
          | cons d gap =>
            obtain ⟨rfl, _⟩ := List.cons.inj left
            exact .inl ⟨before, between, c, gap, rfl, free, solid⟩
        · cases gap with
          | nil => exact absurd (List.cons.inj left).1.symm other
          | cons d gap =>
            obtain ⟨rfl, _⟩ := List.cons.inj left
            exact absurd (by simp) free
  · rintro (⟨before, between, c, after, rfl, free, solid⟩ |
      ⟨before, between, c, after, rfl, free, solid⟩)
    · exact ⟨before, between, c, after ++ '\n' :: cs, by simp, free, solid⟩
    · exact ⟨line ++ '\n' :: before, between, c, after, by simp, free, solid⟩

theorem Broken.stray_iff (broken : Broken cs all) :
    StrayReturn cs ↔ ∃ line ∈ all, '\r' ∈ trimEnd line := by
  have none : ¬StrayReturn [] := fun stray => nomatch stray.mem
  induction broken with
  | nil => simpa using none
  | last some unbroken =>
    simp [return_trimEnd_iff unbroken]
  | feed unbroken bare rest ih =>
    rw [stray_feed_iff unbroken, ← return_trimEnd_iff unbroken]
    simp [ih]
  | @carriage line cs all unbroken rest ih =>
    have ended : line ++ '\r' :: '\n' :: cs = (line ++ ['\r']) ++ '\n' :: cs := by simp
    have kept : '\n' ∉ line ++ ['\r'] := List.not_mem_append unbroken (by decide)
    rw [ended, stray_feed_iff kept, ← return_trimEnd_iff kept, trimEnd_blank (by decide)]
    simp [ih]

theorem stray_iff (cs : List Char) : StrayReturn cs ↔ ∃ line ∈ lines cs, '\r' ∈ trimEnd line :=
  (broken_lines cs).stray_iff

end Strays
end SchemaBindings.Text
