import SchemaBindings.Proofs.Json.Tree

namespace SchemaBindings.Json

theorem toOption_map (f : α → β) (x : Except ε α) : (x.map f).toOption = x.toOption.map f := by
  cases x <;> rfl

-- The equations of both readers are made here, once, and are there for every step below.
section
attribute [local simp] passString readString
end

section Steps
variable (spot : Spot) (rest : List Char)

theorem passString_quote : passString spot ('"' :: rest) = .ok ⟨spot.past '"', rest⟩ := by
  rw [passString] <;> simp

theorem readString_quote : readString spot none ('"' :: rest) = .ok [] := by
  rw [readString] <;> simp

theorem passString_plain (quote : c ≠ '"') (slash : c ≠ '\\') (control : isControl c = false) :
    passString spot (c :: rest) = passString (spot.past c) rest := by
  rw [passString] <;> simp_all

theorem readString_plain (quote : c ≠ '"') (slash : c ≠ '\\') (control : isControl c = false) :
    readString spot none (c :: rest) = (readString (spot.past c) none rest).map (c :: ·) := by
  rw [readString] <;> simp_all

theorem ne_u_of_simpleEscape (known : simpleEscape e = some c) : e ≠ 'u' := by
  rintro rfl
  simp [simpleEscape] at known

theorem passString_escape (known : simpleEscape e = some c) :
    passString spot ('\\' :: e :: rest) = passString (spot.along 2) rest := by
  have other := ne_u_of_simpleEscape known
  rw [passString] <;> simp_all

theorem readString_escape (known : simpleEscape e = some c) :
    readString spot none ('\\' :: e :: rest) =
      (readString (spot.along 2) none rest).map (c :: ·) := by
  have other := ne_u_of_simpleEscape known
  rw [readString] <;> simp_all

theorem passString_unit (known : hexUnit a b c d = some unit) :
    passString spot ('\\' :: 'u' :: a :: b :: c :: d :: rest) =
      passString (spot.along 6) rest := by
  rw [passString, known]
  rfl

theorem readString_unit (known : hexUnit a b c d = some unit) (noLead : isLead unit = false)
    (noTrail : isTrail unit = false) :
    readString spot none ('\\' :: 'u' :: a :: b :: c :: d :: rest) =
      (readString (spot.along 6) none rest).map (Char.ofNat unit :: ·) := by
  rw [readString.eq_4 _ _ _ _ _ _ _ known, noLead, noTrail]
  rfl

theorem not_isTrail_of_isLead (lead : isLead unit = true) : isTrail unit = false := by
  simp only [isLead, isTrail, Bool.and_eq_true, decide_eq_true_eq, Bool.and_eq_false_iff,
    decide_eq_false_iff_not] at *
  omega

theorem readString_lead (known : hexUnit a b c d = some unit) (lead : isLead unit = true) :
    readString spot none ('\\' :: 'u' :: a :: b :: c :: d :: rest) =
      readString (spot.along 6) (some unit) rest := by
  rw [readString.eq_4 _ _ _ _ _ _ _ known, lead, not_isTrail_of_isLead lead]
  rfl

theorem readString_trail (known : hexUnit a b c d = some unit) (trail : isTrail unit = true) :
    readString spot none ('\\' :: 'u' :: a :: b :: c :: d :: rest) =
      .error ⟨.loneSurrogate, spot.along 6⟩ := by
  rw [readString.eq_4 _ _ _ _ _ _ _ known, trail]
  rfl

theorem readString_second (known : hexUnit a b c d = some unit) (trail : isTrail unit = true) :
    readString spot (some first) ('\\' :: 'u' :: a :: b :: c :: d :: rest) =
      (readString (spot.along 6) none rest).map (joinUnits first unit :: ·) := by
  rw [readString.eq_5 _ _ _ _ _ _ _ _ known, trail]
  rfl

end Steps

theorem passString_text (content : StringText cs s) (spot : Spot) (rest : List Char) :
    ∃ stop, passString spot (cs ++ '"' :: rest) = .ok ⟨stop, rest⟩ := by
  induction content generalizing spot with
  | done => exact ⟨_, passString_quote spot rest⟩
  | plain quote slash control _ ih =>
    rw [List.cons_append, passString_plain _ _ quote slash control]
    exact ih _
  | escape known _ ih =>
    simp only [List.cons_append]
    rw [passString_escape _ _ known]
    exact ih _
  | unit known _ _ _ ih =>
    simp only [List.cons_append]
    rw [passString_unit _ _ known]
    exact ih _
  | pair known _ followed _ _ ih =>
    simp only [List.cons_append]
    rw [passString_unit _ _ known, passString_unit _ _ followed]
    exact ih _
  | loneLead known _ _ _ ih =>
    simp only [List.cons_append]
    rw [passString_unit _ _ known]
    exact ih _
  | loneTrail known _ _ ih =>
    simp only [List.cons_append]
    rw [passString_unit _ _ known]
    exact ih _

-- Nothing but the second half may follow the first half of a pair.
theorem readString_alone (content : StringText cs s) (alone : ¬StartsWithTrail cs) (first : Nat)
    (spot : Spot) (rest : List Char) :
    (readString spot (some first) (cs ++ '"' :: rest)).toOption = none := by
  cases content with
  | done => rw [List.nil_append, readString] <;> simp [Except.toOption]
  | plain quote slash control _ =>
    rw [List.cons_append, readString] <;> simp_all [Except.toOption]
  | escape known _ =>
    have other := ne_u_of_simpleEscape known
    simp only [List.cons_append]
    rw [readString] <;> simp_all [Except.toOption]
  | unit known noLead noTrail _ =>
    simp only [List.cons_append]
    rw [readString.eq_5 _ _ _ _ _ _ _ _ known, noTrail]
    rfl
  | pair known lead _ _ _ =>
    simp only [List.cons_append]
    rw [readString.eq_5 _ _ _ _ _ _ _ _ known, not_isTrail_of_isLead lead]
    rfl
  | loneLead known lead _ _ =>
    simp only [List.cons_append]
    rw [readString.eq_5 _ _ _ _ _ _ _ _ known, not_isTrail_of_isLead lead]
    rfl
  | loneTrail known trail _ => exact (alone ⟨_, _, _, _, _, _, rfl, known, trail⟩).elim

theorem readString_text (content : StringText cs s) (spot : Spot) (rest : List Char) :
    (readString spot none (cs ++ '"' :: rest)).toOption = s := by
  induction content generalizing spot with
  | done => rw [List.nil_append, readString_quote]; rfl
  | plain quote slash control _ ih =>
    rw [List.cons_append, readString_plain _ _ quote slash control, toOption_map, ih]
  | escape known _ ih =>
    simp only [List.cons_append]
    rw [readString_escape _ _ known, toOption_map, ih]
  | unit known noLead noTrail _ ih =>
    simp only [List.cons_append]
    rw [readString_unit _ _ known noLead noTrail, toOption_map, ih]
  | pair known lead followed trail _ ih =>
    simp only [List.cons_append]
    rw [readString_lead _ _ known lead, readString_second _ _ followed trail, toOption_map, ih]
  | loneLead known lead alone content _ =>
    simp only [List.cons_append]
    rw [readString_lead _ _ known lead, readString_alone content alone]
  | loneTrail known trail _ _ =>
    simp only [List.cons_append]
    rw [readString_trail _ _ known trail]
    rfl

theorem readContent_text (content : StringText cs s) (spot : Spot) (rest : List Char) :
    (readContent spot (cs ++ '"' :: rest)).toOption = s.map String.ofList := by
  rw [readContent, toOption_map, readString_text content]

def NoDigit (cs : List Char) : Prop := ∀ c ∈ cs.head?, Number.isDigit c = false

-- What stands behind a number does not belong to it.
def EndsNumber (cs : List Char) : Prop :=
  ∀ c ∈ cs.head?, Number.isDigit c = false ∧ c ≠ '.' ∧ c ≠ 'e' ∧ c ≠ 'E'

theorem EndsNumber.noDigit (ends : EndsNumber cs) : NoDigit cs := fun c first => (ends c first).1

theorem noDigit_exponent (exponent : ExponentText x) (ends : EndsNumber rest) :
    NoDigit (x ++ rest) := by
  cases exponent with
  | absent => exact ends.noDigit
  | digits letter _ _ _ =>
    intro c first
    cases Option.some.inj first
    rcases letter with rfl | rfl <;> decide

theorem noDigit_fraction (fraction : FractionText f) (exponent : ExponentText x)
    (ends : EndsNumber rest) : NoDigit (f ++ (x ++ rest)) := by
  cases fraction with
  | absent =>
    rw [List.nil_append]
    exact noDigit_exponent exponent ends
  | digits _ _ =>
    intro c first
    cases Option.some.inj first
    decide

theorem skipDigits_digits (digits : Digits ds) (ends : NoDigit rest) (spot : Spot) :
    ∃ stop, skipDigits spot (ds ++ rest) = ⟨stop, rest⟩ := by
  induction ds generalizing spot with
  | nil =>
    cases rest with
    | nil => exact ⟨spot, rfl⟩
    | cons c rest =>
      have other : Number.isDigit c = false := ends c rfl
      exact ⟨spot, by rw [List.nil_append, skipDigits, other]; rfl⟩
  | cons d ds ih =>
    have digit : Number.isDigit d = true := digits d (List.mem_cons_self ..)
    rw [List.cons_append, skipDigits, if_pos digit]
    exact ih (fun c inside => digits c (List.mem_cons_of_mem _ inside)) _

-- Digits of which there is at least one.
theorem passDigits (first : Number.isDigit d = true) (others : Digits ds) (ends : NoDigit rest)
    (spot : Spot) : ∃ stop, skipDigits spot (d :: ds ++ rest) = ⟨stop, rest⟩ := by
  refine skipDigits_digits ?_ ends spot
  intro c inside
  rcases List.mem_cons.mp inside with rfl | later
  · exact first
  · exact others c later

theorem passExponent_text (exponent : ExponentText x) (ends : EndsNumber rest) (spot : Spot) :
    ∃ stop, passExponent ⟨spot, x ++ rest⟩ = .ok ⟨stop, rest⟩ := by
  cases exponent with
  | absent =>
    cases rest with
    | nil => exact ⟨spot, rfl⟩
    | cons c rest =>
      obtain ⟨_, _, small, capital⟩ := ends c rfl
      exact ⟨spot, by simp [passExponent, small, capital]⟩
  | @digits e s d ds letter sign first others =>
    have letter : (e == 'e' || e == 'E') = true := by rcases letter with rfl | rfl <;> rfl
    have unsigned : d ≠ '+' ∧ d ≠ '-' := by
      constructor <;> (rintro rfl; revert first; decide)
    cases sign with
    | absent =>
      obtain ⟨stop, passed⟩ := passDigits first others ends.noDigit (spot.along 1)
      refine ⟨stop, ?_⟩
      simp only [List.nil_append, List.cons_append] at passed ⊢
      simp [passExponent, letter, unsigned.1, unsigned.2, first, passed]
    | plus =>
      obtain ⟨stop, passed⟩ := passDigits first others ends.noDigit (spot.along 2)
      refine ⟨stop, ?_⟩
      simp only [List.nil_append, List.cons_append] at passed ⊢
      simp [passExponent, letter, first, passed]
    | minus =>
      obtain ⟨stop, passed⟩ := passDigits first others ends.noDigit (spot.along 2)
      refine ⟨stop, ?_⟩
      simp only [List.nil_append, List.cons_append] at passed ⊢
      simp [passExponent, letter, first, passed]

theorem passFraction_text (fraction : FractionText f) (exponent : ExponentText x)
    (ends : EndsNumber rest) (spot : Spot) :
    ∃ stop, passFraction ⟨spot, f ++ (x ++ rest)⟩ = .ok ⟨stop, rest⟩ := by
  cases fraction with
  | absent =>
    have point : ∀ more, x ++ rest ≠ '.' :: more := by
      intro more equal
      cases exponent with
      | absent =>
        rw [List.nil_append] at equal
        subst equal
        exact (ends '.' rfl).2.1 rfl
      | digits letter _ _ _ =>
        rcases letter with rfl | rfl <;> simp at equal
    obtain ⟨stop, passed⟩ := passExponent_text exponent ends spot
    refine ⟨stop, ?_⟩
    unfold passFraction
    split
    · rename_i more equal
      exact (point more equal).elim
    · exact passed
  | @digits d ds first others =>
    obtain ⟨behind, digits⟩ :=
      passDigits first others (noDigit_exponent exponent ends) (spot.along 1)
    obtain ⟨stop, passed⟩ := passExponent_text exponent ends behind
    refine ⟨stop, ?_⟩
    simp only [List.cons_append] at digits ⊢
    simp [passFraction, first, digits, passed]

theorem passNumber_text (whole : WholeText w) (fraction : FractionText f)
    (exponent : ExponentText x) (ends : EndsNumber rest) (spot : Spot) :
    ∃ stop, passNumber spot (w ++ (f ++ (x ++ rest))) = .ok ⟨stop, rest⟩ := by
  have noDigit := noDigit_fraction fraction exponent ends
  cases whole with
  | zero =>
    obtain ⟨stop, passed⟩ := passFraction_text fraction exponent ends (spot.along 1)
    simp only [List.cons_append, List.nil_append, passNumber]
    cases behind : f ++ (x ++ rest) with
    | nil =>
      obtain ⟨_, _, rfl⟩ : f = [] ∧ x = [] ∧ rest = [] := by simpa using behind
      exact ⟨_, rfl⟩
    | cons d more =>
      rw [behind] at noDigit passed
      have other : Number.isDigit d = false := noDigit d rfl
      exact ⟨stop, by simp [other, passed]⟩
  | @digits d ds first nonzero others =>
    obtain ⟨behind, digits⟩ := skipDigits_digits others noDigit (spot.along 1)
    obtain ⟨stop, passed⟩ := passFraction_text fraction exponent ends behind
    exact ⟨stop, by simp [passNumber, nonzero, first, digits, passed]⟩

theorem WholeText.head (whole : WholeText w) :
    ∃ d rest, w = d :: rest ∧ Number.isDigit d = true := by
  cases whole with
  | zero => exact ⟨'0', [], rfl, rfl⟩
  | digits first _ _ => exact ⟨_, _, rfl, first⟩

theorem NumberText.head (shape : NumberText text) :
    ∃ c rest, text = c :: rest ∧ (c = '-' ∨ Number.isDigit c = true) := by
  cases shape with
  | plain whole _ _ =>
    obtain ⟨d, ds, rfl, digit⟩ := whole.head
    exact ⟨_, _, rfl, .inr digit⟩
  | negative _ _ _ => exact ⟨_, _, rfl, .inl rfl⟩

-- The part of a text that was passed over to come to a cursor behind it.
def passedText (cs : List Char) (cursor : Cursor) : List Char :=
  cs.take (cs.length - cursor.rest.length)

theorem passedText_append (text rest : List Char) (spot : Spot) :
    passedText (text ++ rest) ⟨spot, rest⟩ = text := by
  simp [passedText]

theorem scanNumber_plain (sign : d ≠ '-') (passed : passNumber spot (d :: cs) = .ok cursor) :
    scanNumber spot (d :: cs) =
      (.scalar spot cursor.spot (.number (Number.evaluate spot (passedText (d :: cs) cursor))),
        cursor) := by
  simp [scanNumber, passedText, sign, passed]

theorem scanNumber_negative (passed : passNumber (spot.along 1) cs = .ok cursor) :
    scanNumber spot ('-' :: cs) =
      (.scalar spot cursor.spot (.number (Number.evaluate spot (passedText ('-' :: cs) cursor))),
        cursor) := by
  simp [scanNumber, passedText, passed]

theorem scanNumber_text (shape : NumberText text) (ends : EndsNumber rest) (spot : Spot) :
    ∃ stop, scanNumber spot (text ++ rest) =
      (.scalar spot stop (.number (Number.evaluate spot text)), ⟨stop, rest⟩) := by
  have before := passedText_append text rest
  cases shape with
  | plain whole fraction exponent =>
    obtain ⟨stop, passed⟩ := passNumber_text whole fraction exponent ends spot
    obtain ⟨d, ds, rfl, digit⟩ := whole.head
    have unsigned : d ≠ '-' := by rintro rfl; revert digit; decide
    simp only [List.append_assoc, List.cons_append] at passed before ⊢
    exact ⟨stop, by rw [scanNumber_plain unsigned passed, before]⟩
  | negative whole fraction exponent =>
    obtain ⟨stop, passed⟩ := passNumber_text whole fraction exponent ends (spot.along 1)
    simp only [List.append_assoc, List.cons_append] at passed before ⊢
    exact ⟨stop, by rw [scanNumber_negative passed, before]⟩

end SchemaBindings.Json
