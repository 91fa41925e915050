import StoryCatalog.Proofs.Json.Limits
import StoryCatalog.Proofs.Text.Utf8

/-!
# Numbers that are read have a spelling

A number is read part by part: a minus, a whole part, a fraction and an exponent. The characters that were taken spell
the number by themselves, wherever a value may end.
-/

namespace StoryCatalog.Json

open Text Scan Number

/-! ## Where a value ends -/

/-- What may follow a value inside a document that is written without spaces. -/
def isEnd (c : Char) : Bool :=
  c = ',' || c = ']' || c = '\x7d'

/-- The text is at an end, or something follows that ends a value. -/
def Ends (text : List Char) : Prop :=
  ∀ c ∈ text.head?, isEnd c = true

theorem Ends.stops {text : List Char} {p : Char → Bool} (ends : Ends text)
    (foreign : p ',' = false ∧ p ']' = false ∧ p '\x7d' = false) : Stops p text := by
  intro c first
  have ending := ends c first
  rw [isEnd, Bool.or_eq_true, Bool.or_eq_true, decide_eq_true_eq, decide_eq_true_eq, decide_eq_true_eq] at ending
  rcases ending with (rfl | rfl) | rfl
  · exact foreign.1
  · exact foreign.2.1
  · exact foreign.2.2

theorem isAscii_of_isDigit {c : Char} (digit : c.isDigit = true) : c.toNat < 128 :=
  isAscii_of_isAlphanum (by rw [Char.isAlphanum, digit, Bool.or_true])

theorem ne_of_isDigit {c d : Char} (digit : c.isDigit = true) (other : d.isDigit = false) : c ≠ d := by
  rintro rfl
  rw [digit] at other
  contradiction

theorem isDigit_takeWhile (text : List Char) : ∀ c ∈ text.takeWhile Char.isDigit, c.isDigit = true :=
  fun _ => List.mem_takeWhile_imp

theorem isAscii_takeWhile (text : List Char) : IsAscii (text.takeWhile Char.isDigit) :=
  fun c member => isAscii_of_isDigit (isDigit_takeWhile text c member)

/-- The whole part is read without what followed it, up to the next thing that is no digit. -/
theorem wholePart?_append {text whole rest : List Char} (read : wholePart? text = some (whole, rest)) :
    whole ≠ [] ∧ ∀ more, Stops Char.isDigit more → wholePart? (whole ++ more) = some (whole, more) := by
  unfold wholePart? at read
  split at read
  · contradiction
  · next c after =>
    split_ifs at read with zero digit
    · obtain ⟨rfl, rfl⟩ := Prod.mk.inj (Option.some.inj read)
      exact ⟨List.cons_ne_nil _ _, fun more _ => rfl⟩
    · obtain ⟨rfl, rfl⟩ := Prod.mk.inj (Option.some.inj read)
      refine ⟨List.cons_ne_nil _ _, ?_⟩
      intro more stops
      obtain ⟨taken, left⟩ := takeWhile_append_of_stops (isDigit_takeWhile after) stops
      rw [List.cons_append, wholePart?, if_neg zero, if_pos digit, taken, left]

/-- The part of a number that was read behind its whole part, without what followed it. -/
theorem exists_fraction (text : List Char) :
    ∃ part, IsAscii part ∧ (∀ more, Stops Char.isDigit more → Stops Char.isDigit (part ++ more)) ∧
      ∀ more, Stops Char.isDigit more → Stops (· = '.') more →
        fractionOf (part ++ more) = ((fractionOf text).1, more) := by
  have none (more : List Char) (pointless : Stops (· = '.') more) : fractionOf more = (none, more) := by
    unfold fractionOf
    split
    · simp at pointless
    · rfl
  unfold fractionOf
  split
  · next c rest =>
    split_ifs with digit
    · refine ⟨'.' :: c :: rest.takeWhile Char.isDigit, ?_, fun more _ => ?_, fun more stops _ => ?_⟩
      · simp [isAscii_of_isDigit digit, isAscii_takeWhile]
      · exact (stops_cons ..).mpr rfl
      · obtain ⟨taken, left⟩ := takeWhile_append_of_stops (isDigit_takeWhile rest) stops
        simp only [List.cons_append, digit, if_true, taken, left]
    · exact ⟨[], by simp, fun more stops => stops, fun more _ pointless => none more pointless⟩
  · exact ⟨[], by simp, fun more stops => stops, fun more _ pointless => none more pointless⟩

theorem exists_splitSign (text : List Char) :
    ∃ sign, IsAscii sign ∧
      ∀ more, Stops isSign more → splitSign (sign ++ more) = ((splitSign text).1, more) := by
  unfold splitSign
  split
  · exact ⟨['-'], by simp, fun more _ => rfl⟩
  · exact ⟨['+'], by simp, fun more _ => rfl⟩
  · exact ⟨[], by simp, fun more stops => splitSign_of_stops stops⟩

theorem exponentOf_marked {e : Char} {rest : List Char} (marked : (e = 'e' || e = 'E') = true)
    (digits : (splitSign rest).2.takeWhile Char.isDigit ≠ []) :
    exponentOf (e :: rest) =
      (some (withSign (splitSign rest).1 (ofDigits 10 (digitsOf ((splitSign rest).2.takeWhile Char.isDigit)))),
        (splitSign rest).2.dropWhile Char.isDigit) := by
  simp only [exponentOf, if_pos marked, if_neg (mt List.isEmpty_iff.mp digits)]

theorem exponentOf_unmarked {e : Char} {rest : List Char}
    (unread : ¬(e = 'e' || e = 'E') = true ∨ (splitSign rest).2.takeWhile Char.isDigit = []) :
    exponentOf (e :: rest) = (none, e :: rest) := by
  rcases unread with unmarked | empty
  · rw [exponentOf, if_neg unmarked]
  · simp only [exponentOf, empty, List.isEmpty_nil, if_true, ite_self]

/-- The exponent of a number, without what followed it. -/
theorem exists_exponent (text : List Char) :
    ∃ part, IsAscii part ∧ ∀ more, Ends more →
      Stops Char.isDigit (part ++ more) ∧ Stops (· = '.') (part ++ more) ∧
        exponentOf (part ++ more) = ((exponentOf text).1, more) := by
  have absent (unread : (exponentOf text).1 = none) : ∀ more, Ends more →
      Stops Char.isDigit ([] ++ more) ∧ Stops (· = '.') ([] ++ more) ∧
        exponentOf ([] ++ more) = ((exponentOf text).1, more) := by
    intro more ends
    refine ⟨ends.stops (by decide), ends.stops (by decide), ?_⟩
    have unmarked : Stops (fun e => e = 'e' || e = 'E') more := ends.stops (by decide)
    rw [unread, List.nil_append]
    cases more with
    | nil => rfl
    | cons e more => exact exponentOf_unmarked (.inl (Bool.eq_false_iff.mp ((stops_cons ..).mp unmarked)))
  cases text with
  | nil => exact ⟨[], by simp, absent rfl⟩
  | cons e rest =>
    by_cases unread : ¬(e = 'e' || e = 'E') = true ∨ (splitSign rest).2.takeWhile Char.isDigit = []
    · exact ⟨[], by simp, absent (by rw [exponentOf_unmarked unread])⟩
    · rw [not_or, not_not] at unread
      obtain ⟨marked, nonempty⟩ := unread
      obtain ⟨sign, ascii, signed⟩ := exists_splitSign rest
      have digits := isDigit_takeWhile (splitSign rest).2
      have mark : e.toNat < 128 ∧ e.isDigit = false ∧ e ≠ '.' := by
        rw [Bool.or_eq_true, decide_eq_true_eq, decide_eq_true_eq] at marked
        rcases marked with rfl | rfl <;> decide
      refine ⟨e :: (sign ++ (splitSign rest).2.takeWhile Char.isDigit), ?_, fun more ends => ?_⟩
      · simp [mark.1, ascii, isAscii_takeWhile]
      · have unsigned : Stops isSign ((splitSign rest).2.takeWhile Char.isDigit ++ more) :=
          stops_append_of_ne_nil nonempty
            (fun c member => isSign_eq_false_of_isDecimal (isDecimal_of_isDigit (digits c member))) more
        obtain ⟨taken, left⟩ := takeWhile_append_of_stops digits (ends.stops (by decide))
        refine ⟨(stops_cons ..).mpr mark.2.1, (stops_cons ..).mpr (decide_eq_false mark.2.2), ?_⟩
        rw [exponentOf_marked marked nonempty, List.cons_append, List.append_assoc, exponentOf_marked marked]
        · rw [signed _ unsigned, taken, left]
        · rwa [signed _ unsigned, taken]

/-- How a number of this value is spelled, wherever it ends. -/
structure SpellsNumber (literal : List Char) (value : Json) : Prop where
  ascii : IsAscii literal
  start : ∃ c more, c.isDigit = true ∧ (literal = c :: more ∨ literal = '-' :: c :: more)
  read : ∀ rest, Ends rest → readNumber (literal ++ rest) = .ok (value, rest)

/-- A minus at the front of a text, and the rest. -/
def splitMinus (text : List Char) : Bool × List Char :=
  match text with
  | '-' :: rest => (true, rest)
  | _ => (false, text)

/-- The minus of a number, if it has one, in front of its first digit. -/
theorem exists_minus (negative : Bool) {c : Char} (digit : c.isDigit = true) :
    ∃ sign, IsAscii sign ∧ (sign = [] ∨ sign = ['-']) ∧
      ∀ more, splitMinus (sign ++ c :: more) = (negative, c :: more) := by
  cases negative with
  | true => exact ⟨['-'], by simp, .inr rfl, fun _ => rfl⟩
  | false =>
    have unsigned : c ≠ '-' := ne_of_isDigit digit rfl
    exact ⟨[], by simp, .inl rfl, fun more => by simp [splitMinus, unsigned]⟩

/-- What a number means by its sign, its whole part, its fraction and its exponent. -/
def numberOf (negative : Bool) (whole : List Char) (fraction : Option (List Char)) (exponent : Option ℤ) :
    Except Stop Json :=
  if fraction.isNone && exponent.isNone then
    match wholeOfDigits (digitsOf whole) with
    | .ok n => .ok (.int (withSign negative n))
    | .error error => .error (.digits error)
  else
    .ok (.float (Decimal.toFloat ⟨negative, ofDigits 10 (digitsOf (whole ++ fraction.getD [])),
      exponent.getD 0 - (fraction.getD []).length⟩))

theorem readNumber_eq_ok_iff {text rest : List Char} {value : Json} :
    readNumber text = .ok (value, rest) ↔ ∃ whole behind, wholePart? (splitMinus text).2 = some (whole, behind) ∧
      numberOf (splitMinus text).1 whole (fractionOf behind).1 (exponentOf (fractionOf behind).2).1 = .ok value ∧
        (exponentOf (fractionOf behind).2).2 = rest := by
  unfold readNumber
  split
  next negative unsigned signed =>
  have minus : splitMinus text = (negative, unsigned) := signed
  rw [minus]
  dsimp only
  cases wholePart? unsigned with
  | none => simp
  | some read =>
    obtain ⟨whole, behind⟩ := read
    have found (p : List Char → List Char → Prop) :
        (∃ a b, some (whole, behind) = some (a, b) ∧ p a b) ↔ p whole behind := by simp
    rw [found, numberOf]
    dsimp only
    split_ifs with plain
    · cases wholeOfDigits (digitsOf whole) <;> simp
    · simp

theorem isNumber_of_readNumber {text rest : List Char} {value : Json} (read : readNumber text = .ok (value, rest)) :
    (∃ n, value = .int n) ∨ ∃ x, value = .float x := by
  obtain ⟨whole, behind, -, meant, -⟩ := readNumber_eq_ok_iff.mp read
  unfold numberOf at meant
  split_ifs at meant
  · split at meant
    · exact .inl ⟨_, (Except.ok.inj meant).symm⟩
    · contradiction
  · exact .inr ⟨_, (Except.ok.inj meant).symm⟩

/-- A number that was read has a spelling: the signs and digits that were taken, without what followed them. -/
theorem exists_spellsNumber {text rest : List Char} {value : Json} (read : readNumber text = .ok (value, rest)) :
    ∃ literal, SpellsNumber literal value := by
  obtain ⟨whole, behind, wholly, meant, rfl⟩ := readNumber_eq_ok_iff.mp read
  obtain ⟨-, decimal⟩ := append_of_wholePart? wholly
  obtain ⟨nonempty, taken⟩ := wholePart?_append wholly
  obtain ⟨c, digits, spelled⟩ := List.exists_cons_of_ne_nil nonempty
  have digit : c.isDigit = true := decimal c (spelled ▸ List.mem_cons_self ..)
  obtain ⟨sign, signAscii, signed, split⟩ := exists_minus (splitMinus text).1 digit
  obtain ⟨fraction, fractionAscii, stops, fractional⟩ := exists_fraction behind
  obtain ⟨exponent, exponentAscii, powered⟩ := exists_exponent (fractionOf behind).2
  refine ⟨sign ++ whole ++ (fraction ++ exponent), ?_, ?_, ?_⟩
  · have wholeAscii : IsAscii whole := fun c member => isAscii_of_isDigit (decimal c member)
    simp [signAscii, wholeAscii, fractionAscii, exponentAscii]
  · refine ⟨c, digits ++ (fraction ++ exponent), digit, ?_⟩
    rw [spelled]
    rcases signed with rfl | rfl
    · exact .inl rfl
    · exact .inr rfl
  · intro rest ends
    obtain ⟨digitless, pointless, exponential⟩ := powered rest ends
    have front : splitMinus (sign ++ whole ++ (fraction ++ exponent) ++ rest) =
        ((splitMinus text).1, whole ++ (fraction ++ (exponent ++ rest))) := by
      simpa [spelled] using split (digits ++ (fraction ++ (exponent ++ rest)))
    rw [readNumber_eq_ok_iff, front]
    refine ⟨whole, _, taken _ (stops _ digitless), ?_, ?_⟩
    · rw [fractional _ digitless pointless, exponential]
      exact meant
    · rw [fractional _ digitless pointless, exponential]

end StoryCatalog.Json
