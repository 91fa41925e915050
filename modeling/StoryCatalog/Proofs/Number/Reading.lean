import StoryCatalog.Number.Notation
import StoryCatalog.Number.Reading
import StoryCatalog.Proofs.Text.Scan
import Mathlib.Data.Nat.Digits.Defs

/-!
# How numbers are spelled

The forms that the readings of a number accept, as relations on texts: a sign, digits of any script, a
point and an exponent. Each reading has a value exactly for the texts of its form, and the digits that a
whole number is written with are read back as that number.
-/

namespace StoryCatalog.Number

open Text Scan

def isSign (c : Char) : Bool :=
  c = '-' || c = '+'

/-- No sign, or one. -/
inductive Signed : List Char → Prop
  | unsigned : Signed []
  | signed {c : Char} (sign : isSign c = true) : Signed [c]

/-- Decimal digits only, possibly none. -/
def IsDigits (text : List Char) : Prop :=
  ∀ c ∈ text, isDecimal c = true

/-- The power of ten behind a number. -/
inductive Exponent : List Char → Prop
  | written {mark : Char} {sign digits : List Char} (marked : mark = 'e' ∨ mark = 'E') (signed : Signed sign)
      (nonempty : digits ≠ []) (decimal : IsDigits digits) : Exponent (mark :: (sign ++ digits))

/-- Digits with a point and an exponent, where each may be missing. -/
inductive Magnitude : List Char → Prop
  | plain {digits exponent : List Char} (nonempty : digits ≠ []) (decimal : IsDigits digits)
      (powered : exponent = [] ∨ Exponent exponent) : Magnitude (digits ++ exponent)
  | pointed {whole fraction exponent : List Char} (nonempty : whole ++ fraction ≠ []) (decimal : IsDigits whole)
      (fractional : IsDigits fraction) (powered : exponent = [] ∨ Exponent exponent) :
      Magnitude (whole ++ '.' :: (fraction ++ exponent))

/-! ## Signs -/

theorem exists_sign (text : List Char) : ∃ sign, Signed sign ∧ text = sign ++ (splitSign text).2 := by
  unfold splitSign
  split
  · exact ⟨['-'], .signed rfl, rfl⟩
  · exact ⟨['+'], .signed rfl, rfl⟩
  · exact ⟨[], .unsigned, rfl⟩

theorem splitSign_suffix (text : List Char) : (splitSign text).2 <:+ text := by
  obtain ⟨sign, -, split⟩ := exists_sign text
  exact ⟨sign, split.symm⟩

theorem splitSign_of_stops {text : List Char} (stops : Stops isSign text) : splitSign text = (false, text) := by
  unfold splitSign
  split
  · simp [isSign] at stops
  · simp [isSign] at stops
  · rfl

theorem splitSign_append {sign rest : List Char} (signed : Signed sign) (stops : Stops isSign rest) :
    (splitSign (sign ++ rest)).2 = rest := by
  cases signed with
  | unsigned => rw [List.nil_append, splitSign_of_stops stops]
  | signed sign =>
    simp only [isSign, Bool.or_eq_true, decide_eq_true_eq] at sign
    rcases sign with rfl | rfl <;> rfl

theorem isSign_eq_false_of_isDecimal {c : Char} (decimal : isDecimal c = true) : isSign c = false := by
  rw [Bool.eq_false_iff]
  intro sign
  simp only [isSign, Bool.or_eq_true, decide_eq_true_eq] at sign
  rcases sign with rfl | rfl <;> contradiction

theorem IsDigits.stops_isSign {digits : List Char} (decimal : IsDigits digits) : Stops isSign digits :=
  stops_of_forall fun c member => isSign_eq_false_of_isDecimal (decimal c member)

/-- What stands behind a sign, where that is digits. -/
theorem splitSign_digits_iff {text : List Char} :
    (splitSign text).2 ≠ [] ∧ IsDigits (splitSign text).2 ↔
      ∃ sign digits, text = sign ++ digits ∧ Signed sign ∧ digits ≠ [] ∧ IsDigits digits := by
  constructor
  · rintro ⟨nonempty, decimal⟩
    obtain ⟨sign, signed, split⟩ := exists_sign text
    exact ⟨sign, _, split, signed, nonempty, decimal⟩
  · rintro ⟨sign, digits, rfl, signed, nonempty, decimal⟩
    rw [splitSign_append signed decimal.stops_isSign]
    exact ⟨nonempty, decimal⟩

/-! ## Exponents -/

theorem exponentOf?_cons_isSome_iff {mark : Char} {rest : List Char} :
    (exponentOf? (mark :: rest)).isSome = true ↔
      (mark = 'e' ∨ mark = 'E') ∧ (splitSign rest).2 ≠ [] ∧ IsDigits (splitSign rest).2 := by
  have readable : ((splitSign rest).2.isEmpty || !(splitSign rest).2.all isDecimal) = true ↔
      ¬((splitSign rest).2 ≠ [] ∧ IsDigits (splitSign rest).2) := by
    rw [← Bool.not_eq_false, not_iff_not]
    simp [IsDigits]
  simp only [exponentOf?, Bool.or_eq_true, decide_eq_true_eq]
  split_ifs with marked unread
  · simpa [marked] using readable.mp (by simpa using unread)
  · simpa [marked] using not_not.mp (mt readable.mpr (by simpa using unread))
  · simp [marked]

theorem exponentOf?_isSome_iff {text : List Char} :
    (exponentOf? text).isSome = true ↔ text = [] ∨ Exponent text := by
  cases text with
  | nil => simp [exponentOf?]
  | cons mark rest =>
    rw [exponentOf?_cons_isSome_iff, splitSign_digits_iff]
    constructor
    · rintro ⟨marked, sign, digits, rfl, signed, nonempty, decimal⟩
      exact .inr (.written marked signed nonempty decimal)
    · rintro (empty | ⟨marked, signed, nonempty, decimal⟩)
      · contradiction
      · exact ⟨marked, _, _, rfl, signed, nonempty, decimal⟩

/-- An exponent starts with its mark, which is no digit and no point. -/
theorem Exponent.stops {text : List Char} (powered : text = [] ∨ Exponent text) :
    Stops isDecimal text ∧ Stops (· = '.') text := by
  rcases powered with rfl | ⟨rfl | rfl, -, -, -⟩
  · simp
  · simp; decide
  · simp; decide

/-! ## Magnitudes -/

theorem IsDigits.takeWhile_append {digits rest : List Char} (decimal : IsDigits digits)
    (stops : Stops isDecimal rest) :
    (digits ++ rest).takeWhile isDecimal = digits ∧ (digits ++ rest).dropWhile isDecimal = rest :=
  takeWhile_append_of_stops decimal stops

/-- The digits behind a point, and what follows them; without a point there are none. -/
def fractionPart (text : List Char) : List Char × List Char :=
  match text with
  | '.' :: more => (more.takeWhile isDecimal, more.dropWhile isDecimal)
  | _ => ([], text)

theorem fractionPart_eq_self {text : List Char} (pointless : Stops (· = '.') text) :
    fractionPart text = ([], text) := by
  unfold fractionPart
  split
  · simp at pointless
  · rfl

theorem unsignedDecimal?_isSome_iff_parts (negative : Bool) {whole rest : List Char} (decimal : IsDigits whole)
    (stops : Stops isDecimal rest) :
    (unsignedDecimal? negative (whole ++ rest)).isSome = true ↔
      whole ++ (fractionPart rest).1 ≠ [] ∧ (exponentOf? (fractionPart rest).2).isSome = true := by
  obtain ⟨taken, left⟩ := decimal.takeWhile_append stops
  have same (text : List Char) : unsignedDecimal? negative text = do
      let whole := text.takeWhile isDecimal
      let part := fractionPart (text.dropWhile isDecimal)
      if whole.isEmpty && part.1.isEmpty then none
      let exponent ← exponentOf? part.2
      return ⟨negative, ofDigits 10 ((whole ++ part.1).filterMap digitValue?), exponent - part.1.length⟩ := rfl
  have digits : (whole.isEmpty && (fractionPart rest).1.isEmpty) = true ↔ whole ++ (fractionPart rest).1 = [] := by
    simp
  rw [same, taken, left]
  dsimp only
  split_ifs with empty
  · simp [digits.mp empty]
  · rw [digits] at empty
    cases exponentOf? (fractionPart rest).2 with
    | none => simp
    | some exponent => simpa using empty

/-- The point that a text may start with, and the digits behind it. -/
theorem fractionPart_spelled (text : List Char) :
    Stops (· = '.') text ∨
      ∃ fraction rest, text = '.' :: (fraction ++ rest) ∧ IsDigits fraction ∧ Stops isDecimal rest := by
  cases text with
  | nil => exact .inl (stops_nil _)
  | cons c more =>
    by_cases point : c = '.'
    · obtain ⟨fraction, rest, rfl, decimal, stops⟩ := exists_run isDecimal more
      exact .inr ⟨fraction, rest, by rw [point], decimal, stops⟩
    · exact .inl ((stops_cons ..).mpr (decide_eq_false point))

theorem fractionPart_point {fraction rest : List Char} (decimal : IsDigits fraction) (stops : Stops isDecimal rest) :
    fractionPart ('.' :: (fraction ++ rest)) = (fraction, rest) := by
  obtain ⟨taken, left⟩ := decimal.takeWhile_append stops
  rw [fractionPart, taken, left]

theorem unsignedDecimal?_isSome_iff (negative : Bool) {text : List Char} :
    (unsignedDecimal? negative text).isSome = true ↔ Magnitude text := by
  constructor
  · intro read
    obtain ⟨whole, behind, rfl, decimal, stops⟩ := exists_run isDecimal text
    rw [unsignedDecimal?_isSome_iff_parts negative decimal stops, exponentOf?_isSome_iff] at read
    rcases fractionPart_spelled behind with pointless | ⟨fraction, rest, rfl, fractional, ended⟩
    · rw [fractionPart_eq_self pointless, List.append_nil] at read
      exact .plain read.1 decimal read.2
    · rw [fractionPart_point fractional ended] at read
      exact .pointed read.1 decimal fractional read.2
  · rintro (⟨nonempty, decimal, powered⟩ | ⟨nonempty, decimal, fractional, powered⟩)
    · obtain ⟨stops, pointless⟩ := Exponent.stops powered
      rw [unsignedDecimal?_isSome_iff_parts negative decimal stops, fractionPart_eq_self pointless,
        exponentOf?_isSome_iff, List.append_nil]
      exact ⟨nonempty, powered⟩
    · have point (more : List Char) : Stops isDecimal ('.' :: more) := (stops_cons ..).mpr (by decide)
      rw [unsignedDecimal?_isSome_iff_parts negative decimal (point _),
        fractionPart_point fractional (Exponent.stops powered).1, exponentOf?_isSome_iff]
      exact ⟨nonempty, powered⟩

theorem Magnitude.stops_isSign {text : List Char} (spelled : Magnitude text) : Stops isSign text := by
  cases spelled with
  | plain nonempty decimal powered =>
    exact stops_append_of_ne_nil nonempty (fun c member => isSign_eq_false_of_isDecimal (decimal c member)) _
  | pointed nonempty decimal fractional powered =>
    exact stops_append (fun c member => isSign_eq_false_of_isDecimal (decimal c member))
      ((stops_cons ..).mpr (by decide))

theorem decimal?_isSome_iff {text : List Char} :
    (decimal? text).isSome = true ↔
      ∃ sign magnitude, text = sign ++ magnitude ∧ Signed sign ∧ Magnitude magnitude := by
  rw [decimal?]
  dsimp only
  rw [unsignedDecimal?_isSome_iff]
  constructor
  · intro spelled
    obtain ⟨sign, signed, split⟩ := exists_sign text
    exact ⟨sign, _, split, signed, spelled⟩
  · rintro ⟨sign, magnitude, rfl, signed, spelled⟩
    rwa [splitSign_append signed spelled.stops_isSign]

/-! ## Whole numbers -/

theorem wholeOfDigits_eq_error_iff {digits : List Nat} {error : TooManyDigits} :
    wholeOfDigits digits = .error error ↔ digitLimit < digits.length ∧ error = ⟨digits.length⟩ := by
  unfold wholeOfDigits
  split_ifs with long
  · simp [long, eq_comm]
  · simp [long]

theorem isDigits_toDigits (n : ℕ) : IsDigits (Nat.toDigits 10 n) := fun _ member =>
  isDecimal_of_isDigit (Nat.isDigit_of_mem_toDigits (by decide) (by decide) member)

theorem filterMap_digitValue?_toDigits (n : ℕ) :
    (Nat.toDigits 10 n).filterMap digitValue? = (Nat.toDigits 10 n).map fun c => c.toNat - 48 := by
  rw [← List.filterMap_eq_map]
  refine List.filterMap_congr fun c member => ?_
  exact digitValue?_of_isDigit (Nat.isDigit_of_mem_toDigits (by decide) (by decide) member)

theorem wholeOfDigits_toDigits {n : ℕ} (short : digitCount n ≤ digitLimit) :
    wholeOfDigits ((Nat.toDigits 10 n).filterMap digitValue?) = .ok n := by
  have fits : ¬digitLimit < ((Nat.toDigits 10 n).map fun c => c.toNat - 48).length := by
    rw [List.length_map]
    exact Nat.not_lt.mpr short
  have value : ofDigits 10 ((Nat.toDigits 10 n).map fun c => c.toNat - 48) = n := by
    conv_rhs => rw [← Nat.ofDigitChars_ten_toDigits (n := n), Nat.ofDigitChars_eq_foldl]
    rw [ofDigits, List.foldl_map]
    simp only [Nat.mul_comm]
    rfl
  rw [filterMap_digitValue?_toDigits, wholeOfDigits, if_neg fits, value]

theorem toList_toString_ofNat (n : ℕ) : (toString (Int.ofNat n)).toList = Nat.toDigits 10 n :=
  Nat.toList_repr

theorem toList_toString_negSucc (n : ℕ) : (toString (Int.negSucc n)).toList = '-' :: Nat.toDigits 10 (n + 1) := by
  have written : toString (Int.negSucc n) = "-" ++ Nat.repr (n + 1) := rfl
  rw [written, String.toList_append, Nat.toList_repr]
  rfl

theorem toString_signed (n : ℤ) :
    ∃ sign, Signed sign ∧ (toString n).toList = sign ++ Nat.toDigits 10 n.natAbs := by
  cases n with
  | ofNat n => exact ⟨[], .unsigned, toList_toString_ofNat n⟩
  | negSucc n => exact ⟨['-'], .signed rfl, toList_toString_negSucc n⟩

/-- The digits that a whole number is written with are read back as that number. -/
theorem wholeOfText_toString {n : ℤ} (short : digitCount n.natAbs ≤ digitLimit) :
    wholeOfText (toString n).toList = .ok n := by
  cases n with
  | ofNat n =>
    have read : wholeOfDigits ((Nat.toDigits 10 n).filterMap digitValue?) = .ok n := wholeOfDigits_toDigits short
    rw [toList_toString_ofNat, wholeOfText, splitSign_of_stops (isDigits_toDigits n).stops_isSign]
    dsimp only
    rw [read]
    rfl
  | negSucc n =>
    have read : wholeOfDigits ((Nat.toDigits 10 (n + 1)).filterMap digitValue?) = .ok (n + 1) :=
      wholeOfDigits_toDigits short
    rw [toList_toString_negSucc, wholeOfText]
    simp only [splitSign]
    rw [read]
    rfl

/-! ## Numbers that were read are written -/

theorem foldl_digits_lt {digits : List ℕ} (each : ∀ digit ∈ digits, digit < 10) (start : ℕ) :
    digits.foldl (fun value digit => value * 10 + digit) start < (start + 1) * 10 ^ digits.length := by
  induction digits generalizing start with
  | nil => simp
  | cons digit digits ih =>
    rw [List.forall_mem_cons] at each
    calc (digit :: digits).foldl (fun value digit => value * 10 + digit) start
        < (start * 10 + digit + 1) * 10 ^ digits.length := ih each.2 _
      _ ≤ ((start + 1) * 10) * 10 ^ digits.length := Nat.mul_le_mul_right _ (by omega)
      _ = (start + 1) * 10 ^ (digits.length + 1) := by rw [Nat.pow_succ', Nat.mul_assoc]

theorem groupedDigits?_eq_some {text : List Char} {digits : List ℕ} (read : groupedDigits? text = some digits) :
    digits ≠ [] ∧ ∀ digit ∈ digits, digit < 10 := by
  have longer {c : Char} {rest : List Char} {digits : List ℕ}
      (later : ∀ {digits}, groupedDigits? rest = some digits → digits ≠ [] ∧ ∀ digit ∈ digits, digit < 10)
      (read : (do return (← digitValue? c) :: (← groupedDigits? rest)) = some digits) :
      digits ≠ [] ∧ ∀ digit ∈ digits, digit < 10 := by
    obtain ⟨digit, value, read⟩ := Option.bind_eq_some_iff.mp read
    obtain ⟨others, found, same⟩ := Option.bind_eq_some_iff.mp read
    obtain rfl := Option.some.inj same
    exact ⟨List.cons_ne_nil _ _, List.forall_mem_cons.mpr ⟨digitValue?_lt value, (later found).2⟩⟩
  fun_induction groupedDigits? text generalizing digits with
  | case1 => contradiction
  | case2 c =>
    obtain ⟨digit, value, rfl⟩ := Option.map_eq_some_iff.mp read
    simpa using digitValue?_lt value
  | case3 c rest ih => exact longer ih read
  | case4 c rest _ _ ih => exact longer ih read

/-- A whole number that was read has no more digits than may be written. -/
theorem digitCount_of_readWhole? {text : List Char} {n : ℤ} (read : readWhole? text = some n) :
    digitCount n.natAbs ≤ digitLimit := by
  unfold readWhole? at read
  generalize splitSign (trimNumber text) = spelled at read
  obtain ⟨digits, grouped, read⟩ := Option.bind_eq_some_iff.mp read
  obtain ⟨nonempty, each⟩ := groupedDigits?_eq_some grouped
  unfold wholeOfDigits at read
  split_ifs at read with long
  have value : n.natAbs = ofDigits 10 digits := by
    rw [← Option.some.inj read]
    cases spelled.1 <;> simp [withSign]
  have bound : ofDigits 10 digits < 10 ^ digits.length := by simpa [ofDigits] using foldl_digits_lt each 0
  calc digitCount n.natAbs
      = (Nat.toDigits 10 (ofDigits 10 digits)).length := by rw [value, digitCount]
    _ ≤ digits.length := Nat.toDigits_length _ _ _ (List.length_pos_of_ne_nil nonempty) bound
    _ ≤ digitLimit := Nat.le_of_not_lt long

theorem intText_eq_toString (n : ℤ) : intText n = toString n := by
  cases n with
  | ofNat n =>
    have nonneg : ¬Int.ofNat n < 0 := Int.not_lt.mpr (Int.natCast_nonneg n)
    rw [← String.toList_inj, toList_toString_ofNat, intText, if_neg nonneg, String.toList_ofList]
    rfl
  | negSucc n =>
    rw [← String.toList_inj, toList_toString_negSucc]
    simp [intText, natDigits]

end StoryCatalog.Number
