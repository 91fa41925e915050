import StoryCatalog.Proofs.Except
import StoryCatalog.Proofs.Number.Reading
import StoryCatalog.Story.Literal

/-!
# Written literals

A raw arg with quotes around a text stands for that text, unless the text is a truth value or has the form
of a number; the digits of a whole number stand for it with or without quotes. Nothing else than the
count of digits can keep a raw arg from having a value.
-/

namespace StoryCatalog.Story

open Text Source Number

/-! ## Numbers -/

/-- A hexadecimal digit of the ASCII block. -/
def IsHexDigit (c : Char) : Prop :=
  c.isDigit = true ∨ ('a' ≤ c ∧ c ≤ 'f') ∨ ('A' ≤ c ∧ c ≤ 'F')

/-- The texts that are numbers. -/
inductive NumberText : List Char → Prop
  | whole {sign digits : List Char} (signed : Signed sign) (nonempty : digits ≠ []) (decimal : IsDigits digits) :
      NumberText (sign ++ digits)
  | hexadecimal {mark : Char} {digits : List Char} (marked : mark = 'x' ∨ mark = 'X') (nonempty : digits ≠ [])
      (hex : ∀ c ∈ digits, IsHexDigit c) : NumberText ('0' :: mark :: digits)
  | decimal {sign magnitude : List Char} (signed : Signed sign) (spelled : Magnitude magnitude) :
      NumberText (sign ++ magnitude)

theorem hexValue?_isSome_iff {c : Char} : (hexValue? c).isSome = true ↔ IsHexDigit c := by
  simp only [hexValue?, Bool.and_eq_true, decide_eq_true_eq]
  unfold IsHexDigit
  split_ifs with digit small capital <;> simp [*]

theorem hexDigits?_isSome_iff {text : List Char} :
    (hexDigits? text).isSome = true ↔
      ∃ mark digits, text = '0' :: mark :: digits ∧ (mark = 'x' ∨ mark = 'X') ∧ digits ≠ [] ∧
        ∀ c ∈ digits, IsHexDigit c := by
  unfold hexDigits?
  split
  · next mark c rest =>
    simp only [← hexValue?_isSome_iff]
    simp
  · next other =>
    simp only [Option.isSome_none, Bool.false_eq_true, false_iff]
    rintro ⟨mark, digits, rfl, -, nonempty, -⟩
    obtain ⟨c, rest, rfl⟩ := List.exists_cons_of_ne_nil nonempty
    exact other mark c rest rfl

theorem isWhole_iff {text : List Char} :
    isWhole text = true ↔ ∃ sign digits, text = sign ++ digits ∧ Signed sign ∧ digits ≠ [] ∧ IsDigits digits := by
  rw [← splitSign_digits_iff, isWhole]
  simp [IsDigits]

theorem numberText_iff {text : List Char} :
    NumberText text ↔ (hexDigits? text).isSome = true ∨ isWhole text = true ∨ (decimal? text).isSome = true := by
  rw [hexDigits?_isSome_iff, isWhole_iff, decimal?_isSome_iff]
  constructor
  · rintro (⟨signed, nonempty, decimal⟩ | ⟨marked, nonempty, hex⟩ | ⟨signed, spelled⟩)
    · exact .inr (.inl ⟨_, _, rfl, signed, nonempty, decimal⟩)
    · exact .inl ⟨_, _, rfl, marked, nonempty, hex⟩
    · exact .inr (.inr ⟨_, _, rfl, signed, spelled⟩)
  · rintro (⟨mark, digits, rfl, marked, nonempty, hex⟩ | ⟨sign, digits, rfl, signed, nonempty, decimal⟩ |
      ⟨sign, magnitude, rfl, signed, spelled⟩)
    · exact .hexadecimal marked nonempty hex
    · exact .whole signed nonempty decimal
    · exact .decimal signed spelled

/-- A hexadecimal number is not written in decimal digits. -/
theorem isWhole_eq_false_of_hexDigits? {text digits : List Char} (hex : hexDigits? text = some digits) :
    isWhole text = false := by
  unfold hexDigits? at hex
  split at hex
  · next x c rest =>
    simp only [Option.ite_none_right_eq_some, Bool.and_eq_true, Bool.or_eq_true, decide_eq_true_eq] at hex
    obtain ⟨⟨marked, -⟩, -⟩ := hex
    have letter : isDecimal x = false := by
      rcases marked with rfl | rfl <;> decide
    simp [isWhole, splitSign, letter]
  · contradiction

/-- A text without the form of a number is read as none, and one with the form never as a text. -/
theorem number?_cases (text : List Char) :
    (¬NumberText text ∧ number? text = .ok none) ∨
      (NumberText text ∧
        ∀ found, number? text = .ok found → ∃ literal, found = some literal ∧ ∀ s, literal ≠ .text s) := by
  rw [numberText_iff, number?]
  cases hexDigits? text with
  | some digits =>
    refine .inr ⟨.inl rfl, ?_⟩
    rintro _ ⟨⟩
    exact ⟨_, rfl, nofun⟩
  | none =>
    cases isWhole text with
    | true =>
      refine .inr ⟨.inr (.inl rfl), ?_⟩
      cases wholeOfText text with
      | error cause => exact nofun
      | ok n =>
        rintro _ ⟨⟩
        exact ⟨_, rfl, nofun⟩
    | false =>
      cases decimal? text with
      | none => exact .inl ⟨by simp, rfl⟩
      | some number =>
        refine .inr ⟨.inr (.inr rfl), ?_⟩
        rintro _ ⟨⟩
        exact ⟨_, rfl, nofun⟩

/-- A whole number with more digits than can be read. -/
def TooLong (text : List Char) : Prop :=
  isWhole text = true ∧ digitLimit < (splitSign text).2.length

instance (text : List Char) : Decidable (TooLong text) :=
  inferInstanceAs (Decidable (_ ∧ _))

theorem wholeOfText_eq_error_iff {text : List Char} (whole : isWhole text = true) {cause : TooManyDigits} :
    wholeOfText text = .error cause ↔
      digitLimit < (splitSign text).2.length ∧ cause = ⟨(splitSign text).2.length⟩ := by
  have digits : ∀ c ∈ (splitSign text).2, (digitValue? c).isSome = true := by
    simp only [isWhole, Bool.and_eq_true, List.all_eq_true] at whole
    exact whole.2
  have kept : ((splitSign text).2.filterMap digitValue?).length = (splitSign text).2.length :=
    List.filterMap_length_eq_length.mpr digits
  have counted := @wholeOfDigits_eq_error_iff ((splitSign text).2.filterMap digitValue?) cause
  rw [kept] at counted
  rw [← counted, wholeOfText]
  exact bind_pure_eq_error_iff

theorem tooLong_iff {text : List Char} :
    TooLong text ↔
      ∃ sign digits, text = sign ++ digits ∧ Signed sign ∧ IsDigits digits ∧ digitLimit < digits.length := by
  constructor
  · rintro ⟨whole, long⟩
    rw [isWhole, Bool.and_eq_true, List.all_eq_true] at whole
    obtain ⟨sign, signed, split⟩ := exists_sign text
    exact ⟨sign, _, split, signed, whole.2, long⟩
  · rintro ⟨sign, digits, rfl, signed, decimal, long⟩
    have nonempty : digits ≠ [] := List.ne_nil_of_length_pos (Nat.zero_lt_of_lt long)
    refine ⟨isWhole_iff.mpr ⟨sign, digits, rfl, signed, nonempty, decimal⟩, ?_⟩
    rwa [splitSign_append signed decimal.stops_isSign]

theorem number?_eq_error_iff {text : List Char} {cause : TooManyDigits} :
    number? text = .error cause ↔ TooLong text ∧ cause = ⟨(splitSign text).2.length⟩ := by
  unfold number? TooLong
  cases hex : hexDigits? text with
  | some digits => simp [isWhole_eq_false_of_hexDigits? hex]
  | none =>
    cases whole : isWhole text with
    | false => simp
    | true =>
      simp only [if_true, true_and, ← wholeOfText_eq_error_iff whole]
      cases wholeOfText text <;> simp [Functor.map, Except.map]

/-! ## Quotes -/

/-- No quote, or one. -/
inductive Edge : List Char → Prop
  | bare : Edge []
  | quoted {c : Char} (quote : isQuote c = true) : Edge [c]

theorem dropEndQuote_concat {front : List Char} {c : Char} (other : c ≠ '\n') :
    dropEndQuote (front ++ [c]) = if isQuote c then front else front ++ [c] := by
  unfold dropEndQuote
  split
  · next rest last => simp [other] at last
  · next d rest _ last =>
    obtain ⟨rfl, rfl⟩ : c = d ∧ front.reverse = rest := by simpa using last
    rw [List.reverse_reverse]
  · next last => simp at last

/-- A line feed at the end is left, with or without a quote before it. -/
theorem feed_mem_dropEndQuote (front : List Char) : '\n' ∈ dropEndQuote (front ++ ['\n']) := by
  unfold dropEndQuote
  split
  · split_ifs <;> simp
  · next d rest _ last =>
    obtain ⟨rfl, rfl⟩ : '\n' = d ∧ front.reverse = rest := by simpa using last
    have plain : isQuote '\n' = false := rfl
    simp [plain]
  · next last => simp at last

theorem ne_feed_of_isQuote {c : Char} (quote : isQuote c = true) : c ≠ '\n' := by
  rintro rfl
  contradiction

theorem unquote_between {c : Char} (quote : isQuote c = true) (text : List Char) :
    unquote (c :: (text ++ [c])) = text := by
  rw [unquote, dropStartQuote, if_pos quote, dropEndQuote_concat (ne_feed_of_isQuote quote), if_pos quote]

/-- One quote is taken off each end of a text that has none of its own. -/
theorem unquote_edges {opening closing text : List Char} (opened : Edge opening) (closed : Edge closing)
    (nonempty : text ≠ []) (plain : ∀ c ∈ text, isQuote c = false) (one_line : '\n' ∉ text) :
    unquote (opening ++ (text ++ closing)) = text := by
  have started : dropStartQuote (opening ++ (text ++ closing)) = text ++ closing := by
    cases opened with
    | bare =>
      obtain ⟨c, rest, rfl⟩ := List.exists_cons_of_ne_nil nonempty
      have first : isQuote c = false := plain c (List.mem_cons_self ..)
      simp [dropStartQuote, first]
    | quoted quote => rw [List.singleton_append, dropStartQuote, if_pos quote]
  rw [unquote, started]
  cases closed with
  | bare =>
    obtain ⟨front, c, rfl⟩ := List.eq_nil_or_concat' text |>.resolve_left nonempty
    have member : c ∈ front ++ [c] := List.mem_append_right _ (List.mem_singleton_self c)
    have other : c ≠ '\n' := ne_of_mem_of_not_mem member one_line
    rw [List.append_nil, dropEndQuote_concat other, plain c member]
    rfl
  | quoted quote => rw [dropEndQuote_concat (ne_feed_of_isQuote quote), if_pos quote]

theorem exists_front_edge (text : List Char) :
    ∃ opening, Edge opening ∧ text = opening ++ dropStartQuote text := by
  cases text with
  | nil => exact ⟨[], .bare, rfl⟩
  | cons c rest =>
    rw [dropStartQuote]
    split_ifs with quote
    · exact ⟨[c], .quoted quote, rfl⟩
    · exact ⟨[], .bare, rfl⟩

/-- The end that a quote is taken off may be a line feed, which is left. -/
theorem exists_back_edge {text : List Char} (one_line : '\n' ∉ dropEndQuote text) :
    ∃ closing, Edge closing ∧ text = dropEndQuote text ++ closing := by
  obtain rfl | ⟨front, c, rfl⟩ := List.eq_nil_or_concat' text
  · exact ⟨[], .bare, rfl⟩
  · by_cases feed : c = '\n'
    · subst feed
      exact absurd (feed_mem_dropEndQuote front) one_line
    · rw [dropEndQuote_concat feed]
      split_ifs with quote
      · exact ⟨[c], .quoted quote, rfl⟩
      · exact ⟨[], .bare, (List.append_nil _).symm⟩

theorem exists_edges {raw : List Char} (one_line : '\n' ∉ unquote raw) :
    ∃ opening closing, Edge opening ∧ Edge closing ∧ raw = opening ++ (unquote raw ++ closing) := by
  obtain ⟨opening, opened, front⟩ := exists_front_edge raw
  obtain ⟨closing, closed, back⟩ := exists_back_edge one_line
  exact ⟨opening, closing, opened, closed, front.trans (congrArg (opening ++ ·) back)⟩

/-! ## Values -/

theorem number?_true : number? "true".toList = .ok none := rfl

theorem number?_false : number? "false".toList = .ok none := rfl

theorem coerce_of_true {raw : List Char} (yes : unquote raw = "true".toList) : coerce raw = .ok (.flag true) := by
  rw [coerce, if_pos yes]
  rfl

theorem coerce_of_false {raw : List Char} (no : unquote raw = "false".toList) : coerce raw = .ok (.flag false) := by
  have other : ¬unquote raw = "true".toList := no ▸ by decide
  rw [coerce, if_neg other, if_pos no]
  rfl

theorem coerce_of_not_flag {raw : List Char} (yes : unquote raw ≠ "true".toList)
    (no : unquote raw ≠ "false".toList) :
    coerce raw = (fun found => found.getD (.text (String.ofList (unquote raw)))) <$> number? (unquote raw) := by
  rw [coerce, if_neg yes, if_neg no]
  cases number? (unquote raw) with
  | error cause => rfl
  | ok found => cases found <;> rfl

/-- No truth value has the form of a number. -/
theorem coerce_of_number? {raw : List Char} {literal : Literal}
    (read : number? (unquote raw) = .ok (some literal)) : coerce raw = .ok literal := by
  have yes : unquote raw ≠ "true".toList := by
    intro same
    rw [same, number?_true] at read
    cases read
  have no : unquote raw ≠ "false".toList := by
    intro same
    rw [same, number?_false] at read
    cases read
  rw [coerce_of_not_flag yes no, read]
  rfl

/-- Only a whole number with too many digits stands for nothing. -/
theorem coerce_eq_error_iff {raw : List Char} {cause : TooManyDigits} :
    coerce raw = .error cause ↔
      TooLong (unquote raw) ∧ cause = ⟨(splitSign (unquote raw)).2.length⟩ := by
  rw [← number?_eq_error_iff]
  by_cases yes : unquote raw = "true".toList
  · rw [coerce_of_true yes, yes, number?_true]
    exact iff_of_false nofun nofun
  by_cases no : unquote raw = "false".toList
  · rw [coerce_of_false no, no, number?_false]
    exact iff_of_false nofun nofun
  rw [coerce_of_not_flag yes no]
  cases number? (unquote raw) <;> simp [Functor.map, Except.map]

theorem exists_coerce_of_not_tooLong {raw : List Char} (readable : ¬TooLong (unquote raw)) :
    ∃ literal, coerce raw = .ok literal := by
  cases read : coerce raw with
  | ok literal => exact ⟨literal, rfl⟩
  | error cause => exact absurd (coerce_eq_error_iff.mp read).1 readable

theorem coerce_eq_text_iff {raw : List Char} {s : String} :
    coerce raw = .ok (.text s) ↔
      unquote raw = s.toList ∧ ¬(s = "true" ∨ s = "false" ∨ NumberText s.toList) := by
  by_cases yes : unquote raw = "true".toList
  · rw [coerce_of_true yes, yes]
    refine iff_of_false nofun ?_
    rintro ⟨same, other⟩
    exact other (.inl (String.toList_inj.mp same.symm))
  by_cases no : unquote raw = "false".toList
  · rw [coerce_of_false no, no]
    refine iff_of_false nofun ?_
    rintro ⟨same, other⟩
    exact other (.inr (.inl (String.toList_inj.mp same.symm)))
  rw [coerce_of_not_flag yes no]
  rcases number?_cases (unquote raw) with ⟨other, none⟩ | ⟨spelled, some⟩
  · rw [none]
    constructor
    · intro read
      obtain rfl : String.ofList (unquote raw) = s := Literal.text.inj (Except.ok.inj read)
      simp only [← String.toList_inj, String.toList_ofList]
      exact ⟨trivial, not_or.mpr ⟨yes, not_or.mpr ⟨no, other⟩⟩⟩
    · rintro ⟨same, -⟩
      rw [same, String.ofList_toList]
      rfl
  · refine iff_of_false ?_ ?_
    · intro read
      cases number : number? (unquote raw) with
      | error cause =>
        rw [number] at read
        cases read
      | ok found =>
        obtain ⟨literal, rfl, differ⟩ := some found number
        rw [number] at read
        exact differ s (Except.ok.inj read)
    · rintro ⟨same, other⟩
      exact other (.inr (.inr (same ▸ spelled)))

theorem number?_toString {n : ℤ} (short : digitCount n.natAbs ≤ digitLimit) :
    number? (toString n).toList = .ok (some (.whole n)) := by
  have whole : isWhole (toString n).toList = true := by
    obtain ⟨sign, signed, written⟩ := toString_signed n
    exact isWhole_iff.mpr ⟨sign, _, written, signed, Nat.toDigits_ne_nil, isDigits_toDigits n.natAbs⟩
  have decimal : hexDigits? (toString n).toList = none := by
    rw [Option.eq_none_iff_forall_ne_some]
    intro digits hex
    rw [isWhole_eq_false_of_hexDigits? hex] at whole
    contradiction
  rw [number?, decimal]
  dsimp only
  rw [if_pos whole, wholeOfText_toString short]
  rfl

/-- The characters of a whole number are neither quotes nor line feeds. -/
theorem plain_of_signed {sign digits : List Char} (signed : Signed sign) (decimal : IsDigits digits) :
    (∀ c ∈ sign ++ digits, isQuote c = false) ∧ '\n' ∉ sign ++ digits := by
  have of_decimal {c : Char} (digit : isDecimal c = true) : isQuote c = false ∧ c ≠ '\n' := by
    refine ⟨Bool.eq_false_iff.mpr fun quote => ?_, ?_⟩
    · simp only [isQuote, Bool.or_eq_true, decide_eq_true_eq] at quote
      rcases quote with rfl | rfl <;> contradiction
    · rintro rfl
      contradiction
  have of_sign {c : Char} (sign : isSign c = true) : isQuote c = false ∧ c ≠ '\n' := by
    simp only [isSign, Bool.or_eq_true, decide_eq_true_eq] at sign
    rcases sign with rfl | rfl <;> decide
  have each : ∀ c ∈ sign ++ digits, isQuote c = false ∧ c ≠ '\n' := by
    intro c member
    rcases List.mem_append.mp member with front | behind
    · cases signed with
      | unsigned => exact absurd front List.not_mem_nil
      | signed held =>
        obtain rfl := List.mem_singleton.mp front
        exact of_sign held
    · exact of_decimal (decimal c behind)
  exact ⟨fun c member => (each c member).1, fun feed => (each _ feed).2 rfl⟩

/-- Only too many digits have no value. -/
theorem exists_coerce_eq_error_iff {raw : List Char} :
    (∃ cause, coerce raw = .error cause) ↔
      ∃ opening sign digits closing, raw = opening ++ (sign ++ digits ++ closing) ∧ Edge opening ∧ Edge closing ∧
        Signed sign ∧ IsDigits digits ∧ digitLimit < digits.length := by
  simp only [coerce_eq_error_iff, exists_and_left, exists_eq, and_true, tooLong_iff]
  constructor
  · rintro ⟨sign, digits, spelled, signed, decimal, long⟩
    have plain := (plain_of_signed signed decimal).2
    rw [← spelled] at plain
    obtain ⟨opening, closing, opened, closed, split⟩ := exists_edges plain
    rw [spelled] at split
    exact ⟨opening, sign, digits, closing, split, opened, closed, signed, decimal, long⟩
  · rintro ⟨opening, sign, digits, closing, rfl, opened, closed, signed, decimal, long⟩
    obtain ⟨plain, one_line⟩ := plain_of_signed signed decimal
    have nonempty : sign ++ digits ≠ [] := by
      have positive := Nat.zero_lt_of_lt long
      exact List.append_ne_nil_of_right_ne_nil _ (List.ne_nil_of_length_pos positive)
    exact ⟨sign, digits, unquote_edges opened closed nonempty plain one_line, signed, decimal, long⟩

theorem coerce_toString {n : ℤ} {opening closing : List Char} (short : digitCount n.natAbs ≤ digitLimit)
    (opened : Edge opening) (closed : Edge closing) :
    coerce (opening ++ ((toString n).toList ++ closing)) = .ok (.whole n) := by
  apply coerce_of_number?
  obtain ⟨sign, signed, written⟩ := toString_signed n
  obtain ⟨plain, one_line⟩ := plain_of_signed signed (isDigits_toDigits n.natAbs)
  have nonempty : sign ++ Nat.toDigits 10 n.natAbs ≠ [] :=
    List.append_ne_nil_of_right_ne_nil _ Nat.toDigits_ne_nil
  rw [← written] at plain one_line nonempty
  rw [unquote_edges opened closed nonempty plain one_line, number?_toString short]

/-- A text in quotes is read back as the text, unless it is a truth value or a number; a whole number is read back
from its digits, whatever quotes are around them; and only too many digits have no value. -/
theorem coerce_reads_back :
    (∀ (s : String) (c : Char), isQuote c = true →
      (coerce (c :: (s.toList ++ [c])) = .ok (.text s) ↔
        ¬(s = "true" ∨ s = "false" ∨ NumberText s.toList))) ∧
    (∀ (n : ℤ) (opening closing : List Char), digitCount n.natAbs ≤ 4300 → Edge opening → Edge closing →
      coerce (opening ++ ((toString n).toList ++ closing)) = .ok (.whole n)) ∧
    ∀ raw : List Char, (∃ cause, coerce raw = .error cause) ↔
      ∃ opening sign digits closing, raw = opening ++ (sign ++ digits ++ closing) ∧ Edge opening ∧ Edge closing ∧
        Signed sign ∧ IsDigits digits ∧ 4300 < digits.length := by
  refine ⟨fun s c quote => ?_, fun n opening closing short opened closed => ?_, fun raw => ?_⟩
  · rw [coerce_eq_text_iff, unquote_between quote]
    exact and_iff_right rfl
  · exact coerce_toString short opened closed
  · exact exists_coerce_eq_error_iff

/-- A quote within quotes, a negative number behind a single quote, and digits of another script past the limit. -/
theorem coerce_reads_back_mixed :
    coerce ('"' :: ("don\x27t".toList ++ ['"'])) = .ok (.text "don\x27t") ∧
    coerce (['\x27'] ++ ((toString (-120 : ℤ)).toList ++ [])) = .ok (.whole (-120)) ∧
    ∃ cause, coerce ("\"+".toList ++ (List.replicate 4301 '٣' ++ ['"'])) = .error cause := by
  obtain ⟨texts, wholes, errors⟩ := coerce_reads_back
  refine ⟨(texts "don\x27t" '"' rfl).mpr ?_, wholes (-120) ['\x27'] [] ?_ (.quoted rfl) .bare, ?_⟩
  · rw [numberText_iff]
    decide
  · decide
  · refine (errors _).mpr ⟨['"'], ['+'], List.replicate 4301 '٣', ['"'], rfl, .quoted rfl, .quoted rfl, .signed rfl,
      ?_, ?_⟩
    · intro c member
      rw [List.eq_of_mem_replicate member]
      decide
    · rw [List.length_replicate]
      decide

end StoryCatalog.Story
