import StoryCatalog.Json.Reader
import StoryCatalog.Json.Writer
import StoryCatalog.Proofs.Except
import StoryCatalog.Proofs.Text.Utf8
import Mathlib.Data.List.Chain

/-!
# Strings are read as they were written

A written character stands for itself, is named by the letter behind a backslash, or is escaped by its units of sixteen
bits. Each form is read by one step, so a written string is read up to the quote that closes it. Half a surrogate pair
is escaped by its number, which is read by itself unless the other half follows, and that is never so in a string that
was read.
-/

namespace StoryCatalog.Json

open Text Number

/-! ## Escapes -/

theorem hexValue?_hexDigit {n : ℕ} (small : n < 16) : hexValue? (hexDigit n) = some n := by
  have every : ∀ n < 16, hexValue? (hexDigit n) = some n := by decide
  exact every n small

theorem fourHex?_hexDigits {n : ℕ} (small : n < 0x10000) (c : Char) (rest : List Char) :
    fourHex? (hexDigits n 4 ++ c :: rest) = some (n, c :: rest) := by
  have spelled : hexDigits n 4 ++ c :: rest = hexDigit (n / 16 / 16 / 16 % 16) :: hexDigit (n / 16 / 16 % 16) ::
      hexDigit (n / 16 % 16) :: hexDigit (n % 16) :: c :: rest := rfl
  have digit (m : ℕ) : hexValue? (hexDigit (m % 16)) = some (m % 16) := hexValue?_hexDigit (Nat.mod_lt _ (by decide))
  have value : ofDigits 16 [n / 16 / 16 / 16 % 16, n / 16 / 16 % 16, n / 16 % 16, n % 16] = n := by
    simp only [ofDigits, List.foldl_cons, List.foldl_nil]
    omega
  rw [spelled, fourHex?]
  simp only [digit, Option.bind_eq_bind, Option.bind_some, value]
  rfl

/-- No character is half of a surrogate pair. -/
theorem toNat_valid (c : Char) : c.toNat < 0xD800 ∨ 0xDFFF < c.toNat ∧ c.toNat < 0x110000 :=
  c.valid

theorem ofCode_toNat (c : Char) : TextUnit.ofCode c.toNat = .char c := by
  have valid := toNat_valid c
  rw [TextUnit.ofCode, dif_neg (by omega), Char.ofNat_toNat]

theorem ofCode_code (half : Half) : TextUnit.ofCode half.code = .lone half := by
  have within := half.offset.isLt
  rw [TextUnit.ofCode, dif_pos (by unfold Half.code; omega)]
  simp [Half.code]

theorem ofCode_eq_lone_iff {n : ℕ} {half : Half} : TextUnit.ofCode n = .lone half ↔ n = half.code := by
  constructor
  · intro same
    unfold TextUnit.ofCode at same
    split_ifs at same with surrogate
    rw [← TextUnit.lone.inj same, Half.code]
    simp only
    omega
  · rintro rfl
    exact ofCode_code half

/-- An escape that is no high surrogate is read by itself. -/
theorem unicodeEscape_single {n : ℕ} (small : n < 0x10000) (whole : isHighSurrogate n = false) (d : Char)
    (rest : List Char) : unicodeEscape (hexDigits n 4 ++ d :: rest) = .ok (.ofCode n, d :: rest) := by
  simp only [unicodeEscape, fourHex?_hexDigits small, whole, Bool.false_and, Bool.false_eq_true, if_false]

/-- An escape at the front of the text, if there is one, can be read and is no low surrogate. -/
def NoLowAhead (text : List Char) : Prop :=
  ∀ more, text = '\\' :: 'u' :: more → ∃ n after, fourHex? more = some (n, after) ∧ isLowSurrogate n = false

/-- A high surrogate is read by itself where no low one follows. -/
theorem unicodeEscape_high {high : ℕ} (small : high < 0x10000) {d : Char} {rest : List Char}
    (free : NoLowAhead (d :: rest)) : unicodeEscape (hexDigits high 4 ++ d :: rest) = .ok (.ofCode high, d :: rest) := by
  unfold unicodeEscape
  simp only [fourHex?_hexDigits small]
  split_ifs
  · split
    · next more same =>
      obtain ⟨n, after, read, single⟩ := free more same
      simp [read, single]
    · rfl
  · rfl

/-- The two halves of a surrogate pair are read as one character. -/
theorem unicodeEscape_pair {high low : ℕ} (smallHigh : high < 0x10000) (smallLow : low < 0x10000)
    (first : isHighSurrogate high = true) (second : isLowSurrogate low = true) (d : Char) (rest : List Char) :
    unicodeEscape (hexDigits high 4 ++ '\\' :: 'u' :: (hexDigits low 4 ++ d :: rest)) =
      .ok (.char (Char.ofNat (0x10000 + (high - 0xD800) * 0x400 + (low - 0xDC00))), d :: rest) := by
  have long : 6 < ('\\' :: 'u' :: (hexDigits low 4 ++ d :: rest)).length := by
    simp [hexDigits]
  unfold unicodeEscape
  simp only [fourHex?_hexDigits smallHigh, first, long, decide_true, Bool.and_self, if_true,
    fourHex?_hexDigits smallLow, second]

/-- The escapes of a character outside ASCII are read as that character, where something follows. -/
theorem unicodeEscape_unitEscapes (c d : Char) (rest : List Char) :
    ∃ escape, unitEscapes c = '\\' :: 'u' :: escape ∧
      unicodeEscape (escape ++ d :: rest) = .ok (.char c, d :: rest) := by
  have valid := toNat_valid c
  unfold unitEscapes
  split_ifs with single
  · have whole : isHighSurrogate c.toNat = false := by
      rw [isHighSurrogate, Bool.and_eq_false_iff, decide_eq_false_iff_not, decide_eq_false_iff_not]
      omega
    exact ⟨_, rfl, by rw [unicodeEscape_single single whole, ofCode_toNat]⟩
  · -- Beyond the first plane, the character is counted from there in two digits of base `0x400`.
    obtain ⟨high, low, smallHigh, smallLow, value⟩ : ∃ high low, high < 0x400 ∧ low < 0x400 ∧
        c.toNat = 0x10000 + high * 0x400 + low :=
      ⟨(c.toNat - 0x10000) / 0x400, (c.toNat - 0x10000) % 0x400, by omega, by omega, by omega⟩
    have halves : (c.toNat - 0x10000) / 0x400 = high ∧ (c.toNat - 0x10000) % 0x400 = low := by omega
    have first : isHighSurrogate (0xD800 + high) = true := by
      rw [isHighSurrogate, Bool.and_eq_true, decide_eq_true_eq, decide_eq_true_eq]
      omega
    have second : isLowSurrogate (0xDC00 + low) = true := by
      rw [isLowSurrogate, Bool.and_eq_true, decide_eq_true_eq, decide_eq_true_eq]
      omega
    have pair := unicodeEscape_pair (by omega) (by omega) first second d rest
    rw [Nat.add_sub_cancel_left, Nat.add_sub_cancel_left, ← value, Char.ofNat_toNat] at pair
    refine ⟨hexDigits (0xD800 + high) 4 ++ '\\' :: 'u' :: hexDigits (0xDC00 + low) 4, ?_, ?_⟩
    · dsimp only
      rw [halves.1, halves.2]
      rfl
    · rw [List.append_assoc]
      exact pair

/-! ## Characters -/

/-- A written character is read by one step, where something follows. -/
theorem readString_writtenChar (opened fuel : ℕ) (c d : Char) (rest : List Char) :
    readString opened (fuel + 1) (writtenChar c ++ d :: rest) = (do
      let (more, rest) ← readString opened fuel (d :: rest)
      return (.char c :: more, rest)) := by
  unfold writtenChar
  split_ifs with quoting newline carriage tab feed back printable
  · rw [Bool.or_eq_true, decide_eq_true_eq, decide_eq_true_eq] at quoting
    rcases quoting with rfl | rfl <;> rfl
  · rw [newline]; rfl
  · rw [carriage]; rfl
  · rw [tab]; rfl
  · rw [feed]; rfl
  · rw [back]; rfl
  · rw [Bool.or_eq_true, decide_eq_true_eq, decide_eq_true_eq, not_or] at quoting
    rw [Bool.and_eq_true, decide_eq_true_eq, decide_eq_true_eq] at printable
    have clear : ¬c.toNat ≤ 0x1F := by omega
    simp [readString, quoting, clear]
  · obtain ⟨escape, spelled, read⟩ := unicodeEscape_unitEscapes c d rest
    rw [spelled, List.cons_append, List.cons_append, readString, read]
    rfl

theorem isAscii_hexDigit {n : ℕ} (small : n < 16) : (hexDigit n).toNat < 128 := by
  have every : ∀ n < 16, (hexDigit n).toNat < 128 := by decide
  exact every n small

theorem isAscii_hexDigits {n width : ℕ} : IsAscii (hexDigits n width) := by
  induction width generalizing n with
  | zero => exact isAscii_nil
  | succ width ih => simp [hexDigits, ih, isAscii_hexDigit (Nat.mod_lt _ _)]

theorem isAscii_unitEscapes {c : Char} : IsAscii (unitEscapes c) := by
  unfold unitEscapes
  split_ifs <;> simp [isAscii_hexDigits]

theorem isAscii_writtenChar {c : Char} : IsAscii (writtenChar c) := by
  unfold writtenChar
  split_ifs with quoting _ _ _ _ _ printable
  · rw [Bool.or_eq_true, decide_eq_true_eq, decide_eq_true_eq] at quoting
    rcases quoting with rfl | rfl <;> simp
  · simp
  · simp
  · simp
  · simp
  · simp
  · rw [Bool.and_eq_true, decide_eq_true_eq, decide_eq_true_eq] at printable
    simp only [isAscii_cons, isAscii_nil, and_true]
    omega
  · exact isAscii_unitEscapes

theorem writtenChar_ne_nil (c : Char) : writtenChar c ≠ [] := by
  obtain ⟨escape, spelled, -⟩ := unicodeEscape_unitEscapes c c []
  unfold writtenChar
  split_ifs <;> simp [spelled]

/-! ## Halves of surrogate pairs -/

/-- The two units are not the halves of one pair. -/
def Unpaired (unit next : TextUnit) : Prop :=
  ∀ high low, unit = .lone high → next = .lone low → isHighSurrogate high.code = true →
    isLowSurrogate low.code = false

theorem unpaired_char (c : Char) (next : TextUnit) : Unpaired (.char c) next :=
  fun _ _ half => TextUnit.noConfusion half

/-- No half is followed by the one that makes a pair of it. -/
def WellPaired (units : List TextUnit) : Prop :=
  units.IsChain Unpaired

theorem wellPaired_chars (chars : List Char) : WellPaired (chars.map .char) := by
  induction chars with
  | nil => exact .nil
  | cons c chars ih => exact List.isChain_cons.mpr ⟨fun next _ => unpaired_char c next, ih⟩

theorem code_lt (half : Half) : half.code < 0x10000 := by
  have within := half.offset.isLt
  unfold Half.code
  omega

theorem noLowAhead_of_ne {text : List Char} (other : ∀ more, text ≠ '\\' :: 'u' :: more) : NoLowAhead text :=
  fun more same => absurd same (other more)

theorem noLowAhead_escape {n : ℕ} (small : n < 0x10000) (single : isLowSurrogate n = false) (d : Char)
    (rest : List Char) : NoLowAhead ('\\' :: 'u' :: (hexDigits n 4 ++ d :: rest)) := by
  intro more same
  obtain ⟨-, -, rfl⟩ : '\\' = '\\' ∧ 'u' = 'u' ∧ hexDigits n 4 ++ d :: rest = more := by simpa using same
  exact ⟨n, d :: rest, fourHex?_hexDigits small d rest, single⟩

theorem noLowAhead_unitEscapes (c d : Char) (rest : List Char) : NoLowAhead (unitEscapes c ++ d :: rest) := by
  have valid := toNat_valid c
  unfold unitEscapes
  split_ifs with single
  · refine noLowAhead_escape single ?_ d rest
    rw [isLowSurrogate, Bool.and_eq_false_iff, decide_eq_false_iff_not, decide_eq_false_iff_not]
    omega
  · dsimp only
    rw [List.append_assoc]
    refine noLowAhead_escape (by omega) ?_ '\\' _
    rw [isLowSurrogate, Bool.and_eq_false_iff, decide_eq_false_iff_not, decide_eq_false_iff_not]
    omega

/-- A written unit that is no low surrogate is not read as one. -/
theorem noLowAhead_writtenUnit {unit : TextUnit}
    (free : ∀ low, unit = .lone low → isLowSurrogate low.code = false) (d : Char) (rest : List Char) :
    NoLowAhead (writtenUnit unit ++ d :: rest) := by
  cases unit with
  | lone half => exact noLowAhead_escape (code_lt half) (free half rfl) d rest
  | char c =>
    change NoLowAhead (writtenChar c ++ d :: rest)
    unfold writtenChar
    split_ifs with quoting newline carriage tab feed back printable
    · rw [Bool.or_eq_true, decide_eq_true_eq, decide_eq_true_eq] at quoting
      rcases quoting with rfl | rfl <;> exact noLowAhead_of_ne (by simp)
    · exact noLowAhead_of_ne (by simp)
    · exact noLowAhead_of_ne (by simp)
    · exact noLowAhead_of_ne (by simp)
    · exact noLowAhead_of_ne (by simp)
    · exact noLowAhead_of_ne (by simp)
    · rw [Bool.or_eq_true, decide_eq_true_eq, decide_eq_true_eq, not_or] at quoting
      exact noLowAhead_of_ne (by simp [quoting.2])
    · exact noLowAhead_unitEscapes c d rest

/-- A written unit is read by one step, where something follows that does not make a pair of it. -/
theorem readString_writtenUnit (opened fuel : ℕ) {unit : TextUnit} {d : Char} {rest : List Char}
    (free : ∀ high, unit = .lone high → isHighSurrogate high.code = true → NoLowAhead (d :: rest)) :
    readString opened (fuel + 1) (writtenUnit unit ++ d :: rest) = (do
      let (more, rest) ← readString opened fuel (d :: rest)
      return (unit :: more, rest)) := by
  cases unit with
  | char c => exact readString_writtenChar opened fuel c d rest
  | lone half =>
    have read : unicodeEscape (hexDigits half.code 4 ++ d :: rest) = .ok (.lone half, d :: rest) := by
      rw [← ofCode_code half]
      cases high : isHighSurrogate half.code with
      | true => exact unicodeEscape_high (code_lt half) (free half rfl high)
      | false => exact unicodeEscape_single (code_lt half) high d rest
    change readString opened (fuel + 1) ('\\' :: 'u' :: (hexDigits half.code 4 ++ d :: rest)) = _
    rw [readString, read]
    rfl

/-! ## Strings -/

/-- The quote that closes a string is no escape, and neither is what stands before it a low surrogate unless it is
written as one. -/
theorem noLowAhead_written {units : List TextUnit}
    (free : ∀ low, units.head? = some (.lone low) → isLowSurrogate low.code = false) (rest : List Char) :
    NoLowAhead (units.flatMap writtenUnit ++ '"' :: rest) := by
  cases units with
  | nil => exact noLowAhead_of_ne (by simp)
  | cons unit units =>
    obtain ⟨d, tail, split⟩ : ∃ d tail, units.flatMap writtenUnit ++ '"' :: rest = d :: tail :=
      List.exists_cons_of_ne_nil (List.append_ne_nil_of_right_ne_nil _ (List.cons_ne_nil _ _))
    rw [List.flatMap_cons, List.append_assoc, split]
    exact noLowAhead_writtenUnit (fun low same => free low (congrArg some same)) d tail

/-- Written units are read until the quote that closes them. -/
theorem readString_written {opened fuel : ℕ} {units : List TextUnit} (paired : WellPaired units)
    (enough : units.length < fuel) (rest : List Char) :
    readString opened fuel (units.flatMap writtenUnit ++ '"' :: rest) = .ok (units, rest) := by
  induction units generalizing fuel with
  | nil =>
    obtain ⟨fuel, rfl⟩ := Nat.exists_eq_add_one_of_ne_zero (Nat.ne_zero_of_lt enough)
    rfl
  | cons unit units ih =>
    obtain ⟨fuel, rfl⟩ := Nat.exists_eq_add_one_of_ne_zero (Nat.ne_zero_of_lt enough)
    obtain ⟨d, tail, split⟩ : ∃ d tail, units.flatMap writtenUnit ++ '"' :: rest = d :: tail :=
      List.exists_cons_of_ne_nil (List.append_ne_nil_of_right_ne_nil _ (List.cons_ne_nil _ _))
    have free : ∀ high, unit = .lone high → isHighSurrogate high.code = true → NoLowAhead (d :: tail) := by
      rintro high rfl first
      rw [← split]
      refine noLowAhead_written (fun low next => ?_) rest
      exact (List.isChain_cons.mp paired).1 _ next high low rfl rfl first
    have later := ih (List.isChain_cons.mp paired).2 (Nat.lt_of_succ_lt_succ enough)
    rw [split] at later
    rw [List.flatMap_cons, List.append_assoc, split, readString_writtenUnit opened fuel free, later]
    rfl

theorem isAscii_writtenUnit {unit : TextUnit} : IsAscii (writtenUnit unit) := by
  cases unit with
  | char c => exact isAscii_writtenChar
  | lone half => simp [writtenUnit, Half.escape, isAscii_hexDigits]

theorem writtenUnit_ne_nil (unit : TextUnit) : writtenUnit unit ≠ [] := by
  cases unit with
  | char c => exact writtenChar_ne_nil c
  | lone half => exact List.cons_ne_nil _ _

theorem length_le_written (units : List TextUnit) : units.length ≤ (units.flatMap writtenUnit).length := by
  induction units with
  | nil => exact Nat.le_refl _
  | cons unit units ih =>
    have here := List.length_pos_of_ne_nil (writtenUnit_ne_nil unit)
    rw [List.flatMap_cons, List.length_append, List.length_cons]
    omega

theorem stringFrom_written {s : WideText} (paired : WellPaired s.units) (rest : List Char) :
    stringFrom (s.units.flatMap writtenUnit ++ '"' :: rest) = .ok (s, rest) := by
  have enough : s.units.length < (s.units.flatMap writtenUnit ++ '"' :: rest).length + 1 := by
    have short := length_le_written s.units
    rw [List.length_append]
    omega
  rw [stringFrom, readString_written paired enough]
  exact congrArg (fun s => Except.ok (s, rest)) (WideText.ofUnits_units s)

theorem isAscii_writeString {s : WideText} : IsAscii (writeString s) := by
  have written : IsAscii (s.units.flatMap writtenUnit) := by
    intro c member
    obtain ⟨unit, -, escaped⟩ := List.mem_flatMap.mp member
    exact isAscii_writtenUnit c escaped
  simp [writeString, written]

/-! ## Strings that are read -/

/-- A half is read from its own number, and no more than that. -/
theorem fourHex?_of_unicodeEscape {text rest : List Char} {half : Half}
    (read : unicodeEscape text = .ok (.lone half, rest)) : fourHex? text = some (half.code, rest) := by
  have single {n : ℕ} {behind : List Char}
      (same : (Except.ok (TextUnit.ofCode n, behind) : Except Stop _) = .ok (.lone half, rest)) :
      some (n, behind) = some (half.code, rest) := by
    obtain ⟨coded, rfl⟩ := Prod.mk.inj (Except.ok.inj same)
    rw [ofCode_eq_lone_iff.mp coded]
  unfold unicodeEscape at read
  split at read
  · contradiction
  · next value behind four =>
    rw [four]
    split_ifs at read
    · split at read
      · split at read
        · contradiction
        · split_ifs at read
          · exact absurd (Prod.mk.inj (Except.ok.inj read)).1 TextUnit.noConfusion
          · exact single read
      · exact single read
    · exact single read

/-- Where a high surrogate was read by itself, no low one follows that could be read. -/
theorem isLowSurrogate_of_unicodeEscape {text more after : List Char} {high : Half} {n : ℕ}
    (read : unicodeEscape text = .ok (.lone high, '\\' :: 'u' :: more)) (first : isHighSurrogate high.code = true)
    (next : fourHex? more = some (n, after)) : isLowSurrogate n = false := by
  have long : 6 < ('\\' :: 'u' :: more).length := by
    unfold fourHex? at next
    split at next
    · simp
    · contradiction
  have four := fourHex?_of_unicodeEscape read
  cases second : isLowSurrogate n with
  | false => rfl
  | true =>
    unfold unicodeEscape at read
    simp only [four, first, long, next, second, decide_true, Bool.and_self, if_true] at read
    exact absurd (Prod.mk.inj (Except.ok.inj read)).1 TextUnit.noConfusion

/-- A string whose first unit is a half begins with the escape of that half. -/
theorem exists_escape_of_readString {opened fuel : ℕ} {text rest : List Char} {half : Half} {units : List TextUnit}
    (read : readString opened fuel text = .ok (.lone half :: units, rest)) :
    ∃ more after, text = '\\' :: 'u' :: more ∧ fourHex? more = some (half.code, after) := by
  have foreign {c : Char} {result : Except Stop (List TextUnit × List Char)}
      (plain : (do
        let (more, rest) ← result
        return (TextUnit.char c :: more, rest)) = .ok (.lone half :: units, rest)) : False := by
    obtain ⟨_, -, same⟩ := bind_eq_ok_iff.mp plain
    exact absurd (List.cons.inj (Prod.mk.inj (Except.ok.inj same)).1).1 TextUnit.noConfusion
  cases fuel with
  | zero => contradiction
  | succ fuel =>
    unfold readString at read
    split at read
    · contradiction
    · exact absurd (Prod.mk.inj (Except.ok.inj read)).1 (List.cons_ne_nil _ _).symm
    · contradiction
    · next more =>
      obtain ⟨⟨unit, behind⟩, escaped, onto⟩ := bind_eq_ok_iff.mp read
      obtain ⟨_, -, same⟩ := bind_eq_ok_iff.mp onto
      obtain ⟨rfl, -⟩ := List.cons.inj (Prod.mk.inj (Except.ok.inj same)).1
      exact ⟨more, behind, rfl, fourHex?_of_unicodeEscape escaped⟩
    · split at read
      · contradiction
      · exact (foreign read).elim
    · split_ifs at read
      exact (foreign read).elim

/-- No string is read with the halves of a pair in a row. -/
theorem wellPaired_of_readString {opened fuel : ℕ} {text rest : List Char} {units : List TextUnit}
    (read : readString opened fuel text = .ok (units, rest)) : WellPaired units := by
  induction fuel generalizing text units rest with
  | zero => contradiction
  | succ fuel ih =>
    have onward {c : Char} {behind : List Char}
        (plain : (do
          let (more, rest) ← readString opened fuel behind
          return (TextUnit.char c :: more, rest)) = .ok (units, rest)) : WellPaired units := by
      obtain ⟨⟨more, _⟩, later, same⟩ := bind_eq_ok_iff.mp plain
      obtain ⟨rfl, -⟩ := Prod.mk.inj (Except.ok.inj same)
      exact List.isChain_cons.mpr ⟨fun next _ => unpaired_char c next, ih later⟩
    unfold readString at read
    split at read
    · contradiction
    · obtain ⟨rfl, -⟩ := Prod.mk.inj (Except.ok.inj read)
      exact .nil
    · contradiction
    · obtain ⟨⟨unit, behind⟩, escaped, onto⟩ := bind_eq_ok_iff.mp read
      obtain ⟨⟨more, _⟩, later, same⟩ := bind_eq_ok_iff.mp onto
      obtain ⟨rfl, -⟩ := Prod.mk.inj (Except.ok.inj same)
      refine List.isChain_cons.mpr ⟨?_, ih later⟩
      rintro next there high low rfl rfl first
      obtain ⟨others, rfl⟩ := List.head?_eq_some_iff.mp there
      obtain ⟨_, _, rfl, second⟩ := exists_escape_of_readString later
      exact isLowSurrogate_of_unicodeEscape escaped first second
    · split at read
      · contradiction
      · exact onward read
    · split_ifs at read
      exact onward read

theorem wellPaired_of_stringFrom {text rest : List Char} {s : WideText} (read : stringFrom text = .ok (s, rest)) :
    WellPaired s.units := by
  obtain ⟨⟨units, _⟩, known, same⟩ := bind_eq_ok_iff.mp read
  obtain ⟨rfl, -⟩ := Prod.mk.inj (Except.ok.inj same)
  rw [WideText.units_ofUnits]
  exact wellPaired_of_readString known

end StoryCatalog.Json
