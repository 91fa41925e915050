import StoryCatalog.Text.Blank
import StoryCatalog.Text.Word

/-!
# Characters of different classes

A blank character never stands in a word, and the punctuation of a source text is neither.
-/

namespace StoryCatalog.Text

/-- The blank code points, one by one. -/
def blankCodes : List Nat :=
  [9, 10, 11, 12, 13, 28, 29, 30, 31, 32, 0x85, 0xA0, 0x1680, 0x2000, 0x2001, 0x2002, 0x2003, 0x2004,
    0x2005, 0x2006, 0x2007, 0x2008, 0x2009, 0x200A, 0x2028, 0x2029, 0x202F, 0x205F, 0x3000]

theorem mem_blankCodes_of_isBlankCode {n : Nat} (blank : isBlankCode n = true) : n ∈ blankCodes := by
  simp only [isBlankCode, Bool.or_eq_true, Bool.and_eq_true, decide_eq_true_eq, beq_iff_eq] at blank
  simp only [blankCodes, List.mem_cons, List.not_mem_nil, or_false]
  omega

theorem isWord_eq_false_of_isBlank {c : Char} (blank : isBlank c = true) : isWord c = false := by
  have every : ∀ n ∈ blankCodes, isWord (Char.ofNat n) = false := by decide +kernel
  have same : Char.ofNat c.toNat = c := Char.ofNat_toNat c
  rw [← same]
  exact every c.toNat (mem_blankCodes_of_isBlankCode blank)

theorem isBlank_eq_false_of_isWord {c : Char} (word : isWord c = true) : isBlank c = false := by
  rw [Bool.eq_false_iff]
  intro blank
  rw [isWord_eq_false_of_isBlank blank] at word
  contradiction

/-- A property of all characters below 128 is checked one by one. -/
theorem forall_ascii {P : Char → Prop} (every : ∀ n < 128, P (Char.ofNat n)) {c : Char}
    (ascii : c.toNat < 128) : P c := by
  have held := every c.toNat ascii
  rwa [Char.ofNat_toNat] at held

/-! ## Small letters and digits -/

/-- A small letter or a digit of the ASCII block. -/
def isSmall (c : Char) : Bool :=
  c.isLower || c.isDigit

theorem isSmall_of_isLower {c : Char} (letter : c.isLower = true) : isSmall c = true := by
  rw [isSmall, letter, Bool.true_or]

theorem isAlphanum_eq (c : Char) : c.isAlphanum = (c.isUpper || c.isLower || c.isDigit) := rfl

theorem isAlphanum_of_isUpper {c : Char} (capital : c.isUpper = true) : c.isAlphanum = true := by
  rw [isAlphanum_eq, capital, Bool.true_or, Bool.true_or]

theorem isAlphanum_of_isSmall {c : Char} (small : isSmall c = true) : c.isAlphanum = true := by
  rw [isSmall] at small
  rw [isAlphanum_eq, Bool.or_assoc, small, Bool.or_true]

theorem isAscii_of_isSmall {c : Char} (small : isSmall c = true) : c.toNat < 128 :=
  isAscii_of_isAlphanum (isAlphanum_of_isSmall small)

theorem toLower_of_isSmall {c : Char} (small : isSmall c = true) : c.toLower = c := by
  refine forall_ascii (P := fun c => isSmall c = true → c.toLower = c) ?_ (isAscii_of_isSmall small) small
  decide +kernel

theorem not_isUpper_of_isSmall {c : Char} (small : isSmall c = true) : c.isUpper = false := by
  refine forall_ascii (P := fun c => isSmall c = true → c.isUpper = false) ?_ (isAscii_of_isSmall small) small
  decide +kernel

/-- The capital of a small letter is a capital, and gives the letter back. -/
theorem toUpper_of_isLower {c : Char} (letter : c.isLower = true) :
    c.toUpper.isUpper = true ∧ c.toUpper.toLower = c := by
  refine forall_ascii (P := fun c => c.isLower = true → c.toUpper.isUpper = true ∧ c.toUpper.toLower = c) ?_
    (isAscii_of_isSmall (isSmall_of_isLower letter)) letter
  decide +kernel

/-! ## Small letters for capitals -/

/-- Only a character of the ASCII block has its small letter there. -/
theorem isAscii_of_toLower {c : Char} (ascii : c.toLower.toNat < 128) : c.toNat < 128 := by
  unfold Char.toLower at ascii
  split at ascii
  · next capital =>
    have last : c.toNat ≤ 90 := UInt32.le_iff_toNat_le.mp capital.2
    omega
  · exact ascii

theorem toUpper_toLower {c : Char} (ascii : c.toNat < 128) : c.toLower.toUpper = c.toUpper := by
  refine forall_ascii (P := fun c => c.toLower.toUpper = c.toUpper) ?_ ascii
  decide +kernel

theorem toLower_eq_hyphen_iff {c : Char} : c.toLower = '-' ↔ c = '-' := by
  constructor
  · intro same
    have ascii : c.toNat < 128 := isAscii_of_toLower (same ▸ by decide)
    refine forall_ascii (P := fun c => c.toLower = '-' → c = '-') ?_ ascii same
    decide +kernel
  · rintro rfl
    rfl

end StoryCatalog.Text
