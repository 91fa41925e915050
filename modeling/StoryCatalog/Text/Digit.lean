/-!
# Decimal digits

Every script's decimal digits stand in a run of ten code points from zero to nine, so a table of
the zeros determines both which characters are digits and what they are worth.
-/

namespace StoryCatalog.Text

/-- The digit zero of every script outside ASCII, as of Unicode 14. -/
def wideZeros : List Nat := [
  0x660, 0x6F0, 0x7C0, 0x966, 0x9E6, 0xA66, 0xAE6, 0xB66, 0xBE6, 0xC66, 0xCE6, 0xD66, 0xDE6, 0xE50,
  0xED0, 0xF20, 0x1040, 0x1090, 0x17E0, 0x1810, 0x1946, 0x19D0, 0x1A80, 0x1A90, 0x1B50, 0x1BB0,
  0x1C40, 0x1C50, 0xA620, 0xA8D0, 0xA900, 0xA9D0, 0xA9F0, 0xAA50, 0xABF0, 0xFF10, 0x104A0, 0x10D30,
  0x11066, 0x110F0, 0x11136, 0x111D0, 0x112F0, 0x11450, 0x114D0, 0x11650, 0x116C0, 0x11730, 0x118E0,
  0x11950, 0x11C50, 0x11D50, 0x11DA0, 0x16A60, 0x16AC0, 0x16B50, 0x1D7CE, 0x1D7D8, 0x1D7E2, 0x1D7EC,
  0x1D7F6, 0x1E140, 0x1E2F0, 0x1E950, 0x1FBF0]

/-- The value of a code point in the run of ten that starts at one of `zeros`. -/
def digitFrom? (zeros : List Nat) (n : Nat) : Option Nat :=
  (zeros.find? fun start => start ≤ n && n < start + 10).map (n - ·)

/-- The value of a decimal digit of any script. -/
def digitValue? (c : Char) : Option Nat :=
  if c.isDigit then some (c.toNat - '0'.toNat)
  else if c.toNat < 128 then none
  else digitFrom? wideZeros c.toNat

/-- A decimal digit of any script. -/
def isDecimal (c : Char) : Bool :=
  (digitValue? c).isSome

theorem digitValue?_of_isDigit {c : Char} (digit : c.isDigit = true) :
    digitValue? c = some (c.toNat - 48) := by
  simp [digitValue?, digit]

theorem isDecimal_of_isDigit {c : Char} (digit : c.isDigit = true) : isDecimal c = true := by
  simp [isDecimal, digitValue?_of_isDigit digit]

theorem digitFrom?_lt {zeros : List Nat} {n d : Nat} (found : digitFrom? zeros n = some d) : d < 10 := by
  obtain ⟨start, hit, rfl⟩ := Option.map_eq_some_iff.1 found
  have := List.find?_some hit
  simp at this
  omega

theorem digitValue?_lt {c : Char} {d : Nat} (value : digitValue? c = some d) : d < 10 := by
  unfold digitValue? at value
  split at value
  · next digit =>
    simp only [Char.isDigit, Bool.and_eq_true, decide_eq_true_eq, UInt32.le_iff_toNat_le] at digit
    simp only [Option.some.injEq] at value
    have : c.toNat = c.val.toNat := rfl
    simp at digit
    subst value
    rw [this]
    change c.val.toNat - 48 < 10
    omega
  · split at value
    · cases value
    · exact digitFrom?_lt value

end StoryCatalog.Text
