import StoryCatalog.Proofs.Text.Character
import StoryCatalog.Text.Utf8
import Mathlib.Logic.Basic
import Mathlib.Tactic.SplitIfs

/-!
# Texts and their bytes

A text of ASCII characters is written with one byte a character, and these bytes are decoded as it. Bytes that are
decoded are those that the text is written with, since no text is accepted in another spelling than its own.
-/

namespace StoryCatalog.Text

/-- Every character of the text has one byte. -/
def IsAscii (text : List Char) : Prop :=
  ∀ c ∈ text, c.toNat < 128

@[simp] theorem isAscii_nil : IsAscii [] :=
  fun _ member => absurd member List.not_mem_nil

@[simp] theorem isAscii_cons {c : Char} {text : List Char} : IsAscii (c :: text) ↔ c.toNat < 128 ∧ IsAscii text :=
  List.forall_mem_cons

@[simp] theorem isAscii_append {text more : List Char} : IsAscii (text ++ more) ↔ IsAscii text ∧ IsAscii more :=
  List.forall_mem_append

/-- The bytes of a text whose characters have one byte each. -/
def asciiBytes (text : List Char) : List UInt8 :=
  text.map fun c => c.toNat.toUInt8

theorem ofNat_toNat_of_ascii {c : Char} (ascii : c.toNat < 128) :
    c.toNat.toUInt8 < 0x80 ∧ Char.ofNat c.toNat.toUInt8.toNat = c := by
  refine forall_ascii (P := fun c => c.toNat.toUInt8 < 0x80 ∧ Char.ofNat c.toNat.toUInt8.toNat = c) ?_ ascii
  decide +kernel

theorem decodeFrom_asciiBytes {text : List Char} (ascii : IsAscii text) (pos : Nat) :
    decodeFrom pos (asciiBytes text) = .ok text := by
  induction text generalizing pos with
  | nil => rw [asciiBytes, List.map_nil, decodeFrom]
  | cons c text ih =>
    rw [isAscii_cons] at ascii
    obtain ⟨small, same⟩ := ofNat_toNat_of_ascii ascii.1
    have rest : decodeFrom (pos + 1) (asciiBytes text) = .ok text := ih ascii.2 (pos + 1)
    unfold asciiBytes at rest ⊢
    rw [List.map_cons]
    unfold decodeFrom
    simp only [if_pos small, rest, same]
    rfl

/-! ## What is decoded is written again -/

theorem val_ofNat {n : Nat} (valid : n.isValidChar) : (Char.ofNat n).val.toNat = n := by
  rw [Char.ofNat, dif_pos valid]
  rfl

section Widths

variable {a b c d : UInt8}

theorem isContinuation_iff : isContinuation b = true ↔ 0x80 ≤ b.toNat ∧ b.toNat ≤ 0xBF := by
  simp [isContinuation, UInt8.le_iff_toNat_le]

/-- The second byte is a continuation, and it is so far up, or so far down, as its narrower range says. -/
theorem isSecond_iff : isSecond a b = true ↔ (0x80 ≤ b.toNat ∧ b.toNat ≤ 0xBF) ∧
    (a.toNat = 0xE0 → 0xA0 ≤ b.toNat) ∧ (a.toNat = 0xED → b.toNat < 0xA0) ∧
    (a.toNat = 0xF0 → 0x90 ≤ b.toNat) ∧ (a.toNat = 0xF4 → b.toNat < 0x90) := by
  simp [isSecond, isContinuation_iff, UInt8.le_iff_toNat_le, UInt8.lt_iff_toNat_lt, ← UInt8.toNat_inj, and_assoc,
    ← imp_iff_not_or]

theorem encode_one (low : a < 0x80) : String.utf8EncodeChar (Char.ofNat a.toNat) = [a] := by
  simp only [UInt8.lt_iff_toNat_lt, UInt8.toNat_ofNat] at low
  rw [String.utf8EncodeChar, val_ofNat (.inl (by omega))]
  rw [if_pos (by omega), UInt8.ofNat_toNat]

theorem encode_two (low : ¬a < 0xC2) (high : a < 0xE0) (second : isContinuation b = true) :
    String.utf8EncodeChar (Char.ofNat (a.toNat % 32 * 64 + payload b)) = [a, b] := by
  rw [isContinuation_iff] at second
  simp only [UInt8.lt_iff_toNat_lt, UInt8.toNat_ofNat] at low high
  rw [payload, String.utf8EncodeChar, val_ofNat (.inl (by omega))]
  rw [if_neg (by omega), if_pos (by omega)]
  simp only [List.cons.injEq, ← UInt8.toNat_inj, UInt8.toNat_ofNat', and_true]
  omega

theorem encode_three (low : ¬a < 0xE0) (high : a < 0xF0) (second : isSecond a b = true)
    (third : isContinuation c = true) :
    String.utf8EncodeChar (Char.ofNat (a.toNat % 16 * 4096 + payload b * 64 + payload c)) = [a, b, c] := by
  rw [isSecond_iff] at second
  rw [isContinuation_iff] at third
  simp only [UInt8.lt_iff_toNat_lt, UInt8.toNat_ofNat] at low high
  rw [payload, payload, String.utf8EncodeChar, val_ofNat (by unfold Nat.isValidChar; omega)]
  rw [if_neg (by omega), if_neg (by omega), if_pos (by omega)]
  simp only [List.cons.injEq, ← UInt8.toNat_inj, UInt8.toNat_ofNat', and_true]
  omega

theorem encode_four (low : ¬a < 0xF0) (high : ¬a > 0xF4) (second : isSecond a b = true)
    (third : isContinuation c = true) (fourth : isContinuation d = true) :
    String.utf8EncodeChar
      (Char.ofNat (a.toNat % 8 * 262144 + payload b * 4096 + payload c * 64 + payload d)) = [a, b, c, d] := by
  rw [isSecond_iff] at second
  rw [isContinuation_iff] at third fourth
  simp only [gt_iff_lt, UInt8.lt_iff_toNat_lt, UInt8.toNat_ofNat] at low high
  rw [payload, payload, payload, String.utf8EncodeChar, val_ofNat (by unfold Nat.isValidChar; omega)]
  rw [if_neg (by omega), if_neg (by omega), if_neg (by omega)]
  simp only [List.cons.injEq, ← UInt8.toNat_inj, UInt8.toNat_ofNat', and_true]
  omega

end Widths

/-- A first character that is written with the bytes it was read from leaves it to the rest. -/
theorem encode_of_map_eq_ok {read : Except DecodingError (List Char)} {c : Char} {front rest : List UInt8}
    {chars : List Char} (first : String.utf8EncodeChar c = front)
    (others : ∀ {chars}, read = .ok chars → chars.flatMap String.utf8EncodeChar = rest)
    (made : (c :: ·) <$> read = .ok chars) : chars.flatMap String.utf8EncodeChar = front ++ rest := by
  cases read with
  | error error => cases made
  | ok more =>
    obtain rfl := Except.ok.inj made
    rw [List.flatMap_cons, first, others rfl]

theorem encode_decodeFrom {pos : Nat} {bytes : List UInt8} {chars : List Char}
    (read : decodeFrom pos bytes = .ok chars) : chars.flatMap String.utf8EncodeChar = bytes := by
  fun_induction decodeFrom pos bytes generalizing chars
  case case1 =>
    obtain rfl := Except.ok.inj read
    rfl
  -- A character of each width; all other cases are those of a fault.
  case case2 low ih => exact encode_of_map_eq_ok (encode_one low) ih read
  case case6 start high _ _ second ih =>
    simp only [Bool.or_eq_true, decide_eq_true_eq, not_or, Bool.not_eq_true', Bool.not_eq_false] at start second
    exact encode_of_map_eq_ok (encode_two start.1 high second) ih read
  case case12 low high _ _ _ second third ih =>
    simp only [Bool.not_eq_true', Bool.not_eq_false] at second third
    exact encode_of_map_eq_ok (encode_three low high second third) ih read
  case case22 start _ low _ _ _ _ second third fourth ih =>
    simp only [Bool.or_eq_true, decide_eq_true_eq, not_or] at start
    simp only [Bool.not_eq_true', Bool.not_eq_false] at second third fourth
    exact encode_of_map_eq_ok (encode_four low start.2 second third fourth) ih read
  all_goals cases read

/-- Bytes are decoded as the one text that is written with them. -/
theorem encode_decodeUtf8 {bytes : List UInt8} {chars : List Char} (read : decodeUtf8 bytes = .ok chars) :
    chars.flatMap String.utf8EncodeChar = bytes :=
  encode_decodeFrom read

/-! ## The bytes of a text -/

theorem toByteArray_eq (text : String) :
    text.toByteArray = (text.toList.flatMap String.utf8EncodeChar).toByteArray := by
  conv => lhs; rw [← String.ofList_toList (s := text)]
  rfl

theorem utf8ByteSize_eq (text : String) :
    text.utf8ByteSize = (text.toList.flatMap String.utf8EncodeChar).length := by
  rw [← List.size_toByteArray, ← toByteArray_eq, String.size_toByteArray]

/-- A text is told by its bytes. -/
theorem eq_of_encode_eq {text other : String}
    (same : text.toList.flatMap String.utf8EncodeChar = other.toList.flatMap String.utf8EncodeChar) : text = other := by
  rw [← String.toByteArray_inj, toByteArray_eq, same, ← toByteArray_eq]

/-- A byte that is a character of its own stands in no longer one. -/
theorem mem_encode_iff_of_low {b : UInt8} (low : b < 0x80) {c : Char} :
    b ∈ String.utf8EncodeChar c ↔ c.toNat = b.toNat := by
  simp only [UInt8.lt_iff_toNat_lt, UInt8.toNat_ofNat] at low
  have code : c.val.toNat = c.toNat := rfl
  unfold String.utf8EncodeChar
  dsimp only
  rw [code]
  split_ifs <;> simp only [List.mem_cons, List.not_mem_nil, or_false, ← UInt8.toNat_inj, UInt8.toNat_ofNat'] <;> omega

theorem encode_eq_of_ascii {c : Char} (ascii : c.toNat < 128) : String.utf8EncodeChar c = [c.toNat.toUInt8] := by
  have code : c.val.toNat = c.toNat := rfl
  unfold String.utf8EncodeChar
  dsimp only
  rw [code, if_pos (by omega)]

end StoryCatalog.Text
