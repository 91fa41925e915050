import StoryCatalog.Text.Hex

/-!
# Texts with halves of surrogate pairs

A document may spell half a surrogate pair where a character could stand, by an escape that names its number. Such a
half can be copied, compared and shown, but no text that holds one can be encoded. A text of characters only is a
text as any other.
-/

namespace StoryCatalog

/-- Half a surrogate pair, by its distance from the first of all halves. -/
structure Half where
  offset : Fin 0x800
  deriving DecidableEq, Repr

/-- What one place of a text holds. -/
inductive TextUnit where
  | char (c : Char)
  | lone (half : Half)
  deriving DecidableEq, Repr

/-- A text of characters, or the characters before a first half, that half, and what follows it. -/
inductive WideText where
  | whole (text : String)
  | halved (front : String) (half : Half) (rest : List TextUnit)
  deriving DecidableEq, Repr

instance : Coe String WideText := ⟨.whole⟩

instance : Inhabited WideText := ⟨.whole ""⟩

namespace Half

def code (half : Half) : Nat :=
  0xD800 + half.offset

/-- The byte that a half may stand for in the name of a file. -/
def byte? (half : Half) : Option UInt8 :=
  if 0xDC80 ≤ half.code && half.code ≤ 0xDCFF then some (half.code - 0xDC00).toUInt8 else none

/-- A half as an escape shows it. -/
def escape (half : Half) : List Char :=
  '\\' :: 'u' :: Text.hexDigits half.code 4

end Half

namespace TextUnit

/-- What a number stands for. -/
def ofCode (n : Nat) : TextUnit :=
  if surrogate : 0xD800 ≤ n ∧ n < 0xE000 then .lone ⟨⟨n - 0xD800, by omega⟩⟩ else .char (Char.ofNat n)

/-- Whether this is a character, and one of a class. -/
def isChar (p : Char → Bool) : TextUnit → Bool
  | .char c => p c
  | .lone _ => false

/-- The characters before the first half, and that half with what follows it. -/
def cutAtHalf : List TextUnit → List Char × Option (Half × List TextUnit)
  | [] => ([], none)
  | .lone half :: rest => ([], some (half, rest))
  | .char c :: rest =>
    let (chars, more) := cutAtHalf rest
    (c :: chars, more)

/-- The characters, if there is nothing else. -/
def chars? (units : List TextUnit) : Option (List Char) :=
  match cutAtHalf units with
  | (chars, none) => some chars
  | (_, some _) => none

theorem cutAtHalf_chars (chars : List Char) (rest : List TextUnit) :
    cutAtHalf (chars.map .char ++ rest) = (chars ++ (cutAtHalf rest).1, (cutAtHalf rest).2) := by
  induction chars with
  | nil => rfl
  | cons c chars ih => rw [List.map_cons, List.cons_append, cutAtHalf, ih, List.cons_append]

end TextUnit

namespace WideText

open TextUnit

def units : WideText → List TextUnit
  | .whole text => text.toList.map .char
  | .halved front half rest => front.toList.map .char ++ .lone half :: rest

def ofUnits (units : List TextUnit) : WideText :=
  match cutAtHalf units with
  | (chars, none) => .whole (String.ofList chars)
  | (chars, some (half, rest)) => .halved (String.ofList chars) half rest

/-- The text as characters, if it has nothing else. -/
def text? : WideText → Option String
  | .whole text => some text
  | .halved .. => none

def append : WideText → WideText → WideText
  | .whole text, .whole more => .whole (text ++ more)
  | .whole text, .halved front half rest => .halved (text ++ front) half rest
  | .halved front half rest, more => .halved front half (rest ++ more.units)

instance : Append WideText := ⟨append⟩

/-- The texts with a separator between each two. -/
def intercalate (separator : WideText) : List WideText → WideText
  | [] => ""
  | [text] => text
  | text :: texts => text ++ separator ++ intercalate separator texts

/-- The text with an escape in place of each half. -/
def escaped (text : WideText) : String :=
  String.ofList (text.units.flatMap fun
    | .char c => [c]
    | .lone half => half.escape)

@[simp] theorem units_whole (text : String) : (whole text).units = text.toList.map .char := rfl

@[simp] theorem whole_beq_whole (text other : String) : (whole text == whole other) = (text == other) := by
  rw [Bool.eq_iff_iff, beq_iff_eq, beq_iff_eq, whole.injEq]

@[simp] theorem ofUnits_chars (chars : List Char) : ofUnits (chars.map .char) = whole (String.ofList chars) := by
  have cut := cutAtHalf_chars chars []
  rw [List.append_nil] at cut
  simp [ofUnits, cut, cutAtHalf]

@[simp] theorem ofUnits_units (text : WideText) : ofUnits text.units = text := by
  cases text with
  | whole text => simp
  | halved front half rest => simp [ofUnits, units, cutAtHalf_chars, cutAtHalf]

@[simp] theorem units_ofUnits (units : List TextUnit) : (ofUnits units).units = units := by
  induction units with
  | nil => rfl
  | cons unit rest ih =>
    cases unit with
    | lone half => rfl
    | char c =>
      unfold ofUnits at ih ⊢
      rw [cutAtHalf]
      rcases cut : cutAtHalf rest with ⟨chars, _ | ⟨half, more⟩⟩ <;>
        simpa [cut, WideText.units] using ih

/-- A text is told by its units. -/
theorem units_injective {text other : WideText} (same : text.units = other.units) : text = other := by
  rw [← ofUnits_units text, same, ofUnits_units]

@[simp] theorem whole_append_whole (text more : String) :
    (whole text ++ whole more : WideText) = whole (text ++ more) := rfl

theorem intercalate_whole (separator : String) (texts : List String) :
    intercalate separator (texts.map .whole) = whole (separator.intercalate texts) := by
  induction texts with
  | nil => rfl
  | cons text texts ih =>
    cases texts with
    | nil => simp [intercalate]
    | cons next texts =>
      rw [List.map_cons, List.map_cons, intercalate, ← List.map_cons, ih]
      · simp [String.intercalate_cons_cons]
      · simp

@[simp] theorem units_append (text more : WideText) : (text ++ more).units = text.units ++ more.units := by
  cases text with
  | halved front half rest =>
    change (halved front half (rest ++ more.units)).units = _
    simp [units]
  | whole text =>
    cases more with
    | whole more => simp [units]
    | halved front half rest =>
      change (halved (text ++ front) half rest).units = _
      simp [units]

@[simp] theorem append_right_inj {text more other : WideText} : text ++ more = text ++ other ↔ more = other := by
  refine ⟨fun same => units_injective ?_, congrArg _⟩
  have units := congrArg units same
  rwa [units_append, units_append, List.append_cancel_left_eq] at units

end WideText

end StoryCatalog
