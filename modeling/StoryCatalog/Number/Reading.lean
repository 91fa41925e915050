import StoryCatalog.Number.Decimal
import StoryCatalog.Text.Blank
import StoryCatalog.Text.Digit

/-!
# Reading numbers

The forms in which a number may be written in a setting or on the command line: digits of any
script, single low lines between digits, blanks around. Reading a whole number refuses more digits
than a fixed limit; the limit is part of every answer that could exceed it.
-/

namespace StoryCatalog.Number

open Text

/-- The most digits a whole number may be written with. -/
def digitLimit : Nat := 4300

/-- More digits than the limit allows. -/
structure TooManyDigits where
  count : Nat
  deriving DecidableEq, Repr

def TooManyDigits.message (e : TooManyDigits) : String :=
  "Exceeds the limit (" ++ toString digitLimit ++ " digits) for integer string conversion: value has " ++
    toString e.count ++ " digits; use sys.set_int_max_str_digits() to increase the limit"

/-- What is said of a whole number with too many digits to be written out. -/
def unwritableMessage : String :=
  "Exceeds the limit (" ++ toString digitLimit ++
    " digits) for integer string conversion; use sys.set_int_max_str_digits() to increase the limit"

/-- The value of digits in a base, most significant first. -/
def ofDigits (base : Nat) (digits : List Nat) : Nat :=
  digits.foldl (fun value digit => value * base + digit) 0

/-- The whole number of decimal digits, within the limit. -/
def wholeOfDigits (digits : List Nat) : Except TooManyDigits Nat :=
  if digitLimit < digits.length then .error ⟨digits.length⟩ else .ok (ofDigits 10 digits)

/-- A sign at the front of a text, true for minus, and the rest. -/
def splitSign : List Char → Bool × List Char
  | '-' :: rest => (true, rest)
  | '+' :: rest => (false, rest)
  | text => (false, text)

def withSign (negative : Bool) (n : Nat) : Int :=
  if negative then -(n : Int) else n

/-- The whole number of an optional sign and decimal digits of any script. The caller has checked
that nothing else is there. -/
def wholeOfText (text : List Char) : Except TooManyDigits Int := do
  let (negative, digits) := splitSign text
  return withSign negative (← wholeOfDigits (digits.filterMap digitValue?))

/-- The text of a number without the blanks around it. -/
def trimNumber (text : List Char) : List Char :=
  dropEnd isNumberBlank (text.dropWhile isNumberBlank)

/-- Digits with single low lines between them, as values. -/
def groupedDigits? : List Char → Option (List Nat)
  | [] => none
  | [c] => (digitValue? c).map ([·])
  | c :: '_' :: rest => do return (← digitValue? c) :: (← groupedDigits? rest)
  | c :: rest => do return (← digitValue? c) :: (← groupedDigits? rest)

/-- The whole number that a text stands for, if it does and the limit allows. -/
def readWhole? (text : List Char) : Option Int := do
  let (negative, digits) := splitSign (trimNumber text)
  match wholeOfDigits (← groupedDigits? digits) with
  | .ok n => some (withSign negative n)
  | .error _ => none

/-- The text without its low lines, each of which must stand between two digits. -/
def ungrouped? : Bool → List Char → Option (List Char)
  | _, [] => some []
  | afterDigit, '_' :: c :: rest =>
    if afterDigit && isDecimal c then (ungrouped? true rest).map (c :: ·) else none
  | _, ['_'] => none
  | _, c :: rest => (ungrouped? (isDecimal c) rest).map (c :: ·)

/-- The exponent part of a number's text, zero when there is none. -/
def exponentOf? : List Char → Option Int
  | [] => some 0
  | c :: rest =>
    if c = 'e' || c = 'E' then
      let (negative, digits) := splitSign rest
      if digits.isEmpty || !digits.all isDecimal then none
      else some (withSign negative (ofDigits 10 (digits.filterMap digitValue?)))
    else none

/-- Digits with a point and an exponent, unsigned: a digit must stand before or after the point. -/
def unsignedDecimal? (negative : Bool) (text : List Char) : Option Decimal := do
  let whole := text.takeWhile isDecimal
  let rest := text.dropWhile isDecimal
  let (fraction, rest) := match rest with
    | '.' :: more => (more.takeWhile isDecimal, more.dropWhile isDecimal)
    | _ => ([], rest)
  if whole.isEmpty && fraction.isEmpty then none
  let exponent ← exponentOf? rest
  return ⟨negative, ofDigits 10 ((whole ++ fraction).filterMap digitValue?), exponent - fraction.length⟩

/-- A number with an optional sign, point and exponent, and nothing around it. -/
def decimal? (text : List Char) : Option Decimal :=
  let (negative, rest) := splitSign text
  unsignedDecimal? negative rest

/-- The names of the numbers that have no digits, in lower case. -/
def namedFloat? (word : String) : Option Float :=
  if word = "inf" || word = "infinity" then some (1.0 / 0.0)
  else if word = "nan" then some (0.0 / 0.0)
  else none

/-- The binary number that a text stands for. -/
def readFloat? (text : List Char) : Option Float :=
  let (negative, rest) := splitSign (trimNumber text)
  match namedFloat? (String.ofList (rest.map Char.toLower)) with
  | some x => some (if negative then -x else x)
  | none => do
    let digits ← ungrouped? false rest
    return (← unsignedDecimal? negative digits).toFloat

end StoryCatalog.Number
