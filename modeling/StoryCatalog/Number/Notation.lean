import StoryCatalog.Number.Shortest

/-!
# Numbers as text

How numbers are written wherever this library prints one: whole numbers by their digits, binary
numbers by their shortest digits in positional or scientific form.
-/

namespace StoryCatalog.Number

/-- The choices of a written form for binary numbers. -/
structure FloatForm where
  /-- The decimal exponents from `positionalFrom` and below `positionalBelow` are positional. -/
  positionalFrom : Int
  positionalBelow : Int
  /-- The least count of digits in an exponent. -/
  exponentWidth : Nat
  nan : String
  infinity : String
  deriving DecidableEq, Repr

/-- Positional from `0.0001` and below `10 ^ 16`, else with a signed exponent of two digits or more;
a whole number in positional form keeps one zero after the point. -/
def plainForm : FloatForm where
  positionalFrom := -4
  positionalBelow := 16
  exponentWidth := 2
  nan := "nan"
  infinity := "inf"

def natDigits (n : Nat) : List Char :=
  Nat.toDigits 10 n

def padLeft (width : Nat) (digits : List Char) : List Char :=
  List.replicate (width - digits.length) '0' ++ digits

/-- The decimal `a * 10 ^ k` in a form, `a` being free of zeros at its end. -/
def FloatForm.magnitude (form : FloatForm) (a : Nat) (k : Int) : List Char :=
  let digits := natDigits a
  let exponent : Int := k + digits.length - 1
  if form.positionalFrom ≤ exponent ∧ exponent < form.positionalBelow then
    if exponent < 0 then
      '0' :: '.' :: List.replicate (-exponent - 1).toNat '0' ++ digits
    else
      let whole := exponent.toNat + 1
      let padded := digits ++ List.replicate (whole - digits.length) '0'
      let fraction := padded.drop whole
      padded.take whole ++ '.' :: (if fraction.isEmpty then ['0'] else fraction)
  else
    let point := match digits.drop 1 with
      | [] => []
      | more => '.' :: more
    let sign := if exponent < 0 then '-' else '+'
    digits.take 1 ++ point ++ 'e' :: sign :: padLeft form.exponentWidth (natDigits exponent.natAbs)

def FloatForm.write (form : FloatForm) (x : Float) : String :=
  let signed (negative : Bool) (text : String) : String := if negative then "-" ++ text else text
  match binaryParts x with
  | .nan => form.nan
  | .infinite negative => signed negative form.infinity
  | .finite negative m q =>
    if m = 0 then signed negative "0.0"
    else
      let (a, k) := shortest m q
      signed negative (String.ofList (form.magnitude a k))

def floatText (x : Float) : String :=
  plainForm.write x

def intText (n : Int) : String :=
  if n < 0 then "-" ++ String.ofList (natDigits n.natAbs) else String.ofList (natDigits n.natAbs)

end StoryCatalog.Number
