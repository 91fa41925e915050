import StoryCatalog.Number.Decimal

/-!
# Shortest decimal digits of a binary number

Every binary number is the nearest one to many decimals. Of these the fewest digits are chosen, and
of the decimals with so few digits the one closest to the number.
-/

namespace StoryCatalog.Number

/-- A binary number taken apart: `finite negative m q` is `m * 2 ^ q`. -/
inductive BinaryParts where
  | nan
  | infinite (negative : Bool)
  | finite (negative : Bool) (m : Nat) (q : Int)
  deriving DecidableEq, Repr

def binaryParts (x : Float) : BinaryParts :=
  let bits := x.toBits.toNat
  let negative : Bool := decide (bits / Nat.pow 2 63 = 1)
  let biased : Nat := bits / Nat.pow 2 52 % Nat.pow 2 11
  let fraction : Nat := bits % Nat.pow 2 52
  if biased = Nat.pow 2 11 - 1 then
    if fraction = 0 then .infinite negative else .nan
  else if biased = 0 then .finite negative fraction (-1074)
  else .finite negative (Nat.pow 2 52 + fraction) ((biased : Int) - 1075)

/-- The numbers that are read back as one binary number: from `low` to `high` over `scale`, the ends
included or not, around `value`. -/
structure RoundingInterval where
  low : Nat
  value : Nat
  high : Nat
  scale : Nat
  closed : Bool
  deriving DecidableEq, Repr

/-- Half a step to either side; below a power of two the step is half as wide. An end belongs to the
interval when ties go to this number, that is when its coefficient is even. -/
def roundingInterval (m : Nat) (q : Int) : RoundingInterval :=
  let down := if m = Nat.pow 2 52 ∧ -1074 < q then 1 else 2
  let shift := q - 2
  let up := if 0 ≤ shift then Nat.pow 2 shift.toNat else 1
  { low := (4 * m - down) * up
    value := 4 * m * up
    high := (4 * m + 2) * up
    scale := if 0 ≤ shift then 1 else Nat.pow 2 (-shift).toNat
    closed := m % 2 = 0 }

/-- The exponent `e` with `10 ^ (e - 1) ≤ value / scale < 10 ^ e`. -/
def decimalExponent (value scale : Nat) : Int :=
  let guess : Int := (digitCount value : Int) - digitCount scale
  let reached :=
    if 0 ≤ guess then scale * Nat.pow 10 guess.toNat ≤ value else scale ≤ value * Nat.pow 10 (-guess).toNat
  if reached then guess + 1 else guess

/-- Whether `a * 10 ^ k` lies in the interval. -/
def RoundingInterval.holds (i : RoundingInterval) (a : Nat) (k : Int) : Bool :=
  let point := if 0 ≤ k then a * Nat.pow 10 k.toNat * i.scale else a * i.scale
  let factor := if 0 ≤ k then 1 else Nat.pow 10 (-k).toNat
  if i.closed then i.low * factor ≤ point && point ≤ i.high * factor
  else i.low * factor < point && point < i.high * factor

/-- The neighbours of the value on the grid of multiples of `10 ^ k`, in units of the grid, with the
nearer one first and the even one where they are equally near. -/
def RoundingInterval.neighbours (i : RoundingInterval) (k : Int) : List Nat :=
  let (top, bottom) :=
    if 0 ≤ k then (i.value, i.scale * Nat.pow 10 k.toNat) else (i.value * Nat.pow 10 (-k).toNat, i.scale)
  let below := top / bottom
  let rest := top % bottom
  if 2 * rest < bottom || (2 * rest = bottom && below % 2 = 0) then [below, below + 1]
  else [below + 1, below]

/-- Digits without the zeros at their end, and the power of ten they count. -/
def stripZeros : Nat → Nat → Int → Nat × Int
  | 0, a, k => (a, k)
  | fuel + 1, a, k => if a ≠ 0 ∧ a % 10 = 0 then stripZeros fuel (a / 10) (k + 1) else (a, k)

/-- The digits `a` and the exponent `k` of the shortest decimal `a * 10 ^ k` that is read back as
`m * 2 ^ q`. Seventeen digits always suffice. -/
def shortest (m : Nat) (q : Int) : Nat × Int :=
  let i := roundingInterval m q
  let e := decimalExponent i.value i.scale
  let found := (List.range 17).findSome? fun (n : Nat) =>
    let k : Int := e - ((n : Int) + 1)
    ((i.neighbours k).find? fun a => i.holds a k).map fun a => (a, k)
  match found with
  | some (a, k) => stripZeros 20 a k
  | none => (i.value / i.scale, 0)

end StoryCatalog.Number
