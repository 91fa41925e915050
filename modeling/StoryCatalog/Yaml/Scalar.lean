import StoryCatalog.Number.Reading
import StoryCatalog.Text.Case
import StoryCatalog.Yaml.Tag

/-!
# Values of scalars

What a text is worth as a value of its type. A type that the text took by its form always fits it up to
limits of size and the calendar; one that was given to it need not. A number is read from units, since half a
surrogate pair in one part of a text leaves the other parts as they are.
-/

namespace StoryCatalog.Yaml

open Text Number TextUnit

inductive Value where
  | null
  | bool (value : Bool)
  | int (value : Int)
  | float (value : Float)
  | str (value : WideText)
  | binary (bytes : List UInt8)
  | timestamp (value : Timestamp)
  /-- The collection that a node of the document holds. -/
  | collection (node : Nat)
  deriving DecidableEq, Repr

namespace Scalar

/-- A text without its low lines. -/
def withoutLines (text : List TextUnit) : List TextUnit :=
  text.filter (· ≠ .char '_')

/-- The value of digits in a base up to sixteen, with nothing else between them. -/
def digitsInBase? (base : Nat) (text : List Char) : Option Nat := do
  let digits ← text.mapM fun c => (digitValue? c).or (hexValue? c)
  if digits.isEmpty || digits.any (base ≤ ·) then none else return ofDigits base digits

/-- The mark that digits of a base may have in front. -/
def baseMark (base : Nat) : Option Char :=
  if base = 2 then some 'b' else if base = 8 then some 'o' else if base = 16 then some 'x' else none

def dropBaseMark (base : Nat) (text : List Char) : List Char :=
  match text with
  | '0' :: c :: rest => if baseMark base = some c.toLower then rest else text
  | _ => text

/-- A whole number in a base that is a power of two. -/
def wholeInBase (base : Nat) (text : List TextUnit) : Except ScalarFault Int :=
  let (negative, unsigned) := splitSign (trimNumber ((chars? text).getD []))
  match digitsInBase? base (dropBaseMark base unsigned) with
  | some n => .ok (withSign negative n)
  | none => .error (.notWhole base (.ofUnits text))

/-- A decimal whole number. -/
def wholeDecimal (text : List TextUnit) : Except ScalarFault Int :=
  let (negative, unsigned) := splitSign (trimNumber ((chars? text).getD []))
  match unsigned.mapM digitValue? with
  | some (d :: digits) => (wholeOfDigits (d :: digits)).map (withSign negative) |>.mapError .tooManyDigits
  | _ => .error (.notWhole 10 (.ofUnits text))

/-- A whole number without its sign. -/
def unsignedWhole (text : List TextUnit) : Except ScalarFault Int :=
  match text with
  | [] => .error .noDigits
  | [.char '0'] => .ok 0
  | .char '0' :: .char 'b' :: rest => wholeInBase 2 rest
  | .char '0' :: .char 'x' :: rest => wholeInBase 16 rest
  | .char '0' :: _ => wholeInBase 8 text
  | _ =>
    if text.contains (.char ':') then do
      let parts ← (split (.char ':') text).mapM wholeDecimal
      return parts.foldl (fun value part => value * 60 + part) 0
    else wholeDecimal text

/-- A sign before a number, and the rest. There must be something to look at. -/
def signed : List TextUnit → Except ScalarFault (Bool × List TextUnit)
  | [] => .error .noDigits
  | .char '-' :: rest => .ok (true, rest)
  | .char '+' :: rest => .ok (false, rest)
  | text => .ok (false, text)

def whole (text : List TextUnit) : Except ScalarFault Int := do
  let (negative, unsigned) ← signed (withoutLines text)
  let value ← unsignedWhole unsigned
  return if negative then -value else value

def realDecimal (text : List TextUnit) : Except ScalarFault Float :=
  match (chars? text).bind readFloat? with
  | some x => .ok x
  | none => .error (.notReal (.ofUnits text))

/-- A binary number times a power of sixty. -/
def scaled (x : Float) (power : Nat) : Except ScalarFault Float :=
  let scale := nearest (Nat.pow 60 power : Nat)
  if scale.isInf then .error .tooLarge else .ok (x * scale)

/-- Parts of sixty, the smallest first, added up from the smallest on. -/
def sumOfParts (parts : List Float) : Except ScalarFault Float := do
  let terms ← parts.zipIdx.mapM fun (part, power) => scaled part power
  return terms.foldl (· + ·) 0.0

/-- A number with a point, without its sign. -/
def unsignedReal (text : List TextUnit) : Except ScalarFault Float :=
  if text = WideText.units ".inf" then .ok (1.0 / 0.0)
  else if text = WideText.units ".nan" then .ok (0.0 / 0.0)
  else if text.contains (.char ':') then do sumOfParts (← (split (.char ':') text).mapM realDecimal).reverse
  else realDecimal text

/-- The lower case of a text, after `seen` in lower case. A half is no letter, and none is looked for beyond it, so the
stretches between halves have nothing to do with each other. -/
def lowerAfter (seen : List Char) : List TextUnit → List TextUnit
  | [] => (lower seen).map .char
  | .char c :: rest => lowerAfter (seen ++ [c]) rest
  | .lone half :: rest => (lower seen).map .char ++ .lone half :: lowerAfter [] rest

def real (text : List TextUnit) : Except ScalarFault Float := do
  let (negative, unsigned) ← signed (lowerAfter [] (withoutLines text))
  let value ← unsignedReal unsigned
  return if negative then -value else value

def truth (text : List TextUnit) : Except ScalarFault Bool :=
  let word := WideText.ofUnits (lowerAfter [] text)
  match word.text?.bind fun word => Tag.truths.lookup word with
  | some value => .ok value
  | none => .error (.notTruth word)

def timestamp (text : List Char) : Except ScalarFault Timestamp :=
  let trimmed := match text.reverse with
    | '\n' :: rest => rest.reverse
    | _ => text
  match Timestamp.read? trimmed with
  | none => .error .notTimestamp
  | some stamp =>
    match stamp.fault? with
    | some fault => .error (.calendar fault)
    | none => .ok stamp

/-- The six bits that a character of binary data stands for. -/
def sixBits? (c : Char) : Option Nat :=
  if 'A' ≤ c && c ≤ 'Z' then some (c.toNat - 65)
  else if 'a' ≤ c && c ≤ 'z' then some (c.toNat - 71)
  else if c.isDigit then some (c.toNat + 4)
  else if c = '+' then some 62
  else if c = '/' then some 63
  else none

/-- The bytes of binary data, `held` being the values of the group begun, the latest first. Characters
that stand for nothing are passed over. Padding ends the data once it fills a group; what is left of
a group at the end is a fault. -/
def bytesFrom (held : List Nat) (padding : Nat) : List Char → Option (List UInt8)
  | [] => if held.isEmpty then some [] else none
  | '=' :: rest =>
    if 2 ≤ held.length && 4 ≤ held.length + padding + 1 then
      match held with
      | [c, b, a] => let n := a * 4096 + b * 64 + c; some [(n / 1024).toUInt8, (n / 4).toUInt8]
      | [b, a] => some [((a * 64 + b) / 16).toUInt8]
      | _ => some []
    else bytesFrom held (if 2 ≤ held.length then padding + 1 else padding) rest
  | c :: rest =>
    match sixBits? c, held with
    | none, _ => bytesFrom held padding rest
    | some d, [c, b, a] =>
      let n := ((a * 64 + b) * 64 + c) * 64 + d
      (bytesFrom [] 0 rest).map ([(n / 65536).toUInt8, (n / 256).toUInt8, n.toUInt8] ++ ·)
    | some d, _ => bytesFrom (d :: held) 0 rest

def binary (text : List Char) : Option (List UInt8) :=
  if text.all (·.toNat < 128) then bytesFrom [] 0 text else none

/-- The value of a scalar of a type that is no collection. -/
def value (tag : Tag) (text : WideText) : Except Error Value :=
  let units := text.units
  match tag with
  | .null => .ok .null
  | .bool => (truth units).map .bool |>.mapError .scalar
  | .int => (whole units).map .int |>.mapError .scalar
  | .float => (real units).map .float |>.mapError .scalar
  | .str => .ok (.str text)
  | .timestamp => (timestamp ((chars? units).getD [])).map .timestamp |>.mapError .scalar
  | .binary =>
    match (chars? units).bind binary with
    | some bytes => .ok (.binary bytes)
    | none => .error .malformed
  | _ => .error .malformed

end Scalar

end StoryCatalog.Yaml
