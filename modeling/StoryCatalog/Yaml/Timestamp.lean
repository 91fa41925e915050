import StoryCatalog.Number.Reading
import StoryCatalog.Text.Scan
import StoryCatalog.Yaml.Error

/-!
# Timestamps

Dates, with or without a time of day and its distance from universal time. Reading finds the form only;
whether the calendar knows such a day and the clock such a time is checked afterwards.
-/

namespace StoryCatalog.Yaml

open Text Number

structure TimeOfDay where
  hour : Nat
  minute : Nat
  second : Nat
  microsecond : Nat
  /-- The distance from universal time in minutes, if it is known. -/
  offset : Option Int
  deriving DecidableEq, Repr

structure Timestamp where
  year : Nat
  month : Nat
  day : Nat
  time : Option TimeOfDay
  deriving DecidableEq, Repr

namespace Timestamp

def digit : Scan Nat := do
  let c ← Scan.one Char.isDigit
  return c.toNat - 48

def twoDigits : Scan Nat := do
  return (← digit) * 10 + (← digit)

def oneOrTwoDigits : Scan Nat := do
  let first ← digit
  match ← Scan.maybe digit with
  | none => return first
  | some second => return first * 10 + second

def isGapChar (c : Char) : Bool :=
  c = ' ' || c = '\t'

/-- What stands between a date and its time. -/
def dateEnd : Scan Unit := fun text =>
  match text with
  | c :: rest =>
    if c = 'T' || c = 't' then some ((), rest)
    else if isGapChar c then some ((), rest.dropWhile isGapChar)
    else none
  | [] => none

/-- Digits after a point as millionths; those past the sixth do not count. -/
def fraction : Scan Nat := do
  Scan.literal "."
  let digits ← Scan.run Char.isDigit
  let places := (digits.map fun c => c.toNat - 48).take 6
  return ofDigits 10 (places ++ List.replicate (6 - places.length) 0)

/-- A signed distance in hours and minutes. -/
def distance : Scan Int := do
  let sign ← Scan.one fun c => c = '+' || c = '-'
  let hours ← oneOrTwoDigits
  let minutes ← Scan.maybe (do Scan.literal ":"; twoDigits)
  return withSign (sign = '-') (hours * 60 + minutes.getD 0)

/-- The distance from universal time; the letter Z stands for none. -/
def offset : Scan Int := do
  let _ ← Scan.run isGapChar
  match ← Scan.maybe (Scan.literal "Z") with
  | some _ => return 0
  | none => distance

def timeOfDay : Scan TimeOfDay := do
  dateEnd
  let hour ← oneOrTwoDigits
  Scan.literal ":"
  let minute ← twoDigits
  Scan.literal ":"
  let second ← twoDigits
  let microsecond ← Scan.maybe fraction
  let offset ← Scan.maybe offset
  return { hour, minute, second, microsecond := microsecond.getD 0, offset }

def date : Scan Timestamp := do
  let century ← twoDigits
  let year ← twoDigits
  Scan.literal "-"
  let month ← oneOrTwoDigits
  Scan.literal "-"
  let day ← oneOrTwoDigits
  return { year := century * 100 + year, month, day, time := none }

/-- The form of a timestamp, with nothing around it. -/
def read? (text : List Char) : Option Timestamp := do
  let (stamp, rest) ← date text
  if rest.isEmpty then return stamp
  let (time, rest) ← timeOfDay rest
  if rest.isEmpty then return { stamp with time := some time } else none

def isLeap (year : Nat) : Bool :=
  year % 4 = 0 && (year % 100 ≠ 0 || year % 400 = 0)

def daysIn (year month : Nat) : Nat :=
  if month = 2 then (if isLeap year then 29 else 28)
  else if [4, 6, 9, 11].contains month then 30
  else 31

/-- The first fault of the date and time, the distance from universal time being looked at first. -/
def fault? (stamp : Timestamp) : Option CalendarFault :=
  let far := stamp.time.bind fun time => time.offset.filter fun minutes => 1440 ≤ minutes.natAbs
  let late (limit : Nat) (part : TimeOfDay → Nat) : Bool :=
    match stamp.time with
    | some time => limit ≤ part time
    | none => false
  match far with
  | some minutes => some (.offset minutes)
  | none =>
    if stamp.year = 0 then some (.year 0)
    else if stamp.month = 0 ∨ 12 < stamp.month then some .month
    else if stamp.day = 0 ∨ daysIn stamp.year stamp.month < stamp.day then some .day
    else if late 24 (·.hour) then some .hour
    else if late 60 (·.minute) then some .minute
    else if late 60 (·.second) then some .second
    else none

end Timestamp

end StoryCatalog.Yaml
