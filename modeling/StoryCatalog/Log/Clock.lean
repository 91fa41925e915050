/-!
# The clock

The text of a moment as log files show it: the date and the time of day in universal time, down to the
thousandth of a second.
-/

namespace StoryCatalog

/-- A day of the calendar. -/
structure Day where
  year : Int
  month : Int
  day : Int
  deriving DecidableEq, Repr

/-- The day that is `days` after the first of January 1970. Years are counted from March on, so that the
day that a leap year adds is the last one, in rounds of four hundred years. -/
def Day.ofEpoch (days : Int) : Day :=
  let shifted := days + 719468
  let era := shifted / 146097
  let dayOfEra := shifted % 146097
  let yearOfEra := (dayOfEra - dayOfEra / 1460 + dayOfEra / 36524 - dayOfEra / 146096) / 365
  let dayOfYear := dayOfEra - (365 * yearOfEra + yearOfEra / 4 - yearOfEra / 100)
  let fromMarch := (5 * dayOfYear + 2) / 153
  let month := if fromMarch < 10 then fromMarch + 3 else fromMarch - 9
  { year := yearOfEra + era * 400 + (if month ≤ 2 then 1 else 0)
    month
    day := dayOfYear - (153 * fromMarch + 2) / 5 + 1 }

/-- A number in `width` digits or more. -/
def padded (width : Nat) (n : Int) : String :=
  let digits := toString n.natAbs
  String.join (List.replicate (width - digits.length) "0") ++ digits

/-- The text of the moment that is so many milliseconds after the start of 1970. -/
def clockText (milliseconds : Int) : String :=
  let seconds := milliseconds / 1000
  let time := seconds % 86400
  let day := Day.ofEpoch (seconds / 86400)
  padded 4 day.year ++ "-" ++ padded 2 day.month ++ "-" ++ padded 2 day.day ++ " " ++
    padded 2 (time / 3600) ++ ":" ++ padded 2 (time / 60 % 60) ++ ":" ++ padded 2 (time % 60) ++ "," ++
    padded 3 (milliseconds % 1000)

example : clockText 951827696789 = "2000-02-29 12:34:56,789" := by decide +kernel

end StoryCatalog
