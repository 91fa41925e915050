import StoryCatalog.Number.Notation
import StoryCatalog.Number.Reading
import StoryCatalog.Text.Quoted

/-!
# What can be wrong with a YAML document

Most faults go against the format, and no more is said of them than that. The others are values that
a scalar should have and has not: they have words of their own.
-/

namespace StoryCatalog.Yaml

open Text Number

/-- A date or time that the calendar does not know. -/
inductive CalendarFault where
  | year (n : Nat)
  | month
  | day
  | hour
  | minute
  | second
  /-- A distance of a whole day or more from universal time, in minutes. -/
  | offset (distance : Int)
  deriving DecidableEq, Repr

/-- A length of time in days and seconds, the seconds counted forward. -/
def spanText (minutes : Int) : String :=
  let days := minutes / 1440
  let seconds := minutes % 1440 * 60
  "datetime.timedelta(days=" ++ intText days ++
    (if seconds = 0 then "" else ", seconds=" ++ intText seconds) ++ ")"

def CalendarFault.message : CalendarFault → String
  | .year n => "year " ++ toString n ++ " is out of range"
  | .month => "month must be in 1..12"
  | .day => "day is out of range for month"
  | .hour => "hour must be in 0..23"
  | .minute => "minute must be in 0..59"
  | .second => "second must be in 0..59"
  | .offset distance =>
    "offset must be a timedelta strictly between -timedelta(hours=24) and timedelta(hours=24), not " ++
      spanText distance ++ "."

/-- Why a scalar has no value of the type that its tag asks for. -/
inductive ScalarFault where
  /-- A number without any character. -/
  | noDigits
  | notWhole (base : Nat) (text : WideText)
  | tooManyDigits (error : TooManyDigits)
  | notReal (text : WideText)
  /-- A whole number beyond the binary numbers. -/
  | tooLarge
  | notTruth (text : WideText)
  | notTimestamp
  /-- A timestamp taken from the inside of a mapping. -/
  | nestedTimestamp
  | calendar (fault : CalendarFault)
  deriving DecidableEq, Repr

/-- The longest part of a text's quoted form that a message shows. -/
def shownLength : Nat := 200

def ScalarFault.message : ScalarFault → String
  | .noDigits => "string index out of range"
  | .notWhole base text =>
    "invalid literal for int() with base " ++ toString base ++ ": " ++
      String.ofList ((quoted text).toList.take shownLength)
  | .tooManyDigits error => error.message
  | .notReal text => "could not convert string to float: " ++ quoted text
  | .tooLarge => "int too large to convert to float"
  | .notTruth text => quoted text
  | .notTimestamp => "'NoneType' object has no attribute 'groupdict'"
  | .nestedTimestamp => "expected string or bytes-like object, got 'list'"
  | .calendar fault => fault.message

inductive Error where
  | malformed
  /-- An escape for a number past the last code point. -/
  | codePoint
  /-- An escape for a number that is too large to be compared with code points. -/
  | codeTooLarge
  | scalar (fault : ScalarFault)
  /-- Too many collections inside each other. -/
  | tooDeep
  deriving DecidableEq, Repr

end StoryCatalog.Yaml
