import StoryCatalog.Text.Wide

/-!
# Log records

What the program says beside its answers: to the console in one form, to a log file in another that
also names the part of the program that speaks. The console shows halves of surrogate pairs as escapes; a
message that holds one cannot be written to the file.
-/

namespace StoryCatalog

inductive LogLevel where
  | debug
  | info
  | warning
  deriving DecidableEq, Repr

/-- The parts of the program that keep a log. -/
inductive LogSource where
  | commandLine
  | project
  | indexClient
  deriving DecidableEq, Repr

structure LogRecord where
  level : LogLevel
  source : LogSource
  message : WideText
  deriving DecidableEq, Repr

def LogLevel.name : LogLevel → String
  | .debug => "DEBUG"
  | .info => "INFO"
  | .warning => "WARNING"

def LogLevel.rank : LogLevel → Nat
  | .debug => 10
  | .info => 20
  | .warning => 30

def LogSource.name : LogSource → String
  | .commandLine => "storybook_api.cli"
  | .project => "storybook_api.project"
  | .indexClient => "storybook_api.index_client"

namespace LogRecord

def consoleLine (record : LogRecord) : String :=
  "[storybook-api] " ++ record.level.name ++ " " ++ record.message.escaped ++ "\n"

/-- A line of the log file, written at the time that `clock` shows, where it can be written. -/
def fileLine? (clock : String) (record : LogRecord) : Option String :=
  record.message.text?.map fun message =>
    clock ++ " " ++ record.level.name ++ " " ++ record.source.name ++ ": " ++ message ++ "\n"

end LogRecord

end StoryCatalog
