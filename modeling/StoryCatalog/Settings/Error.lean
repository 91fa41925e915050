import StoryCatalog.FileSystem.Fault
import StoryCatalog.Number.Notation
import StoryCatalog.Number.Reading
import StoryCatalog.Yaml.Error

/-!
# What can be wrong with settings

The file may be missing or not fit to be read, a value may fail by itself, and a whole number may have
too many digits where its text is wanted.
-/

namespace StoryCatalog

open Number Yaml

/-- Why settings cannot be had. -/
inductive SettingsError where
  | fault (fault : Fault)
  /-- The file that was asked for is not there. -/
  | notFound (path : String)
  /-- A file was asked for without a path. -/
  | unnamed
  | unparsable (name : String)
  | notMapping (name : String)
  /-- A value that the document says it holds and does not. -/
  | scalar (fault : ScalarFault)
  | codePoint
  | codeTooLarge
  | tooDeep
  /-- A whole number with too many digits where its text is wanted. -/
  | unwritable
  deriving DecidableEq, Repr

namespace SettingsError

def message : SettingsError → String
  | .fault cause => cause.message
  | .notFound path => "Config file not found: " ++ path
  | .unnamed => "'list' object has no attribute 'expanduser'"
  | .unparsable name => "Failed to parse " ++ name
  | .notMapping name => name ++ " must contain a mapping at the root"
  | .scalar cause => cause.message
  | .codePoint => "chr() arg not in range(0x110000)"
  | .codeTooLarge => "Python int too large to convert to C int"
  | .tooDeep => "maximum recursion depth exceeded"
  | .unwritable => unwritableMessage

/-- What goes wrong in reading a document of this name. -/
def ofDocument (name : String) : Yaml.Error → SettingsError
  | .malformed => .unparsable name
  | .codePoint => .codePoint
  | .codeTooLarge => .codeTooLarge
  | .scalar cause => .scalar cause
  | .tooDeep => .tooDeep

end SettingsError

/-- The digits of a whole number, if there are few enough. -/
def wholeText (n : Int) : Except SettingsError String :=
  if digitLimit < digitCount n.natAbs then .error .unwritable else .ok (intText n)

end StoryCatalog
