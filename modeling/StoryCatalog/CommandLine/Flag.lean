import StoryCatalog.Text.Digit
import StoryCatalog.Text.Scan
import StoryCatalog.Text.Split

/-!
# Flags on the command line

The flags that the program knows, and how an argument is told to be one. A long flag may be cut short as
long as it stays the only one that starts so; a short one may be followed by more in the same argument.
-/

namespace StoryCatalog.CommandLine

open Text

inductive Flag where
  | help
  | port
  | storyPort
  | storyAddress
  | settingsFile
  | logFile
  | host
  | verbose
  deriving DecidableEq, Repr

namespace Flag

/-- The spellings of the flags, in the order in which they are listed. -/
def spellings : List (String × Flag) :=
  [("-h", .help), ("--help", .help), ("-p", .port), ("--port", .port), ("-s", .storyPort),
    ("--storybook-port", .storyPort), ("--storybook-url", .storyAddress), ("-c", .settingsFile),
    ("--config", .settingsFile), ("--log-file", .logFile), ("--host", .host), ("-v", .verbose),
    ("--verbose", .verbose)]

def ofSpelling? (spelling : String) : Option Flag :=
  spellings.lookup spelling

/-- The flag as messages name it: by all its spellings. -/
def name (flag : Flag) : String :=
  "/".intercalate ((spellings.filter (·.2 = flag)).map (·.1))

/-- Whether a value belongs to the flag. -/
def takesValue : Flag → Bool
  | .help | .verbose => false
  | _ => true

end Flag

/-- What an argument is on its own. -/
inductive Word where
  | text (text : String)
  /-- The mark after which all arguments are texts. -/
  | separator
  /-- A flag and what is joined to it in the same argument. After a short flag this may be more flags. -/
  | flag (flag : Flag) (short : Bool) (joined : Option String)
  | unknown (text : String)
  deriving DecidableEq, Repr

/-- An argument that could be several flags cut short. -/
structure Ambiguity where
  argument : String
  spellings : List String
  deriving DecidableEq, Repr

namespace Word

/-- The parts of an argument before and after its first equals sign. -/
def parts (argument : List Char) : List Char × Option String :=
  match cut? ['='] argument with
  | some (before, after) => (before, some (String.ofList after))
  | none => (argument, none)

def startsWith (start text : List Char) : Bool :=
  start.isPrefixOf text

/-- The flags that start like a long one. -/
def longFlags (start : List Char) : List (String × Flag) :=
  Flag.spellings.filter fun (spelling, _) => startsWith start spelling.toList

/-- A negative number: it is no flag. -/
def isNegativeNumber (argument : List Char) : Bool :=
  match argument with
  | '-' :: number =>
    let number := if number.getLast? = some '\n' then number.dropLast else number
    let whole := number.takeWhile isDecimal
    match number.dropWhile isDecimal with
    | [] => !whole.isEmpty
    | '.' :: fraction => !fraction.isEmpty && fraction.all isDecimal
    | _ => false
  | _ => false

/-- An argument that starts with a hyphen and is no flag. -/
def ofOther (argument : String) : Word :=
  if isNegativeNumber argument.toList || argument.toList.contains ' ' then .text argument
  else .unknown argument

/-- A long flag that may be cut short. -/
def ofLong (argument : String) : Except Ambiguity Word :=
  let (start, joined) := parts argument.toList
  match longFlags start with
  | [] => .ok (ofOther argument)
  | [(_, found)] => .ok (.flag found false joined)
  | several => .error ⟨argument, several.map (·.1)⟩

/-- A short flag with something joined to it. -/
def ofShort (argument : String) : Word :=
  match Flag.ofSpelling? (String.ofList (argument.toList.take 2)) with
  | some found => .flag found true (some (String.ofList (argument.toList.drop 2)))
  | none => ofOther argument

def isLong (spelling : List Char) : Bool :=
  startsWith ['-', '-'] spelling

def ofArgument (argument : String) : Except Ambiguity Word :=
  let chars := argument.toList
  if chars.head? ≠ some '-' || chars.length = 1 then .ok (.text argument)
  else
    let (spelling, joined) := parts chars
    match Flag.ofSpelling? argument, joined, Flag.ofSpelling? (String.ofList spelling) with
    | some found, _, _ => .ok (.flag found (!isLong chars) none)
    | none, some joined, some found => .ok (.flag found (!isLong spelling) (some joined))
    | _, _, _ => if isLong chars then ofLong argument else .ok (ofShort argument)

/-- The words of a command line. After the separator everything is text. -/
def ofArguments : List String → Except Ambiguity (List Word)
  | [] => .ok []
  | argument :: rest =>
    if argument = "--" then .ok (.separator :: rest.map .text)
    else do
      let word ← ofArgument argument
      return word :: (← ofArguments rest)

end Word

end StoryCatalog.CommandLine
