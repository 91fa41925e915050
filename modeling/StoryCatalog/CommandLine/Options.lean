import StoryCatalog.CommandLine.Flag
import StoryCatalog.Number.Reading
import StoryCatalog.Text.Quoted

/-!
# Options

What the command line asks for. Flags are looked at one after the other, and the first that is at fault
or asks for help ends it; the one argument that is no flag is the project's directory. Arguments that
fit nowhere are a fault only when everything else was understood. Two hyphens joined to a flag stand for
no value: the flag is then given with nothing.
-/

namespace StoryCatalog.CommandLine

open Text Number

structure Options where
  path : String := "."
  /-- Whether the flag was given and, if so, whether with a value; likewise below. -/
  port : Option (Option Int) := none
  storyPort : Option (Option Int) := none
  /-- An address that was given with nothing is an empty one. -/
  storyAddress : Option String := none
  settingsFile : Option (Option String) := none
  logFile : Option (Option String) := none
  host : Option String := some "0.0.0.0"
  verbose : Bool := false
  deriving DecidableEq, Repr

inductive UsageError where
  | ambiguous (ambiguity : Ambiguity)
  | valueMissing (flag : Flag)
  /-- A value joined to a flag that takes none. -/
  | valueIgnored (flag : Flag) (value : String)
  | notWhole (flag : Flag) (value : String)
  | unrecognized (arguments : List String)
  deriving DecidableEq, Repr

/-- A fault of one flag. -/
def flagMessage (flag : Flag) (message : String) : String :=
  "argument " ++ flag.name ++ ": " ++ message

def UsageError.message : UsageError → String
  | .ambiguous ambiguity =>
    "ambiguous option: " ++ ambiguity.argument ++ " could match " ++ ", ".intercalate ambiguity.spellings
  | .valueMissing flag => flagMessage flag "expected one argument"
  | .valueIgnored flag value => flagMessage flag ("ignored explicit argument " ++ quoted value)
  | .notWhole flag value => flagMessage flag ("invalid int value: " ++ quoted value)
  | .unrecognized arguments => "unrecognized arguments: " ++ " ".intercalate arguments

/-- What a command line comes to: a call for help, or options. -/
inductive Request where
  | help
  | run (options : Options)
  deriving DecidableEq, Repr

/-- How reading may end before all arguments were looked at. -/
inductive Stop where
  | help
  | fault (error : UsageError)
  deriving DecidableEq, Repr

namespace Options

def wholeValue (flag : Flag) (value : String) : Except Stop Int :=
  match readWhole? value.toList with
  | some n => .ok n
  | none => .error (.fault (.notWhole flag value))

/-- The options with a flag's value. -/
def withValue (options : Options) (flag : Flag) (value : String) : Except Stop Options :=
  match flag with
  | .port => do return { options with port := some (some (← wholeValue flag value)) }
  | .storyPort => do return { options with storyPort := some (some (← wholeValue flag value)) }
  | .storyAddress => .ok { options with storyAddress := some value }
  | .settingsFile => .ok { options with settingsFile := some (some value) }
  | .logFile => .ok { options with logFile := some (some value) }
  | .host => .ok { options with host := some value }
  | .help | .verbose => .ok options

/-- The options with a flag that is given with nothing. -/
def withNothing (options : Options) : Flag → Options
  | .port => { options with port := some none }
  | .storyPort => { options with storyPort := some none }
  | .storyAddress => { options with storyAddress := some "" }
  | .settingsFile => { options with settingsFile := some none }
  | .logFile => { options with logFile := some none }
  | .host => { options with host := none }
  | .help | .verbose => options

/-- The options with a flag and what is joined to it. -/
def withJoined (options : Options) (flag : Flag) (joined : String) : Except Stop Options :=
  if joined = "--" then .ok (options.withNothing flag) else options.withValue flag joined

/-- The options with a flag that takes no value. -/
def withFlag (options : Options) : Flag → Except Stop Options
  | .help => .error .help
  | .verbose => .ok { options with verbose := true }
  | _ => .ok options

end Options

/-- The flags in one argument: those without a value, and at the end perhaps one with a value, which is
joined to it or still missing. -/
structure FlagGroup where
  plain : List Flag
  valued : Option (Flag × Option String) := none
  deriving DecidableEq, Repr

/-- Takes apart short flags in one argument, from `flag` on, to which `joined` is joined. -/
def shortFlags : Flag → List Char → Except UsageError FlagGroup
  | flag, [] => .ok (if flag.takesValue then ⟨[], some (flag, none)⟩ else ⟨[flag], none⟩)
  | flag, c :: rest =>
    if flag.takesValue then .ok ⟨[], some (flag, some (String.ofList (c :: rest)))⟩
    else
      match Flag.ofSpelling? (String.ofList ['-', c]) with
      | none => .error (.valueIgnored flag (String.ofList (c :: rest)))
      | some next => do
        let group ← shortFlags next rest
        return { group with plain := flag :: group.plain }

/-- The flags of an argument that starts with one. -/
def flagGroup (flag : Flag) (short : Bool) : Option String → Except UsageError FlagGroup
  | none => shortFlags flag []
  | some joined =>
    if flag.takesValue then .ok ⟨[], some (flag, some joined)⟩
    else if short && joined ≠ "" then shortFlags flag joined.toList
    else .error (.valueIgnored flag joined)

/-- The options while the words are looked at. -/
structure Reading where
  options : Options := {}
  /-- Whether the project's directory has been given. -/
  placed : Bool := false
  /-- What fits nowhere. -/
  extra : List String := []
  deriving DecidableEq, Repr

namespace Reading

def place (reading : Reading) (path : String) : Reading :=
  { reading with options := { reading.options with path }, placed := true }

/-- A text: the project's directory, or too much. -/
def addText (reading : Reading) (text : String) : Reading :=
  if reading.placed then { reading with extra := reading.extra ++ [text] } else reading.place text

/-- The texts after the separator. The separator goes with the project's directory, and is too much if
that has been given. -/
def addRest (reading : Reading) (afterText : Bool) (texts : List String) : Reading :=
  if reading.placed && !afterText then { reading with extra := reading.extra ++ "--" :: texts }
  else texts.foldl addText reading

def addPlain (reading : Reading) (flags : List Flag) : Except Stop Reading := do
  return { reading with options := ← flags.foldlM Options.withFlag reading.options }

def texts (words : List Word) : List String :=
  words.filterMap fun
    | .text text => some text
    | _ => none

/-- Looks at the words one after the other. `afterText` says whether the word before was the project's
directory. -/
def read (afterText : Bool) (reading : Reading) : List Word → Except Stop Reading
  | [] => .ok reading
  | .text text :: rest => read (!reading.placed) (reading.addText text) rest
  | .separator :: rest => .ok (reading.addRest afterText (texts rest))
  | .unknown text :: rest => read false { reading with extra := reading.extra ++ [text] } rest
  | .flag flag short joined :: rest =>
    match flagGroup flag short joined with
    | .error error => .error (.fault error)
    | .ok group =>
      match group.valued with
      | none => do read false (← reading.addPlain group.plain) rest
      | some (flag, some joined) => do
        let reading ← reading.addPlain group.plain
        read false { reading with options := ← reading.options.withJoined flag joined } rest
      | some (flag, none) =>
        match rest with
        | .text value :: rest => do
          let reading ← reading.addPlain group.plain
          read false { reading with options := ← reading.options.withValue flag value } rest
        | _ => .error (.fault (.valueMissing flag))

/-- What the words of a whole command line come to. -/
def request (words : List Word) : Except UsageError Request :=
  match read false {} words with
  | .error .help => .ok .help
  | .error (.fault error) => .error error
  | .ok reading =>
    if reading.extra.isEmpty then .ok (.run reading.options) else .error (.unrecognized reading.extra)

end Reading

/-- Reads a command line. An ambiguous flag anywhere before the separator is found before all else. -/
def Request.ofArguments (arguments : List String) : Except UsageError Request :=
  match Word.ofArguments arguments with
  | .error ambiguity => .error (.ambiguous ambiguity)
  | .ok words => Reading.request words

end StoryCatalog.CommandLine
