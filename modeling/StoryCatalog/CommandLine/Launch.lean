import StoryCatalog.CommandLine.Usage
import StoryCatalog.Service.App
import StoryCatalog.Settings.File

/-!
# Launching the service

The program from its arguments to the running service: it opens the log, merges the settings file with
the options, says what it found, and serves. What it writes goes to the console and, with a log file,
onto the disk, where later steps see it. A fault that is the user's ends it with a status and a line of
text; any other fault ends it as it is.
-/

namespace StoryCatalog.CommandLine

/-- Why the program ends before it has served, other than by a status. -/
inductive LaunchError where
  | settings (error : SettingsError)
  | file (fault : Fault)
  /-- A log file was asked for without a path. -/
  | unnamedLog
  | manifest (error : ManifestError)
  deriving DecidableEq, Repr

def LaunchError.message : LaunchError → String
  | .settings error => error.message
  | .file cause => cause.message
  | .unnamedLog => "expected str, bytes or os.PathLike object, not list"
  | .manifest error => error.message

inductive Ending where
  | exit (status : Nat)
  | fault (error : LaunchError)
  deriving DecidableEq, Repr

/-- What was handed to the server: the settings, the interface if there is one, and the service if it could
be set up. -/
structure Served where
  settings : Settings
  host : Option String
  service : Option Service

/-- How deep the documents that the program reads may be nested. -/
structure Depths where
  settings : Nat
  /-- Of the project's manifest where the service is set up. Where the program only reports, two steps before that, it
  may be nested two levels deeper. -/
  manifest : Nat
  /-- Of the index where one story is asked for. -/
  index : Nat

/-- How deep they may be where the program is started by itself. Of its first steps this is known only within a few
levels. -/
def Depths.usual : Depths where
  settings := 490
  manifest := 986
  index := 988

structure Session where
  machine : Machine
  depths : Depths
  /-- The time that log files show. -/
  clock : String
  output : String := ""
  errors : String := ""
  threshold : LogLevel := .info
  /-- The log file, by its absolute path. -/
  logFile : Option SpelledPath := none
  served : Option Served := none

abbrev Launch := ExceptT Ending (StateM Session)

namespace Launch

def say (text : String) : Launch Unit :=
  modify fun s => { s with output := s.output ++ text }

def complain (text : String) : Launch Unit :=
  modify fun s => { s with errors := s.errors ++ text }

/-- Ends with a status after a last text to the console. -/
def exit {α : Type} (status : Nat) (text : String) : Launch α := do
  complain text
  throw (.exit status)

def orFail {α ε : Type} (error : ε → LaunchError) : Except ε α → Launch α
  | .ok value => return value
  | .error cause => throw (.fault (error cause))

/-- The machine with a line, if there is one, at the end of its log file. -/
def withLine (machine : Machine) (logFile : Option SpelledPath) (line : Option String) : Machine :=
  match logFile, line with
  | some path, some line =>
    match machine.append path (Text.encodeUtf8 line) with
    | .ok machine => machine
    | .error _ => machine
  | _, _ => machine

/-- Writes a record wherever records of its level go. -/
def log (record : LogRecord) : Launch Unit := do
  let s ← get
  if s.threshold.rank ≤ record.level.rank then
    complain record.consoleLine
    modify fun s => { s with machine := withLine s.machine s.logFile (record.fileLine? s.clock) }

def note (level : LogLevel) (message : WideText) : Launch Unit :=
  log ⟨level, .commandLine, message⟩

/-- Opens the log file, making the directories it is in. The file is found from the spelling of its path
alone. -/
def openLog (path : String) : Launch Unit := do
  let machine := (← get).machine
  let path ← orFail .file (machine.expandHome (.ofText path))
  let machine ← orFail .file (machine.makeDirectories path.parent)
  modify fun s => { s with machine }
  let file := SpelledPath.ofText (machine.here.resolveIn path.toText).toText
  let machine ← orFail .file (machine.append file [])
  modify fun s => { s with machine, logFile := some file }

def setUpLog (options : Options) : Launch Unit := do
  modify fun s => { s with threshold := if options.verbose then .debug else .info }
  match options.logFile with
  | none => return
  | some none => throw (.fault .unnamedLog)
  | some (some path) => openLog path

/-- Settings with the options over them. An option that is not given changes nothing; nor does an empty
address. -/
def override (options : Options) (settings : Settings) : Settings :=
  { settings with
    port := options.port.getD settings.port
    storyPort := options.storyPort.getD settings.storyPort
    storyAddress :=
      match options.storyAddress with
      | none | some "" => settings.storyAddress
      | some address => some (.whole address) }

/-- The settings of the file that is named, which must be there. -/
def namedSettings (nesting : Nat) (machine : Machine) (file project : SpelledPath) :
    Except SettingsError Settings := do
  let expanded ← (machine.expandHome file).mapError .fault
  if ← (machine.isFile? expanded).mapError .fault then Settings.load nesting machine file (some project)
  else throw (.notFound file.toText)

/-- The settings of the settings file, with the options over them. -/
def settingsOf (nesting : Nat) (machine : Machine) (options : Options) : Except SettingsError Settings := do
  let project ← (machine.expandHome (.ofText options.path) >>= machine.resolve).mapError .fault
  let settings ← match options.settingsFile with
    | none => Settings.load nesting machine project none
    | some none => throw .unnamed
    | some (some file) => namedSettings nesting machine (.ofText file) project
  return override options settings

/-- Whether a fault in the settings is put to the user in a line of text. -/
def isReported : SettingsError → Bool
  | .notFound _ | .unparsable _ | .notMapping _ => true
  | _ => false

def readSettings (options : Options) : Launch Settings := do
  let s ← get
  match settingsOf s.depths.settings s.machine options with
  | .ok settings => return settings
  | .error error =>
    if isReported error then exit 1 (error.message ++ "\n") else throw (.fault (.settings error))

/-- What was found out about the project, told to the log. -/
def found {α : Type} (finding : Project.Finding α) : Launch α := do
  finding.records.forM log
  orFail .manifest finding.result

def reportVersion (settings : Settings) : Launch Unit := do
  let s ← get
  match ← found (Project.findVersion (s.depths.manifest + 2) s.machine settings.project) with
  | none | some 0 => note .warning "Could not detect Storybook version"
  | some version => note .info ("Detected Storybook version: " ++ toString version)

def reportConfiguration (settings : Settings) : Launch Unit := do
  match ← orFail .file (Project.configuration? (← get).machine settings.project) with
  | none => note .warning "Could not find .storybook directory"
  | some path => note .info ("Found Storybook config: " ++ path.toText)

/-- Says what was found. A port that cannot be spelled is not spoken of. -/
def report (settings : Settings) : Launch Unit := do
  reportVersion settings
  reportConfiguration settings
  note .info ("Reading stories from " ++ (← orFail .settings settings.server))
  match Settings.portText settings.port with
  | .ok port => note .info ("API available at http://localhost:" ++ port ++ "/api")
  | .error _ => return

/-- The framework of a service that is being set up. -/
def framework (settings : Settings) : Launch WideText := do
  let s ← get
  found (Service.findFramework s.depths.manifest s.machine settings)

/-- Hands the service to the server, which may refuse to start. -/
def serve (settings : Settings) (host : Option String) (source : IndexSource) (refusal : Option String) :
    Launch Unit := do
  modify fun s => { s with served := some ⟨settings, host, none⟩ }
  let name ← framework settings
  let { machine, depths, .. } ← get
  let version ← found (Project.findVersion depths.manifest machine settings.project)
  let server ← orFail .settings settings.server
  let client := IndexClient.of server settings.timeout source
  let service := Service.of machine settings name version server client depths.index
  modify fun s => { s with served := some ⟨settings, host, some service⟩ }
  match refusal with
  | none => return
  | some reason => exit 1 ("Error starting server: " ++ reason ++ "\n")

/-- Runs the program with its options. -/
def run (options : Options) (source : IndexSource) (refusal : Option String) : Launch Unit := do
  setUpLog options
  let settings ← readSettings options
  report settings
  serve settings options.host source refusal

/-- The program: what it does with its arguments. -/
def program (arguments : List String) (source : IndexSource) (refusal : Option String) : Launch Unit := do
  match Request.ofArguments arguments with
  | .error error => exit 2 error.report
  | .ok .help => do
    say help
    throw (.exit 0)
  | .ok (.run options) => run options source refusal

end Launch

/-- How the program ends with its arguments on a machine, and all that it has written. Without an ending
the server runs. -/
def launch (machine : Machine) (depths : Depths) (clock : String) (arguments : List String) (source : IndexSource)
    (refusal : Option String) : Except Ending Unit × Session :=
  StateT.run (ExceptT.run (Launch.program arguments source refusal)) { machine, depths, clock }

end StoryCatalog.CommandLine
