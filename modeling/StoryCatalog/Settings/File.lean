import StoryCatalog.FileSystem.Disk
import StoryCatalog.Settings.Basic
import StoryCatalog.Text.Case
import StoryCatalog.Yaml.Document

/-!
# The settings file

Settings are read from a YAML file. Its values are taken leniently: one of a wrong type counts as not
given, a number may be written as a text, and zero and the empty text mean the default. What the file
as a whole must be is a mapping, or nothing. How deep its collections may be nested is up to the caller.
-/

namespace StoryCatalog

open Text Number Yaml

namespace Settings

def fileName : String := ".storybook-api.yml"

/-- The extensions of files that are taken for settings files by any name. -/
def extensions : List String := [".yml", ".yaml"]

def hasExtension (path : SpelledPath) : Bool :=
  extensions.contains (String.ofList (lower path.extension.toList))

/-- The settings file that a path stands for: in a directory the one of the usual name, beside a file
of another kind likewise, and else the file itself. -/
def fileAt (machine : Machine) (path : SpelledPath) : Except Fault SpelledPath := do
  let path ← machine.expandHome path
  if ← machine.isDirectory? path then machine.resolve (path.joinText fileName)
  else if hasExtension path then machine.resolve path
  else machine.resolve (path.parent.joinText fileName)

/-- A value as a text, if it is a text, a number or a truth value. -/
def textOf : Value → Except SettingsError (Option WideText)
  | .str text => .ok (some text)
  | .int n => do return some (.whole (← wholeText n))
  | .float x => .ok (some (floatText x))
  | .bool value => .ok (some (.whole (if value then "True" else "False")))
  | _ => .ok none

/-- A value as a whole number, if it is one or the text of one. -/
def wholeOf : Value → Option Int
  | .int n => some n
  | .str text => text.text?.bind (readWhole? ·.toList)
  | _ => none

/-- A value as a binary number, if it is a number or the text of one. -/
def realOf : Value → Except SettingsError (Option Float)
  | .int n => if (nearest n).isInf then .error (.scalar .tooLarge) else .ok (some (nearest n))
  | .float x => .ok (some x)
  | .str text => .ok (text.text?.bind (readFloat? ·.toList))
  | _ => .ok none

/-- A port that is not zero. -/
def portOf (value : Value) (default : Option Int) : Option Int :=
  match wholeOf value with
  | some port => if port = 0 then default else some port
  | none => default

/-- A length of time that is not zero. -/
def timeoutOf (value : Value) (default : Option Seconds) : Except SettingsError (Option Seconds) := do
  match ← realOf value with
  | some x => return if x == 0.0 then default else some (.real x)
  | none => return default

/-- A project directory, seen from the directory of the file that names it. -/
def projectOf (machine : Machine) (base : SpelledPath) (value : Value) (default : WidePath) :
    Except SettingsError WidePath := do
  match ← textOf value with
  | none | some (.whole "") => return default
  | some text => (machine.resolveFrom base text).mapError .fault

/-- The settings of a document whose root is a mapping. -/
def ofDocument (machine : Machine) (base : SpelledPath) (project : SpelledPath) (document : Document) :
    Except SettingsError Settings := do
  let field (name : String) : Value := (document.field? document.root name).getD .null
  let story (name : String) : Value := (document.field? (field "storybook") name).getD .null
  let usual : Settings := { project }
  let project ← projectOf machine base (field "project_dir") project
  let storyAddress ← textOf (story "url")
  let timeout ← timeoutOf (story "request_timeout") usual.timeout
  let framework ← textOf (field "framework")
  return {
    project
    port := portOf (field "port") usual.port
    storyPort := portOf (story "port") usual.storyPort
    storyAddress
    timeout
    framework }

/-- The settings that a file's text gives, the file being in the directory `base`. -/
def ofText (nesting : Nat) (machine : Machine) (base : SpelledPath) (project : SpelledPath) (name text : String) :
    Except SettingsError Settings :=
  if text.toList.all isBlank then .ok { project }
  else do
    let document ← (Document.read nesting text.toList).mapError (.ofDocument name)
    if !document.isGiven document.root then return { project }
    if !document.isMapping document.root then throw (.notMapping name)
    ofDocument machine base project document

/-- Loads the settings that a path leads to. Without a file they are the defaults for the project given,
or else for the directory where the file would be. -/
def load (nesting : Nat) (machine : Machine) (path : SpelledPath) (project : Option SpelledPath) :
    Except SettingsError Settings := do
  let file ← (fileAt machine path).mapError .fault
  let base := file.parent
  let project ← match project with
    | none => pure base
    | some project => (machine.expandHome project >>= machine.resolve).mapError .fault
  if ← (machine.exists? file).mapError .fault then
    let text ← (machine.readText file).mapError .fault
    ofText nesting machine base project file.name text
  else return { project }

end Settings

end StoryCatalog
