import StoryCatalog.FileSystem.Disk
import StoryCatalog.Json.Display
import StoryCatalog.Json.Reader
import StoryCatalog.Log

/-!
# Project manifests

The `package.json` of a front-end project. A manifest that is not there, cannot be read or is no
object counts as empty; what could not be read is told to the log. Only a number with too many
digits, too deep a document or a name that no directory can hold makes reading itself fail.
-/

namespace StoryCatalog

inductive ManifestError where
  | lookup (fault : Fault)
  | document (error : Json.ReadError)
  /-- A version with too many digits. -/
  | version (error : Number.TooManyDigits)
  deriving DecidableEq, Repr

def ManifestError.message : ManifestError → String
  | .lookup fault => fault.message
  | .document error => error.message
  | .version error => error.message

/-- What came of looking for a manifest. -/
structure Manifest where
  fields : List (WideText × Json) := []
  /-- Where a manifest is that could not be read, and why. -/
  unreadable : Option (WideText × String) := none

namespace Manifest

def fileName : String := "package.json"

/-- The fields of a document; one that is no object has none. -/
def ofDocument : Json → Manifest
  | .obj fields => { fields }
  | _ => {}

def ofText (depth : Nat) (path : WideText) (text : String) : Except ManifestError Manifest :=
  match Json.read depth text.toList with
  | .ok document => .ok (ofDocument document)
  | .error (.malformed fault position) =>
    .ok { unreadable := some (path, (Json.ReadError.malformed fault position).message) }
  | .error error => .error (.document error)

/-- Looks for the manifest of a project and reads it, nested as deep as `depth` says at most. -/
def read (depth : Nat) (machine : Machine) (project : WidePath) : Except ManifestError Manifest := do
  let path := project.joinText fileName
  if ← (machine.exists? path).mapError .lookup then
    match machine.readText path with
    | .ok text => ofText depth path.toText text
    | .error fault => return { unreadable := some (path.toText, fault.message) }
  else return {}

/-- What the log is told of a manifest that could not be read. -/
def records (manifest : Manifest) : List LogRecord :=
  match manifest.unreadable with
  | none => []
  | some (path, reason) => [⟨.debug, .project, "Unable to read " ++ path ++ ": " ++ reason⟩]

/-- The versions listed in one section, as texts. -/
def versionsIn (manifest : Manifest) (name : String) : List (WideText × WideText) :=
  match manifest.fields.lookup (.whole name) with
  | some (.obj versions) => versions.map fun (package, version) => (package, version.toText)
  | _ => []

/-- All packages the project depends on; a development version wins over the other. -/
def dependencies (manifest : Manifest) : Fields WideText WideText :=
  Fields.ofList (manifest.versionsIn "dependencies" ++ manifest.versionsIn "devDependencies")

end Manifest

end StoryCatalog
