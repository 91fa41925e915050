import StoryCatalog.Path.Spelled
import StoryCatalog.Text.Utf8

/-!
# Paths that a document spells

A path whose names may hold halves of surrogate pairs. A name of a file is bytes: some halves stand for one byte each,
and a name with any other half is the name of no file. A spelled path is such a path without halves.
-/

namespace StoryCatalog

open Text

namespace TextUnit

/-- A unit's bytes in the name of a file; a half that stands for no byte has none. -/
def nameBytes : TextUnit → List UInt8
  | .char c => String.utf8EncodeChar c
  | .lone half => half.byte?.toList

end TextUnit

namespace WideText

/-- How many bytes the text has in the name of a file. -/
def byteCount : WideText → Nat
  | .whole text => text.utf8ByteSize
  | .halved front half rest => ((halved front half rest).units.flatMap TextUnit.nameBytes).length

/-- The text of characters that has the same bytes in the name of a file, if there is one. -/
def fileName? : WideText → Option String
  | .whole text => some text
  | .halved front half rest =>
    let text := halved front half rest
    match pathFault? text, decodeUtf8 (text.units.flatMap TextUnit.nameBytes) with
    | none, .ok chars => some (String.ofList chars)
    | _, _ => none

@[simp] theorem byteCount_whole (text : String) : (whole text).byteCount = text.utf8ByteSize := rfl

@[simp] theorem fileName?_whole (text : String) : (whole text).fileName? = some text := rfl

end WideText

structure WidePath where
  root : PathRoot
  names : List WideText
  deriving DecidableEq, Repr

namespace WidePath

/-- A path without halves. -/
def ofSpelled (path : SpelledPath) : WidePath :=
  ⟨path.root, path.names.map .whole⟩

instance : Coe SpelledPath WidePath := ⟨ofSpelled⟩

/-- The names that slashes part, without the empty ones and each `.` among them. -/
def namesOf (units : List TextUnit) : List WideText :=
  ((split (.char '/') units).map .ofUnits).filter fun name => name ≠ .whole "" && name ≠ .whole "."

/-- Halves are no slashes, so the slashes at the front stand before the first of them. -/
def ofText : WideText → WidePath
  | .whole text => SpelledPath.ofText text
  | .halved front half rest => {
      root := (SpelledPath.ofText front).root
      names := namesOf (WideText.halved front half rest).units }

/-- The second path seen from the first; an absolute one stands for itself. -/
def join (path other : WidePath) : WidePath :=
  if other.root = .relative then { path with names := path.names ++ other.names } else other

def joinText (path : WidePath) (text : WideText) : WidePath :=
  path.join (ofText text)

def toText (path : WidePath) : WideText :=
  let names := WideText.intercalate "/" path.names
  match path.root with
  | .relative => if names = "" then "." else names
  | .single => "/" ++ names
  | .double => "//" ++ names

/-- Whether a component holds the character that no file name may hold. -/
def hasNul (path : WidePath) : Bool :=
  path.names.any (·.units.contains (.char '\x00'))

/-- The path of characters that leads to the same file, if there is one. -/
def onDisk? (path : WidePath) : Option SpelledPath :=
  (path.names.mapM WideText.fileName?).map (⟨path.root, ·⟩)

@[simp] theorem onDisk?_ofSpelled (path : SpelledPath) : (ofSpelled path).onDisk? = some path := by
  have names : (path.names.map .whole).mapM WideText.fileName? = some path.names := by
    induction path.names with
    | nil => rfl
    | cons name names ih => simp [ih]
  simp [onDisk?, ofSpelled, names]

@[simp] theorem toText_ofSpelled (path : SpelledPath) : (ofSpelled path).toText = .whole path.toText := by
  unfold toText SpelledPath.toText
  rw [ofSpelled, WideText.intercalate_whole]
  cases path.root with
  | relative => by_cases none : "/".intercalate path.names = "" <;> simp [none]
  | single => rfl
  | double => rfl

@[simp] theorem hasNul_ofSpelled (path : SpelledPath) : (ofSpelled path).hasNul = path.hasNul := by
  simp [hasNul, SpelledPath.hasNul, ofSpelled, List.any_map, Function.comp_def]

end WidePath

/-- The story file that an index entry's import path names in a project: a leading `./` is cut off
and the rest joined to the project directory. -/
def storyFilePath (project : WidePath) (importPath : WideText) : WidePath :=
  match importPath.units with
  | .char '.' :: .char '/' :: rest => project.joinText (.ofUnits rest)
  | _ => project.joinText importPath

end StoryCatalog
