import StoryCatalog.Component.Extract
import StoryCatalog.Story.ArgTypes
import StoryCatalog.Story.Args
import StoryCatalog.Story.ComponentFile
import StoryCatalog.Story.Literal
import StoryCatalog.Story.Name

/-!
# Story records

One story as its file tells it: its component and that component's documentation, the controls of
its args, and the values of the args of the export that belongs to the story's id. The record is
made as a whole or not at all, except that a component without documentation does not stop it.
-/

namespace StoryCatalog

structure StoryRecord where
  id : WideText
  filePath : String
  component : Option String := none
  argTypes : Fields String := {}
  args : Fields Story.Literal := {}
  docs : Option ComponentDocs := none
  deriving DecidableEq, Repr

namespace Story

open Text Source

/-- The args block of an exported object, from the object's inside on: the last `args:` before the
first closing brace whose block is not empty. -/
def innerArgs : Scan (List Char) := fun text =>
  let here : Option (List Char × List Char) := (do
    Scan.literal "args:"
    blanks
    openBrace
    let body ← Scan.run1 (· ≠ '}')
    closeBrace
    return body : Scan (List Char)) text
  match text with
  | [] => here
  | c :: rest => if c = '}' then here else (innerArgs rest).orElse fun _ => here

/-- Whether a word ends or starts between two characters. -/
def atWordEdge (before : Char) (text : List Char) : Bool :=
  isWord before != (match text with | [] => false | c :: _ => isWord c)

/-- The rest of an export whose name, up to `before`, has been read. -/
def argsAfterName (before : Char) : Scan (List Char) := fun text =>
  if atWordEdge before text then
    (do
      let _ ← Scan.run (· ≠ '=')
      char '='
      blanks
      openBrace
      innerArgs : Scan (List Char)) text
  else none

/-- The export of a name after at least one blank, of which `before` was the last. As many blanks as
possible are passed over, and fewer where the name itself starts with a blank. -/
def argsOfName (name : List Char) (before : Char) : Scan (List Char) := fun text =>
  let here := (dropWord? name text).bind fun rest =>
    argsAfterName ((name.getLast?).getD before) rest
  match text with
  | [] => here
  | c :: rest => if isBlank c then (argsOfName name c rest).orElse fun _ => here else here

/-- An exported constant of this name, read as the body of its args block. -/
def namedArgs (name : List Char) : Scan (List Char) := do
  Scan.literal "export"
  blanks1
  Scan.literal "const"
  let before ← Scan.one isBlank
  argsOfName name before

/-- The values of the args of an export. -/
def argsOf (content name : List Char) : Except Number.TooManyDigits (Fields Literal) :=
  match Scan.findFirst? (namedArgs name) content with
  | none => .ok {}
  | some body => do
    let values ← (splitArgs body).mapM fun (key, raw) => do return (key, ← coerce raw.toList)
    return Fields.ofList values

/-- The documentation of the component that a story file names, if its file is found. -/
def componentDocs? (fs : FileSystem) (content component : List Char) (path : String) :
    Except Fault (Option ComponentDocs) := do
  match ← componentFile? fs content component path with
  | none => return none
  | some file => return Component.extractDocs fs file

/-- The args of the story that an id names; an id without an export name has none. -/
def argsOfId (content : List Char) (id : WideText) : Except Fault (Fields Literal) :=
  match exportNameOf? id with
  | none => .ok {}
  | some name =>
    match argsOf content name with
    | .ok args => .ok args
    | .error error => .error (.tooManyDigits error)

def recordOfSource (fs : FileSystem) (path : String) (id : WideText) (content : List Char) :
    Except Fault StoryRecord := do
  let component := componentOf? content
  let docs ← match component with
    | none => pure none
    | some component => componentDocs? fs content component path
  let args ← argsOfId content id
  return {
    id
    filePath := fs.normalize path
    component := component.map String.ofList
    argTypes := argTypesOf content
    args
    docs }

def readRecord (fs : FileSystem) (path : String) (id : WideText) : Except Fault (Option StoryRecord) := do
  match ← fs.readFile? path with
  | none => return none
  | some content => return some (← recordOfSource fs path id content.toList)

/-- The record of a story in a file, where nothing went wrong. -/
def extractRecord (fs : FileSystem) (path : String) (id : WideText) : Option StoryRecord :=
  match readRecord fs path id with
  | .ok record => record
  | .error _ => none

end Story

end StoryCatalog
