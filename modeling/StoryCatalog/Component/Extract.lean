import StoryCatalog.Component.Properties
import StoryCatalog.FileSystem.Basic

/-!
# Reading a component's documentation

The parts of the documentation that stand in the source text, and the template that may stand in a
file of its own beside it. A file that is missing or cannot be read has no documentation.
-/

namespace StoryCatalog.Component

open Text Source

/-- What a component's doc comment stands before: a decorator, or an exported declaration. -/
def declarationHead : Scan Unit := do
  blanks
  Scan.literal "@Component" <|> do
    Scan.literal "export"
    blanks1
    let _ ← Scan.maybe do
      Scan.literal "default"
      blanks1
    Scan.literal "function" <|> Scan.literal "class" <|> Scan.literal "const"

def describedDeclaration : Scan (List Char) := do
  let comment ← docComment
  declarationHead
  return comment

/-- A template between back quotes, trimmed. -/
def inlineTemplate : Scan (List Char) := do
  Scan.literal "template:"
  blanks
  char '\x60'
  let (body, ()) ← Scan.upTo (char '\x60')
  return trim body

def classHead : Scan Unit := do
  Scan.literal "export"
  blanks1
  Scan.literal "class"
  blanks1
  let _ ← identifier

def functionHead : Scan Unit := do
  Scan.literal "export"
  blanks1
  let _ ← Scan.maybe do
    Scan.literal "default"
    blanks1
  Scan.literal "function"
  blanks1
  let _ ← identifier

/-- The rest of a declaration, up to a closing brace that starts a line. -/
def throughEnd : Scan Unit := do
  let _ ← Scan.upTo (Scan.literal "\n\x7d")

def decoratedClass : Scan Unit := do
  Scan.literal "@Component"
  let _ ← Scan.upTo classHead
  throughEnd

def exportedFunction : Scan Unit := do
  functionHead
  throughEnd

/-- The code of a decorated class, or else of an exported function. -/
def code? (content : List Char) : Option (List Char) :=
  ((Scan.findFirst? (Scan.withText decoratedClass) content).orElse fun _ =>
    Scan.findFirst? (Scan.withText exportedFunction) content).map (·.2)

/-- The documentation that stands in the source text itself. -/
def docsOfSource (content : List Char) : ComponentDocs where
  description :=
    match Scan.findFirst? describedDeclaration content with
    | some comment => String.ofList (stripComment comment)
    | none => ""
  selector := (Scan.findFirst? (quotedAfter "selector:") content).map String.ofList
  template := (Scan.findFirst? inlineTemplate content).map String.ofList
  templateUrl := (Scan.findFirst? (quotedAfter "templateUrl:") content).map String.ofList
  properties := properties content
  code := (code? content).map String.ofList

/-- The text of the file that a template reference names, seen from the component's file. -/
def templateFile? (fs : FileSystem) (path : String) (docs : ComponentDocs) :
    Except Fault (Option String) :=
  match docs.templateUrl with
  | none => return none
  | some url => fs.readFile? (fs.resolve path url)

/-- A template of its own file takes the place of one in the source. -/
def ComponentDocs.withTemplate (docs : ComponentDocs) : Option String → ComponentDocs
  | none => docs
  | some text => { docs with template := some (trimString text) }

def readDocs (fs : FileSystem) (path : String) : Except Fault (Option ComponentDocs) := do
  match ← fs.readFile? path with
  | none => return none
  | some content =>
    let docs := docsOfSource content.toList
    return some (ComponentDocs.withTemplate docs (← templateFile? fs path docs))

/-- The documentation of the component in a file, where nothing went wrong. -/
def extractDocs (fs : FileSystem) (path : String) : Option ComponentDocs :=
  match readDocs fs path with
  | .ok docs => docs
  | .error _ => none

end StoryCatalog.Component
