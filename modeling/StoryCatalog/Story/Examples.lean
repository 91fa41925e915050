import StoryCatalog.FileSystem.Basic
import StoryCatalog.Source.Token
import StoryCatalog.Story.Args

/-!
# Story examples

What a story file shows of itself: its import lines, the block that describes its component, and the
code of each exported story with the raw args in it.
-/

namespace StoryCatalog

/-- The code of one story, and its args as written. -/
structure StoryExample where
  code : String
  args : Fields String
  deriving DecidableEq, Repr

structure StoryExamples where
  imports : List String := []
  metaBlock : Option String := none
  stories : Fields StoryExample := {}
  deriving DecidableEq, Repr

namespace Story

open Text Source

/-- The word `import`, blanks that may run over lines, and the rest of a line that ends with a
semicolon. -/
def importStatement : Scan Unit := do
  Scan.literal "import"
  blanks1
  let line ← Scan.run (· ≠ '\n')
  guard (line.getLast? = some ';')

/-- The import statements that start a line. -/
def importsOf (content : List Char) : List String :=
  (Scan.atLineStarts (Scan.withText importStatement) content).filterMap fun
    | .inl _ => none
    | .inr ((), text) => some (String.ofList text)

def exportDefault : Scan Unit := do
  Scan.literal "export"
  blanks1
  Scan.literal "default"
  blanks1

/-- A constant whose name starts with `meta`, up to the line that makes it the default export. -/
def metaConstant : Scan Unit := do
  Scan.literal "const"
  blanks1
  Scan.literal "meta"
  let _ ← Scan.run (· ≠ '=')
  char '='
  blanks
  openBrace
  let _ ← Scan.upTo do
    closeBrace
    let _ ← Scan.maybe (char ';')
    blanks
    exportDefault
    Scan.literal "meta"

/-- An object that is the default export itself. -/
def metaObject : Scan Unit := do
  exportDefault
  openBrace
  let _ ← Scan.upTo do
    closeBrace
    blanks
    Scan.literal "as" <|> char ';'

def metaOf? (content : List Char) : Option String :=
  ((Scan.findFirst? (Scan.withText metaConstant) content).orElse fun _ =>
    Scan.findFirst? (Scan.withText metaObject) content).map fun (_, text) => String.ofList text

/-- The head of an exported constant, through its opening brace. -/
def storyHead : Scan (List Char) := do
  Scan.literal "export"
  blanks1
  Scan.literal "const"
  blanks1
  let name ← identifier
  let _ ← Scan.maybe do
    char ':'
    blanks
    identifier
  blanks
  char '='
  blanks
  openBrace
  return name

/-- An exported constant: its name, and its body up to the first closing brace with a semicolon. -/
def storyBlock : Scan (List Char × List Char) := do
  let name ← storyHead
  let (body, ()) ← Scan.upTo (Scan.literal "\x7d;")
  return (name, body)

/-- The first args block in a story's body, up to its first closing brace. -/
def argsBlock : Scan (List Char) := do
  Scan.literal "args:"
  blanks
  openBrace
  throughBrace

/-- A story's code in canonical spelling: one space around the equals sign and no type. -/
def storyCode (name body : List Char) : String :=
  String.ofList ("export const ".toList ++ name ++ " = ".toList ++ '{' :: body ++ ['}', ';'])

def storyExample (name body : List Char) : StoryExample where
  code := storyCode name body
  args :=
    match Scan.findFirst? argsBlock body with
    | some args => rawArgs args
    | none => {}

def storyBlocks (content : List Char) : List (List Char × List Char) :=
  Scan.findAll storyBlock content

def examplesOfSource (content : List Char) : StoryExamples where
  imports := importsOf content
  metaBlock := metaOf? content
  stories := Fields.ofList ((storyBlocks content).map fun (name, body) =>
    (String.ofList name, storyExample name body))

/-- The examples of a story file, where nothing went wrong. -/
def extractExamples (fs : FileSystem) (path : String) : Option StoryExamples :=
  match fs.readFile? path with
  | .ok (some content) => some (examplesOfSource content.toList)
  | .ok none => none
  | .error _ => none

end Story

end StoryCatalog
