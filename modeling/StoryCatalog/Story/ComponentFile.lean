import StoryCatalog.FileSystem.Basic
import StoryCatalog.Source.Token

/-!
# The file of a story's component

A story file names its component and imports it from a module. The component's file is the first
file there is among the module's name with each of the known extensions.
-/

namespace StoryCatalog.Story

open Text Source

/-- The name after the first `component:` of a story file. -/
def componentReference : Scan (List Char) := do
  Scan.literal "component:"
  blanks
  identifier

def componentOf? (content : List Char) : Option (List Char) :=
  Scan.findFirst? componentReference content

/-- The end of an import clause from inside its braces on: the closing brace and the module. -/
def moduleAfterClause : Scan (List Char) := do
  let _ ← Scan.run (· ≠ '}')
  closeBrace
  blanks
  Scan.literal "from"
  blanks
  quotedText

/-- The module of a clause that names the component, the last place in the clause where the name
stands being tried first. The name may be a part of a longer one. -/
def moduleNaming (component : List Char) : Scan (List Char) := fun text =>
  let here := (dropWord? component text).bind fun rest => moduleAfterClause rest
  match text with
  | [] => here
  | c :: rest => if c = '}' then here else (moduleNaming component rest).orElse fun _ => here

/-- An import clause in braces that names the component, read as the module it imports from. -/
def importOf (component : List Char) : Scan (List Char) := do
  Scan.literal "import"
  blanks
  openBrace
  moduleNaming component

def moduleOf? (component content : List Char) : Option (List Char) :=
  Scan.findFirst? (importOf component) content

/-- The extensions of source files, in the order in which they are tried. -/
def extensions : List String := [".ts", ".tsx", ".js", ".jsx", ".vue", ".svelte"]

/-- The files that a module may stand for: its name, which may have an extension already. -/
def candidates (module : String) : List String :=
  extensions.map fun extension => if module.endsWith extension then module else module ++ extension

/-- The first path that names a file. -/
def firstFile? (fs : FileSystem) : List String → Except Fault (Option String)
  | [] => .ok none
  | path :: rest => do
    if ← fs.isFile path then return some path
    firstFile? fs rest

/-- The file of the component that a story file at `storyPath` imports. -/
def componentFile? (fs : FileSystem) (content component : List Char) (storyPath : String) :
    Except Fault (Option String) :=
  match moduleOf? component content with
  | none => .ok none
  | some module => firstFile? fs (candidates (fs.resolve storyPath (String.ofList module)))

end StoryCatalog.Story
