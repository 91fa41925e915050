import StoryCatalog.Service.Story
import StoryCatalog.Story.Examples
import StoryCatalog.Story.Usage

/-!
# Documentation of a story

All that can be said of a story: its component and that component's properties, the code of the stories
beside it, and a usage snippet for each. An entry that names a prose file comes with that file's text.
-/

namespace StoryCatalog

def StoryExample.toJson (example_ : StoryExample) : Json :=
  .obj [("code", .str example_.code), ("args", .ofFields (example_.args.map .text))]

namespace StoryExamples

def fields (examples : StoryExamples) : List (WideText × Json) :=
  [("imports", .arr (examples.imports.map .text)),
    ("metaCode", match examples.metaBlock with | some code => .str code | none => .null),
    ("storyExamples", .ofFields (examples.stories.map StoryExample.toJson))]

/-- A usage snippet for each story. -/
def usages (examples : StoryExamples) (selector : String) (framework : WideText) : Json :=
  .ofFields (examples.stories.mapWithKey fun name story =>
    match Story.usage? (some selector) (story.args.map .text) name framework with
    | some usage => .str usage
    | none => .null)

/-- What the examples add to the documentation. Snippets need a selector. -/
def additions (examples : StoryExamples) (selector : Option String) (framework : WideText) :
    List (WideText × Json) :=
  examples.fields ++
    match selector with
    | none | some "" => []
    | some selector => [("usageExamples", examples.usages selector framework)]

end StoryExamples

/-- What a component's documentation adds to that of a story. -/
def ComponentDocs.additions (docs : ComponentDocs) : List (WideText × Json) :=
  Json.optional "selector" docs.selector ++ Json.optional "template" docs.template ++
    Json.optional "componentCode" docs.code ++
    ([("properties", docs.propertiesJson), ("componentDescription", .str docs.description)] :
      List (WideText × Json))

namespace IndexEntry

/-- What is said of every story. -/
def heading (entry : IndexEntry) (framework : WideText) : List (WideText × Json) :=
  [("storyId", .str entry.id), ("title", entry.title), ("name", entry.name), ("type", entry.type),
    ("framework", .str framework)]

def proseExtension : String := ".mdx"

def isProse (path : WideText) : Bool :=
  (WideText.units proseExtension).isSuffixOf path.units

/-- The component of a record with its documentation; without a component's name there is none. -/
def ofComponent (record : Option StoryRecord) : Option (String × Option ComponentDocs) := do
  let record ← record
  return (← record.component, record.docs)

/-- What a story file that is there adds. -/
def fromSource (entry : IndexEntry) (fs : FileSystem) (file : String) (framework : WideText) :
    List (WideText × Json) :=
  let component := ofComponent (Story.extractRecord fs file entry.id)
  let docs := component.bind (·.2)
  let ofStory := match component with
    | none => []
    | some (name, _) => [(.whole "component", .text name)]
  let ofDocs := match docs with
    | none => []
    | some docs => docs.additions
  let ofExamples := match Story.extractExamples fs file with
    | none => []
    | some examples => examples.additions (docs.bind (·.selector)) framework
  ofStory ++ ofDocs ++ ofExamples

/-- The documentation of a story. -/
def documentation (entry : IndexEntry) (machine : Machine) (project : WidePath) (framework : WideText) :
    Except ServiceError (List (WideText × Json)) := do
  let heading := entry.heading framework
  match ← entry.importPath? with
  | none => return heading
  | some path =>
    let file := storyFilePath project path
    if !(← (machine.isFile? file).mapError .file) then return heading
    if isProse path then
      let text ← (machine.readText file).mapError .file
      return heading ++ [(.whole "mdxContent", .text text)]
    match file.onDisk? with
    | none => return heading
    | some file => return heading ++ entry.fromSource machine.toFileSystem file.toText framework

end IndexEntry

end StoryCatalog
