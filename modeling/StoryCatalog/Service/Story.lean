import StoryCatalog.FileSystem.Disk
import StoryCatalog.Index.Entry
import StoryCatalog.Path.Wide
import StoryCatalog.Service.Response
import StoryCatalog.Story.Record

/-!
# Stories as the service shows them

An index entry together with what its story file tells. Where the file is missing or nothing is made of
it, the entry stands alone.
-/

namespace StoryCatalog

def Story.Literal.toJson : Story.Literal → Json
  | .text value => .str value
  | .flag value => .bool value
  | .whole value => .int value
  | .real value => .float value

def Property.toJson (property : Property) : Json :=
  .obj (([("description", .str property.description), ("type", .str property.kind.name),
      ("required", .bool property.required)] : List (WideText × Json)) ++
    Json.optional "tsType" property.declaredType ++ Json.optional "defaultValue" property.default)

def ComponentDocs.propertiesJson (docs : ComponentDocs) : Json :=
  .ofFields (docs.properties.map Property.toJson)

def ComponentDocs.fields (docs : ComponentDocs) : List (WideText × Json) :=
  ([("description", .str docs.description), ("properties", docs.propertiesJson)] : List (WideText × Json)) ++
    Json.optional "selector" docs.selector ++ Json.optional "template" docs.template ++
    Json.optional "templateUrl" docs.templateUrl ++ Json.optional "componentCode" docs.code

namespace StoryRecord

def argsJson (record : StoryRecord) : Json :=
  .ofFields (record.args.map Story.Literal.toJson)

def argTypesJson (record : StoryRecord) : Json :=
  .ofFields (record.argTypes.map fun (control : String) => .obj [("control", .str control)])

/-- What a record adds to its entry. -/
def additions (record : StoryRecord) : List (WideText × Json) :=
  Json.optional "component" record.component ++
    ([("args", record.argsJson), ("argTypes", record.argTypesJson)] : List (WideText × Json)) ++
    match record.docs with
    | none => []
    | some docs => [("docs", .obj docs.fields)]

end StoryRecord

namespace IndexEntry

/-- The import path, if one is given; what is given must be a text. -/
def importPath? (entry : IndexEntry) : Except ServiceError (Option WideText) :=
  if !entry.importPath.isGiven then .ok none
  else
    match entry.importPath with
    | .str path => .ok (some path)
    | value => .error (.notAPath value.typeName)

/-- The record of the entry's story in a file. -/
def record? (entry : IndexEntry) (machine : Machine) (file : SpelledPath) : Option StoryRecord :=
  Story.extractRecord machine.toFileSystem file.toText entry.id

/-- The entry's fields, and those that its story file adds. -/
def details (entry : IndexEntry) (machine : Machine) (project : WidePath) :
    Except ServiceError (List (WideText × Json)) := do
  match ← entry.importPath? with
  | none => return entry.fields
  | some path =>
    match (storyFilePath project path).onDisk?.bind (entry.record? machine) with
    | none => return entry.fields
    | some record => return entry.fields ++ record.additions

end IndexEntry

end StoryCatalog
