import StoryCatalog.Json.Display

/-!
# Index entries

One story as the index lists it. The index is another program's work, so a field may hold any value;
only the id and the tags are made texts.
-/

namespace StoryCatalog

structure IndexEntry where
  id : WideText
  name : Json := .null
  title : Json := .null
  kind : Json := .null
  importPath : Json := .null
  tags : List WideText := []
  type : Json := .null
  deriving Repr

/-- A value of a type without fields, where an index's record was expected. -/
structure NoFields where
  typeName : String
  deriving DecidableEq, Repr

def NoFields.message (error : NoFields) : String :=
  "'" ++ error.typeName ++ "' object has no attribute 'get'"

namespace IndexEntry

/-- The entry that an index's record describes. A title does for the kind where none is given. -/
def ofRecord (record : Json) : IndexEntry where
  id := ((record.field? "id").getD (.str "")).toText
  name := record.fieldOrNull "name"
  title := record.fieldOrNull "title"
  kind :=
    let kind := record.fieldOrNull "kind"
    if kind.isGiven then kind else record.fieldOrNull "title"
  importPath := record.fieldOrNull "importPath"
  tags :=
    match record.fieldOrNull "tags" with
    | .arr tags => tags.map Json.toText
    | _ => []
  type := record.fieldOrNull "type"

/-- The entry that a value describes, which must be an object. -/
def ofJson : Json → Except NoFields IndexEntry
  | .obj fields => .ok (ofRecord (.obj fields))
  | value => .error ⟨value.typeName⟩

/-- All that the entry holds. -/
def fields (entry : IndexEntry) : List (WideText × Json) :=
  [("id", .str entry.id), ("name", entry.name), ("title", entry.title), ("kind", entry.kind),
    ("importPath", entry.importPath), ("tags", .arr (entry.tags.map .str)), ("type", entry.type)]

/-- What a list of a kind's stories shows. -/
def summary (entry : IndexEntry) : List (WideText × Json) :=
  [("id", .str entry.id), ("name", entry.name), ("title", entry.title), ("kind", entry.kind),
    ("type", entry.type)]

def isText (text : WideText) : Json → Bool
  | .str value => value = text
  | _ => false

/-- Whether the entry's kind or title is this text. -/
def belongsTo (entry : IndexEntry) (kind : WideText) : Bool :=
  isText kind entry.kind || isText kind entry.title

end IndexEntry

end StoryCatalog
