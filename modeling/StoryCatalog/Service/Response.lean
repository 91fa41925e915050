import StoryCatalog.FileSystem.Fault
import StoryCatalog.Index.Client
import StoryCatalog.Json.Writer

/-!
# Responses

A status and a body. Numbers without a finite value cannot stand in a body and become null; a value of
a record that is nested too far, or a text with half a surrogate pair, makes the answer fail as a whole.
The name of a field is only shown without its halves.
-/

namespace StoryCatalog

open Text

/-- Why a request that found its route is not answered. -/
inductive ServiceError where
  | index (error : IndexError)
  /-- A path that is no text but a value of this type. -/
  | notAPath (typeName : String)
  | file (fault : Fault)
  /-- A value that is nested too far to be written. -/
  | tooDeep
  /-- A text that cannot be encoded. -/
  | unencodable (error : EncodingError)
  deriving DecidableEq, Repr

def ServiceError.message : ServiceError → WideText
  | .index error => error.message
  | .notAPath typeName => "'" ++ typeName ++ "' object has no attribute 'startswith'"
  | .file cause => cause.message
  | .tooDeep => "Error serializing to JSON: ValueError: Maximum serialization depth exceeded"
  | .unencodable error => "Error serializing to JSON: UnicodeEncodeError: " ++ error.message

structure Response where
  status : Nat
  /-- Nothing for a response without a body. -/
  body : Option Json
  deriving Repr

namespace Json

/-- The name of a field with three replacement characters for each half, as many as it has bytes. -/
def shownName (name : WideText) : WideText :=
  .ofUnits (name.units.flatMap fun
    | .char c => [.char c]
    | .lone _ => List.replicate 3 (.char '\ufffd'))

mutual

/-- The value as a body shows it, with null for every number that is not finite. Names that become one by
losing their halves name one field. -/
def shown : Json → Json
  | .float x => if x.isFinite then .float x else .null
  | .arr items => .arr (shownItems items)
  | .obj fields =>
    if fields.all (·.1.text?.isSome) then .obj (shownFields fields)
    else .obj (Fields.ofList (shownFields fields)).entries
  | json => json

def shownItems : List Json → List Json
  | [] => []
  | item :: items => shown item :: shownItems items

def shownFields : List (WideText × Json) → List (WideText × Json)
  | [] => []
  | (name, value) :: fields => (shownName name, shown value) :: shownFields fields

end

mutual

/-- How many values lie on the longest way into a value, that value counted. -/
def height : Json → Nat
  | .arr items => heightOfItems items + 1
  | .obj fields => heightOfFields fields + 1
  | _ => 1

def heightOfItems : List Json → Nat
  | [] => 0
  | item :: items => max (height item) (heightOfItems items)

def heightOfFields : List (WideText × Json) → Nat
  | [] => 0
  | (_, value) :: fields => max (height value) (heightOfFields fields)

end

mutual

/-- What keeps a value from being written that may have so many values on a way into it: the first such thing in the
order of writing. The names of fields do not count. -/
def writingFault? : Nat → Json → Option ServiceError
  | 0, _ => some .tooDeep
  | _ + 1, .str text => (encodingFault? text).map .unencodable
  | depth + 1, .arr items => itemsFault? depth items
  | depth + 1, .obj fields => fieldsFault? depth fields
  | _ + 1, _ => none

def itemsFault? (depth : Nat) : List Json → Option ServiceError
  | [] => none
  | item :: items => (writingFault? depth item).or (itemsFault? depth items)

def fieldsFault? (depth : Nat) : List (WideText × Json) → Option ServiceError
  | [] => none
  | (_, value) :: fields => (writingFault? depth value).or (fieldsFault? depth fields)

end

end Json

/-- How far a value of a record may be nested. -/
def heightLimit : Nat := 255

/-- The fields of a record, where all their values can be written. -/
def writable (fields : List (WideText × Json)) : Except ServiceError (List (WideText × Json)) :=
  match Json.fieldsFault? heightLimit fields with
  | none => .ok fields
  | some error => .error error

/-- A record as a value of a body, where all its own values can be written. -/
def recordJson (fields : List (WideText × Json)) : Except ServiceError Json :=
  .obj <$> writable fields

namespace Response

def notFound : Response := ⟨404, some (.obj [("detail", .str "Not Found")])⟩

def wrongMethod : Response := ⟨405, some (.obj [("detail", .str "Method Not Allowed")])⟩

/-- To the same path without the slashes at its end. -/
def redirect : Response := ⟨307, none⟩

/-- What is sent for a unit of a text in a failure's body. -/
def sentUnit : TextUnit → List TextUnit
  | .char c => if c = '"' || c = '\\' || c.toNat < 0x20 then (Json.writtenChar c).map .char else [.char c]
  | .lone half => [.lone half]

/-- What is sent for a text of a failure's body behind the others. -/
def sentText (name : String) (text : WideText) : List TextUnit :=
  WideText.units (",\"" ++ name ++ "\":\"") ++ text.units.flatMap sentUnit ++ [.char '"']

/-- The response to a request that failed, where it can be sent. Its body says so much and has these texts. -/
def failure (status : Nat) (texts : List (String × WideText)) : Except EncodingError Response :=
  let sent := WideText.units "\x7b\"success\":false" ++ texts.flatMap fun text => sentText text.1 text.2
  match encodingFault? (.ofUnits sent) with
  | some error => .error error
  | none =>
    .ok ⟨status, some (.obj (("success", .bool false) :: texts.map fun text => (.whole text.1, .str text.2)))⟩

/-- The response to a request that failed for a reason that has no response of its own. Where that reason cannot be
sent there is no body. -/
def unexpected (message : WideText) : Response :=
  match failure 500 [("error", message)] with
  | .ok response => response
  | .error _ => ⟨500, none⟩

/-- A response, or what is answered where it cannot be sent. -/
def orUnexpected : Except EncodingError Response → Response
  | .ok response => response
  | .error error => unexpected error.message

/-- The response to a request that failed; `server` is the story server's address. -/
def ofError (server : WideText) : ServiceError → Response
  | .index (.unavailable cause) =>
    orUnexpected (failure 503 [("error", "Storybook is not ready. Please wait..."),
      ("hint", "Make sure Storybook is running at " ++ server), ("detail", cause.message)])
  | .index (.notFound id) => orUnexpected (failure 404 [("error", (IndexError.notFound id).message)])
  | error => unexpected error.message

/-- A body with these fields. -/
def ofFields (fields : List (WideText × Json)) : Response :=
  ⟨200, some (Json.obj fields).shown⟩

end Response

end StoryCatalog
