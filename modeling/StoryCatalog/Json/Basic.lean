import StoryCatalog.Fields
import StoryCatalog.Text.Wide

/-!
# JSON values

Values as a document holds them. The fields of an object stand in the order of their first writing,
and numbers without a fraction and an exponent are whole. Texts and names may hold halves of surrogate pairs.
-/

namespace StoryCatalog

inductive Json where
  | null
  | bool (value : Bool)
  | int (value : Int)
  | float (value : Float)
  | str (value : WideText)
  | arr (items : List Json)
  | obj (fields : List (WideText × Json))
  deriving Repr, Inhabited

namespace Json

/-- The field of an object; other values have none. -/
def field? (name : String) : Json → Option Json
  | .obj fields => fields.lookup (.whole name)
  | _ => none

/-- A field, or null where there is none. -/
def fieldOrNull (name : String) (json : Json) : Json :=
  (json.field? name).getD .null

/-- Whether a value counts as given: neither null nor false, nor zero, nor empty. -/
def isGiven : Json → Bool
  | .null => false
  | .bool value => value
  | .int value => value != 0
  | .float value => value != 0.0
  | .str value => value != .whole ""
  | .arr items => !items.isEmpty
  | .obj fields => !fields.isEmpty

/-- A text of characters. -/
abbrev text (text : String) : Json :=
  .str (.whole text)

/-- The object with these fields. -/
def ofFields (fields : Fields Json) : Json :=
  .obj (fields.entries.map fun (name, value) => (.whole name, value))

def optional (name : String) : Option String → List (WideText × Json)
  | none => []
  | some text => [(name, .str text)]

end Json

end StoryCatalog
