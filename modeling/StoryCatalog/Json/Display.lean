import StoryCatalog.Json.Basic
import StoryCatalog.Number.Notation
import StoryCatalog.Text.Quoted

/-!
# Displaying JSON values

The text that stands for a value where a text is wanted: a text stands for itself, and every other
value for its display, in which texts are quoted and the words for null and truth are capitalised.
-/

namespace StoryCatalog.Json

open Text Number

mutual

def display : Json → List Char
  | .null => "None".toList
  | .bool value => (if value then "True" else "False").toList
  | .int value => (intText value).toList
  | .float value => (floatText value).toList
  | .str value => (quoted value).toList
  | .arr items => '[' :: displayItems items ++ [']']
  | .obj fields => '\x7b' :: displayFields fields ++ ['\x7d']

def displayItems : List Json → List Char
  | [] => []
  | [item] => display item
  | item :: items => display item ++ ',' :: ' ' :: displayItems items

def displayFields : List (WideText × Json) → List Char
  | [] => []
  | [(name, value)] => (quoted name).toList ++ ':' :: ' ' :: display value
  | (name, value) :: fields =>
    (quoted name).toList ++ ':' :: ' ' :: display value ++ ',' :: ' ' :: displayFields fields

end

/-- The word for the type of a value. -/
def typeName : Json → String
  | .null => "NoneType"
  | .bool _ => "bool"
  | .int _ => "int"
  | .float _ => "float"
  | .str _ => "str"
  | .arr _ => "list"
  | .obj _ => "dict"

/-- A text as it is, any other value by its display. -/
def toText : Json → WideText
  | .str value => value
  | json => String.ofList json.display

end StoryCatalog.Json
