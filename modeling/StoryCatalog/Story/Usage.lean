import StoryCatalog.Fields
import StoryCatalog.Json.Writer

/-!
# Usage snippets

Markup that shows how a story uses its component: one element with one attribute per arg. Values
that are no texts are bound in square brackets for Angular and in braces for every other framework.
-/

namespace StoryCatalog.Story

/-- Whether a framework binds values by names in square brackets. -/
def bindsInBrackets (framework : WideText) : Bool :=
  framework = .whole "angular"

/-- An attribute whose value is an expression. -/
def boundAttribute (brackets : Bool) (key expression : String) : String :=
  if brackets then "[" ++ key ++ "]=\"" ++ expression ++ "\""
  else key ++ "=\x7b" ++ expression ++ "\x7d"

def startsWithQuote (text : WideText) : Bool :=
  match text.units with
  | .char c :: _ => c = '\x27' || c = '"'
  | _ => false

/-- An attribute whose value is a text; one that starts with a quote is taken to have its own. -/
def textAttribute (key : String) (text : WideText) : WideText :=
  if startsWithQuote text then key ++ "=" ++ text else key ++ "=\"" ++ text ++ "\""

/-- How a value that is neither a text nor a truth value stands in an attribute. -/
def expression : Json → String
  | .int value => Number.intText value
  | .float value => Number.floatText value
  | json => String.ofList json.write

/-- The attribute of one arg. The words for truth values count as truth values. -/
def argAttribute (brackets : Bool) (key : String) : Json → WideText
  | .bool true | .str (.whole "true") => boundAttribute brackets key "true"
  | .bool false | .str (.whole "false") => boundAttribute brackets key "false"
  | .str text => textAttribute key text
  | json => boundAttribute brackets key (expression json)

/-- The separator of attributes: a new line, indented. -/
def attributeSeparator : String := "\n    "

def element (selector : String) (attributes : WideText) : WideText :=
  "<" ++ selector ++ attributeSeparator ++ attributes ++ ">\n</" ++ selector ++ ">"

/-- The snippet of a story; without a selector there is none. -/
def usage? (selector : Option String) (args : Fields Json) (storyName : String) (framework : WideText) :
    Option WideText :=
  match selector with
  | none | some "" => none
  | some selector =>
    let attributes := args.entries.map fun (key, value) => argAttribute (bindsInBrackets framework) key value
    some ("<!-- " ++ storyName ++ " Example -->\n" ++
      element selector (WideText.intercalate attributeSeparator attributes))

end StoryCatalog.Story
