import StoryCatalog.Fields

/-!
# Component documentation

What is recovered from a component's source file. Each part is found on its own and is missing when
nothing in the file has its shape.
-/

namespace StoryCatalog

/-- How a property reaches its component. -/
inductive PropertyKind where
  | input
  | output
  | prop
  deriving DecidableEq, Repr

def PropertyKind.name : PropertyKind → String
  | .input => "input"
  | .output => "output"
  | .prop => "prop"

structure Property where
  description : String
  kind : PropertyKind
  required : Bool
  declaredType : Option String := none
  default : Option String := none
  deriving DecidableEq, Repr

structure ComponentDocs where
  description : String := ""
  selector : Option String := none
  template : Option String := none
  templateUrl : Option String := none
  properties : Fields Property := {}
  code : Option String := none
  deriving DecidableEq, Repr

end StoryCatalog
