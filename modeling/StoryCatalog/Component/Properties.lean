import StoryCatalog.Component.Docs
import StoryCatalog.Source.Comment
import StoryCatalog.Source.Token
import StoryCatalog.Text.Split

/-!
# The properties of a component

Properties are found in two passes: the documented members with an input or output decorator, then
the documented fields of the first interface whose name ends in `Props`. A later finding of a name
replaces the earlier one in its place. A third pass over the whole file adds declared types and
defaults to the properties that are there and finds no new ones.
-/

namespace StoryCatalog.Component

open Text Source

/-- The token in a doc comment that marks its member as required. -/
def requiredToken : List Char := "@required".toList

def decorator : Scan PropertyKind :=
  (do Scan.literal "Input"; return .input) <|> (do Scan.literal "Output"; return .output)

/-- A doc comment, an input or output decorator without arguments, and the member's name. -/
def decoratedMember : Scan (String × Property) := do
  let comment ← docComment
  blanks
  char '@'
  let kind ← decorator
  Scan.literal "()"
  blanks
  let name ← identifier
  let description := stripComment comment
  return (String.ofList name,
    { description := String.ofList (trim (erase requiredToken description))
      kind
      required := occurs requiredToken description })

/-- The body of an interface whose name ends in `Props`, up to its first closing brace. -/
def propsInterface : Scan (List Char) := do
  Scan.literal "interface"
  blanks1
  let name ← identifier
  guard ("Props".toList.isSuffixOf name)
  blanks
  openBrace
  throughBrace

/-- A doc comment, a name, optionally a question mark, and the type up to a semicolon. -/
def interfaceField : Scan (String × Property) := do
  let comment ← docComment
  blanks
  let name ← identifier
  let optional ← Scan.maybe (char '?')
  char ':'
  let type ← Scan.run1 (· ≠ ';')
  return (String.ofList name,
    { description := String.ofList (stripComment comment)
      kind := .prop
      required := optional.isNone
      declaredType := some (String.ofList (trim type)) })

/-- A name with the type, and perhaps the default, that a declaration gives it. -/
structure FieldDeclaration where
  name : String
  type : String
  default : Option String
  deriving DecidableEq, Repr

/-- A name, a type that holds no equals sign, and perhaps a default, up to a semicolon. -/
def fieldDeclaration : Scan FieldDeclaration := do
  let name ← identifier
  let _ ← Scan.maybe (char '?')
  char ':'
  let type ← Scan.run1 fun c => c ≠ '=' && c ≠ ';'
  let default ← Scan.maybe do
    char '='
    Scan.run1 (· ≠ ';')
  char ';'
  return ⟨String.ofList name, String.ofList (trim type), default.map fun text => String.ofList (trim text)⟩

def decoratedMembers (content : List Char) : List (String × Property) :=
  Scan.findAll decoratedMember content

def interfaceFields (content : List Char) : List (String × Property) :=
  match Scan.findFirst? propsInterface content with
  | some body => Scan.findAll interfaceField body
  | none => []

/-- A declaration settles the type of its property, and the default if it has one. -/
def FieldDeclaration.applyTo (declaration : FieldDeclaration) (property : Property) : Property :=
  { property with
    declaredType := some declaration.type
    default := declaration.default.orElse fun _ => property.default }

def withDeclarations (properties : Fields Property) (declarations : List FieldDeclaration) :
    Fields Property :=
  declarations.foldl (fun properties declaration =>
    properties.modify declaration.name declaration.applyTo) properties

/-- The properties of a component's source text. -/
def properties (content : List Char) : Fields Property :=
  withDeclarations (Fields.ofList (decoratedMembers content ++ interfaceFields content))
    (Scan.findAll fieldDeclaration content)

end StoryCatalog.Component
