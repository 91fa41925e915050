import StoryCatalog.Text.Split

/-!
# Paths in normal form

An absolute path without empty, `.` or `..` components, found from the spelling alone: `..` takes
back the component before it and stays at the root. A path that starts with exactly two slashes
names another root than one that starts with one or with three.
-/

namespace StoryCatalog

open Text

/-- An absolute path: its root, and the names from there on. -/
structure NormalPath where
  doubled : Bool
  names : List String
  deriving DecidableEq, Repr

namespace NormalPath

def root : NormalPath := ⟨false, []⟩

/-- One component more, on names held in reverse. -/
def push (stack : List String) (name : String) : List String :=
  if name = "" ∨ name = "." then stack
  else if name = ".." then stack.tail
  else name :: stack

/-- The names reached from `names` along the components of a spelling. -/
def follow (names components : List String) : List String :=
  (components.foldl push names.reverse).reverse

/-- The components of a spelling, with the empty ones that slashes at the ends and in a row make. -/
def components (spelling : List Char) : List String :=
  (split '/' spelling).map String.ofList

def isAbsolute : List Char → Bool
  | '/' :: _ => true
  | _ => false

/-- Exactly two slashes, and no third. -/
def isDoubled : List Char → Bool
  | '/' :: '/' :: '/' :: _ => false
  | '/' :: '/' :: _ => true
  | _ => false

/-- The path that a spelling stands for in the directory `here`. -/
def resolveIn (here : NormalPath) (spelling : String) : NormalPath :=
  if isAbsolute spelling.toList then
    ⟨isDoubled spelling.toList, follow [] (components spelling.toList)⟩
  else ⟨here.doubled, follow here.names (components spelling.toList)⟩

def parent (path : NormalPath) : NormalPath :=
  { path with names := path.names.dropLast }

def toText (path : NormalPath) : String :=
  (if path.doubled then "//" else "/") ++ "/".intercalate path.names

/-- The path that `reference` stands for in a file that `base` stands for. -/
def resolveBeside (here : NormalPath) (base reference : String) : NormalPath :=
  (resolveIn here base).parent.resolveIn reference

end NormalPath

end StoryCatalog
