import StoryCatalog.Path.Normal

/-!
# Paths as spelled

A path that may be relative and keeps its `..` components, since a directory that is not there
cannot be left again. Only empty and `.` components are dropped.
-/

namespace StoryCatalog

open Text

/-- The slashes a path starts with; three and more count as one. -/
inductive PathRoot where
  | relative
  | single
  | double
  deriving DecidableEq, Repr

structure SpelledPath where
  root : PathRoot
  names : List String
  deriving DecidableEq, Repr

namespace SpelledPath

def ofText (text : String) : SpelledPath where
  root :=
    if NormalPath.isDoubled text.toList then .double
    else if NormalPath.isAbsolute text.toList then .single
    else .relative
  names := (NormalPath.components text.toList).filter fun name => name ≠ "" && name ≠ "."

/-- The second path seen from the first; an absolute one stands for itself. -/
def join (path other : SpelledPath) : SpelledPath :=
  if other.root = .relative then { path with names := path.names ++ other.names } else other

def joinText (path : SpelledPath) (text : String) : SpelledPath :=
  path.join (ofText text)

def toText (path : SpelledPath) : String :=
  let names := "/".intercalate path.names
  match path.root with
  | .relative => if names = "" then "." else names
  | .single => "/" ++ names
  | .double => "//" ++ names

/-- The path without its last component; a root and an empty relative path are their own parents. -/
def parent (path : SpelledPath) : SpelledPath :=
  { path with names := path.names.dropLast }

def name (path : SpelledPath) : String :=
  path.names.getLast?.getD ""

/-- The name's end from its last dot on, unless the dot begins or ends the name. -/
def extension (path : SpelledPath) : String :=
  let reversed := path.name.toList.reverse
  let after := reversed.takeWhile (· ≠ '.')
  let before := (reversed.dropWhile (· ≠ '.')).drop 1
  if after.isEmpty || before.isEmpty || !reversed.contains '.' then ""
  else String.ofList ('.' :: after.reverse)

/-- Whether a component holds the character that no file name may hold. -/
def hasNul (path : SpelledPath) : Bool :=
  path.names.any (·.toList.contains '\x00')

end SpelledPath

end StoryCatalog
