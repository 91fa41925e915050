import StoryCatalog.Text.Blank
import StoryCatalog.Text.Scan

/-!
# Routes

What a path asks of the service. A kind and a story's id are one segment of the path each; a path with
slashes after it that it should not have is sent to the one without.
-/

namespace StoryCatalog

open Text

inductive Route where
  | health
  | overview
  | stories
  | storiesOfKind (kind : String)
  | story (id : String)
  | docs (id : String)
  deriving DecidableEq, Repr

namespace Route

/-- The routes without a variable part. A line feed at their end does not count. -/
def fixed : List (String × Route) :=
  [("/health", .health), ("/api", .overview), ("/api/stories", .stories)]

/-- The routes whose last segment says what is asked for. -/
def segmented : List (String × (String → Route)) :=
  [("/api/stories/kind/", .storiesOfKind), ("/api/stories/", .story), ("/api/docs/", .docs)]

def isFixed (spelling : String) (path : List Char) : Bool :=
  path = spelling.toList || path = spelling.toList ++ ['\n']

/-- The last segment of a path that starts this way; it is not empty. -/
def segment? (start : String) (path : List Char) : Option String :=
  match dropWord? start.toList path with
  | none | some [] => none
  | some segment => if segment.contains '/' then none else some (String.ofList segment)

def ofChars? (path : List Char) : Option Route :=
  match fixed.find? fun (spelling, _) => isFixed spelling path with
  | some (_, route) => some route
  | none => segmented.findSome? fun (start, route) => (segment? start path).map route

def ofPath? (path : String) : Option Route :=
  ofChars? path.toList

/-- Whether a path that is no route becomes one without the slashes at its end. -/
def isRedirected (path : String) : Bool :=
  path.toList.getLast? = some '/' && path ≠ "/" &&
    (ofChars? (dropEnd (· = '/') path.toList)).isSome

end Route

end StoryCatalog
