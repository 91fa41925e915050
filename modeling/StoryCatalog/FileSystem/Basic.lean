import StoryCatalog.FileSystem.Fault
import StoryCatalog.Path.Normal

/-!
# File systems

All that reading sources asks of a file system: whether a path names a file, and what is in it. Both
may fail. Relative paths are seen from `here`.
-/

namespace StoryCatalog

structure FileSystem where
  here : NormalPath
  isFile : String → Except Fault Bool
  readText : String → Except Fault String

namespace FileSystem

/-- The normal form of a path as this file system sees it. -/
def normalize (fs : FileSystem) (path : String) : String :=
  (fs.here.resolveIn path).toText

/-- The normal form of a reference found in the file `base`. -/
def resolve (fs : FileSystem) (base reference : String) : String :=
  (fs.here.resolveBeside base reference).toText

/-- The text of a file, or nothing where no file is. -/
def readFile? (fs : FileSystem) (path : String) : Except Fault (Option String) := do
  if ← fs.isFile path then return some (← fs.readText path)
  return none

/-- The same file system, refusing to look for or to read the paths of the two sets. A path belongs
to a set by its spelling. -/
def refusing (fs : FileSystem) (probe read : String → Bool) : FileSystem where
  here := fs.here
  isFile path := if probe path then .error .probeFailed else fs.isFile path
  readText path := if read path then .error .readFailed else fs.readText path

end FileSystem

end StoryCatalog
