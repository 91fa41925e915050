import StoryCatalog.FileSystem.Basic

/-!
# Files in memory

Texts by the normal form of their path, the latest writing first. Two spellings of one path name one
file.
-/

namespace StoryCatalog

structure MemoryFiles where
  written : List (NormalPath × String) := []
  deriving DecidableEq, Repr

namespace MemoryFiles

def write (files : MemoryFiles) (path content : String) : MemoryFiles :=
  ⟨(NormalPath.root.resolveIn path, content) :: files.written⟩

def ofList (pairs : List (String × String)) : MemoryFiles :=
  pairs.foldl (fun files (path, content) => files.write path content) {}

def get? (files : MemoryFiles) (path : String) : Option String :=
  files.written.lookup (NormalPath.root.resolveIn path)

def toFileSystem (files : MemoryFiles) : FileSystem where
  here := .root
  isFile path := .ok (files.get? path).isSome
  readText path :=
    match files.get? path with
    | some content => .ok content
    | none => .error (.neverWritten path)

end MemoryFiles

end StoryCatalog
