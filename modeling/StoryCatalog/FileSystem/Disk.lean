import StoryCatalog.FileSystem.Basic
import StoryCatalog.Path.Wide

/-!
# Files on a disk

A tree of directories and files, walked name by name: to leave a directory by `..` one must have
been able to enter it. Looking never fails for a path that leads nowhere; it fails only for names
that no directory can hold. All names in the tree are texts; one that holds halves of surrogate pairs leads to
the entry with the same bytes. Texts are decoded strictly and their line ends become line feeds.
-/

namespace StoryCatalog

open Text

inductive DiskEntry where
  | directory
  | file (bytes : List UInt8)
  deriving DecidableEq, Repr

/-- The entries by their names from the root on, the latest writing first. The root is always there. -/
structure Disk where
  entries : List (List String × DiskEntry) := []
  deriving DecidableEq, Repr

/-- Why a walk did not arrive. -/
inductive Obstacle where
  | missing
  | notDirectory
  | nameTooLong
  deriving DecidableEq, Repr

def Obstacle.at (path : WideText) : Obstacle → Fault
  | .missing => .missing path
  | .notDirectory => .notDirectory path
  | .nameTooLong => .nameTooLong path

/-- The most bytes a name may have. -/
def nameLimit : Nat := 255

/-- The most bytes a whole path may have. -/
def pathLimit : Nat := 4095

namespace Disk

def find? (disk : Disk) (names : List String) : Option DiskEntry :=
  if names = [] then some .directory else disk.entries.lookup names

/-- The place that `names` lead to from the directory `here`, and what is there. -/
def walk (disk : Disk) : List String → List WideText → Except Obstacle (List String × DiskEntry)
  | here, [] => .ok (here, .directory)
  | here, name :: rest =>
    if name = ".." then disk.walk here.dropLast rest
    else if nameLimit < name.byteCount then .error .nameTooLong
    else
      match name.fileName? with
      | none => .error .missing
      | some name =>
        match disk.find? (here ++ [name]) with
        | none => .error .missing
        | some .directory => disk.walk (here ++ [name]) rest
        | some (.file bytes) =>
          if rest.isEmpty then .ok (here ++ [name], .file bytes) else .error .notDirectory

def put (disk : Disk) (names : List String) (entry : DiskEntry) : Disk :=
  ⟨(names, entry) :: disk.entries⟩

/-- The directories that lead to a place, the place itself among them. -/
def addDirectories (disk : Disk) (names : List String) : Disk :=
  ((List.range names.length).map fun n => names.take (n + 1)).foldl (fun disk names =>
    match disk.find? names with
    | some _ => disk
    | none => disk.put names .directory) disk

/-- A file at a place, with the directories that lead there. -/
def addFile (disk : Disk) (names : List String) (bytes : List UInt8) : Disk :=
  (disk.addDirectories names.dropLast).put names (.file bytes)

end Disk

/-- A disk as a program sees it that runs in the directory `here`, with the home directory `home`. -/
structure Machine where
  disk : Disk := {}
  here : NormalPath
  home : String
  deriving DecidableEq, Repr

/-- Line ends of all kinds as line feeds. -/
def unifyLineEnds : List Char → List Char
  | [] => []
  | '\r' :: '\n' :: rest => '\n' :: unifyLineEnds rest
  | '\r' :: rest => '\n' :: unifyLineEnds rest
  | c :: rest => c :: unifyLineEnds rest

namespace Machine

/-- The place a path leads to, if it does not fail on the way. A path that is no file's, for a nul or for a
half that stands for no byte, leads nowhere. -/
def locate (machine : Machine) (path : WidePath) : Except Fault (List String × DiskEntry) :=
  match pathFault? path.toText with
  | some error => .error (.unencodable error)
  | none =>
    if path.hasNul then .error .nulInName
    else if pathLimit < path.toText.byteCount then .error (.nameTooLong path.toText)
    else
      let start := if path.root = .relative then machine.here.names else []
      (machine.disk.walk start path.names).mapError (Obstacle.at path.toText)

/-- What a path leads to. Only a name that is too long makes looking fail. -/
def entry? (machine : Machine) (path : WidePath) : Except Fault (Option DiskEntry) :=
  match machine.locate path with
  | .ok (_, entry) => .ok (some entry)
  | .error (.nameTooLong path) => .error (.nameTooLong path)
  | .error _ => .ok none

def exists? (machine : Machine) (path : WidePath) : Except Fault Bool :=
  (machine.entry? path).map (·.isSome)

def isFile? (machine : Machine) (path : WidePath) : Except Fault Bool :=
  (machine.entry? path).map fun
    | some (.file _) => true
    | _ => false

def isDirectory? (machine : Machine) (path : WidePath) : Except Fault Bool :=
  (machine.entry? path).map fun
    | some .directory => true
    | _ => false

def readBytes (machine : Machine) (path : WidePath) : Except Fault (List UInt8) := do
  match ← machine.locate path with
  | (_, .file bytes) => return bytes
  | (_, .directory) => throw (.isDirectory path.toText)

def readText (machine : Machine) (path : WidePath) : Except Fault String := do
  match decodeUtf8 (← machine.readBytes path) with
  | .ok text => return String.ofList (unifyLineEnds text)
  | .error error => throw (.undecodable error)

def toFileSystem (machine : Machine) : FileSystem where
  here := machine.here
  isFile path := machine.isFile? (SpelledPath.ofText path)
  readText path := machine.readText (SpelledPath.ofText path)

/-- The path with the home directory in place of a `~` that is its first component. No other user's
home is known. -/
def expandHome (machine : Machine) (path : SpelledPath) : Except Fault SpelledPath :=
  match path.root, path.names with
  | .relative, first :: rest =>
    if first = "~" then .ok ((SpelledPath.ofText machine.home).join ⟨.relative, rest⟩)
    else if first.toList.head? = some '~' then
      if first.toList.contains '\x00' then .error .nulInName else .error .noHome
    else .ok path
  | _, _ => .ok path

/-- The absolute path without `..` components, found from the spelling: there are no links. -/
def resolve (machine : Machine) (path : SpelledPath) : Except Fault SpelledPath :=
  if path.hasNul then .error .nulInName
  else
    let start := if path.root = .relative then machine.here.names else []
    .ok ⟨.single, NormalPath.follow start path.names⟩

/-- The names that further ones lead to from the root, each looked up on the way unless it goes back. -/
def followAll (reached : List WideText) : List WideText → Except Fault (List WideText)
  | [] => .ok reached
  | name :: rest =>
    if name = ".." then followAll reached.dropLast rest
    else
      let next : WidePath := ⟨.single, reached ++ [name]⟩
      match pathFault? next.toText with
      | some error => .error (.unencodable error)
      | none => if next.hasNul then .error .nulInName else followAll next.names rest

/-- The absolute path, likewise, that a text of a file in the directory `base` names. -/
def resolveFrom (machine : Machine) (base : SpelledPath) : WideText → Except Fault WidePath
  | .whole text => WidePath.ofSpelled <$> machine.resolve (base.joinText text)
  | .halved front half rest => do
    let path := WidePath.joinText base (.halved front half rest)
    let start := if path.root = .relative then machine.here.names else []
    return ⟨.single, ← followAll (start.map .whole) path.names⟩

/-- Puts an entry where nothing is yet, in a directory that is there. -/
def create (machine : Machine) (path : SpelledPath) (entry : DiskEntry) : Except Fault Machine :=
  match machine.locate path.parent with
  | .ok (names, .directory) =>
    .ok { machine with disk := machine.disk.put (names ++ [path.name]) entry }
  | _ => .error (.missing path.toText)

/-- A new directory at a path whose parent is there. -/
def makeDirectory (machine : Machine) (path : SpelledPath) : Except Fault Machine :=
  match machine.locate path with
  | .ok _ => .error (.alreadyThere path.toText)
  | .error (.missing _) => machine.create path .directory
  | .error fault => .error fault

/-- A directory that could not be made is as good as made if it is there. -/
def orThere (machine : Machine) (path : SpelledPath) (fault : Fault) : Except Fault Machine :=
  if fault = .nulInName then .error fault
  else do if ← machine.isDirectory? path then return machine else throw fault

/-- The directory and the ones that lead to it, made where they are missing. Each round goes one
component up, so `fuel` is the count of components. -/
def makeDirectoriesWithin : Nat → Machine → SpelledPath → Except Fault Machine
  | 0, machine, path => machine.makeDirectory path
  | fuel + 1, machine, path =>
    match machine.makeDirectory path with
    | .ok made => .ok made
    | .error (.missing _) => do
      let machine ← makeDirectoriesWithin fuel machine path.parent
      match machine.makeDirectory path with
      | .ok made => return made
      | .error fault => machine.orThere path fault
    | .error fault => machine.orThere path fault

def makeDirectories (machine : Machine) (path : SpelledPath) : Except Fault Machine :=
  makeDirectoriesWithin (path.names.length + 1) machine path

/-- Bytes at the end of a file, which is made if it is missing. -/
def append (machine : Machine) (path : SpelledPath) (bytes : List UInt8) : Except Fault Machine :=
  match machine.locate path with
  | .ok (_, .directory) => .error (.isDirectory path.toText)
  | .ok (names, .file old) =>
    .ok { machine with disk := machine.disk.put names (.file (old ++ bytes)) }
  | .error (.missing _) => machine.create path (.file bytes)
  | .error fault => .error fault

end Machine

end StoryCatalog
