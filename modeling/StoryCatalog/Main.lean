import StoryCatalog.CommandLine.Launch
import StoryCatalog.Json.Writer
import StoryCatalog.Log.Clock

/-!
# The program

Runs the command line on the files that are there. All that this layer does is to fetch what the launch
looks at and to put out what it has written. There is no network here: the story server counts as not
reachable, and requests are read from the standard input, a method and a path a line.
-/

open StoryCatalog CommandLine

namespace StoryCatalog.Program

/-- Directories that no story is in. -/
def skipped : List String := [".git", "node_modules"]

/-- Adds what is at a path, and everything below it; nothing, if nothing is there. -/
partial def addTree (disk : Disk) (text : String) : IO Disk := do
  let names := NormalPath.follow [] (NormalPath.components text.toList)
  match ← (IO.FS.realPath text).toBaseIO with
  | .error _ => return disk
  | .ok path =>
    if ← path.isDir then
      let mut disk := disk.addDirectories names
      for entry in ← path.readDir do
        if !skipped.contains entry.fileName then
          disk ← addTree disk (text ++ "/" ++ entry.fileName)
      return disk
    else return disk.addFile names (← IO.FS.readBinFile path).toList

/-- The files that the arguments may lead to: those below the current directory, below the home
directory's settings, and below each argument that is a path. -/
def diskFor (here home : String) (arguments : List String) : IO Disk := do
  let mut disk ← addTree {} here
  for argument in arguments do
    let text :=
      if argument.startsWith "/" then argument
      else if argument.startsWith "~/" then home ++ "/" ++ argument.drop 2
      else here ++ "/" ++ argument
    disk ← addTree disk (NormalPath.root.resolveIn text).toText
  return disk

/-- The time now, as a file bears it that is made now. -/
def now : IO String := do
  let (_, path) ← IO.FS.createTempFile
  let time := (← path.metadata).modified
  IO.FS.removeFile path
  return clockText (time.sec * 1000 + time.nsec.toNat / 1000000)

/-- Puts the log file where the launch has it. -/
def writeLog (session : Session) : IO Unit := do
  match session.logFile with
  | none => return
  | some path =>
    IO.FS.createDirAll path.parent.toText
    match session.machine.readBytes path with
    | .ok bytes => IO.FS.writeBinFile path.toText ⟨bytes.toArray⟩
    | .error _ => return

/-- Answers requests until there are no more. -/
partial def serve (service : Service) (input output : IO.FS.Stream) : IO Unit := do
  let line ← input.getLine
  if line.isEmpty then return
  let words := line.trimAscii.toString.splitOn " "
  let (response, _) := service.answer (words.headD "") (" ".intercalate (words.drop 1))
  let body := (response.body.map fun json => String.ofList json.write).getD ""
  output.putStrLn (toString response.status ++ " " ++ body)
  output.flush
  serve service input output

end StoryCatalog.Program

def main (arguments : List String) : IO UInt32 := do
  let here := (← IO.currentDir).toString
  let home := (← IO.getEnv "HOME").getD "/"
  let machine : Machine :=
    { disk := ← Program.diskFor here home arguments, here := NormalPath.root.resolveIn here, home }
  let (ending, session) := launch machine Depths.usual (← Program.now) arguments (.connection (.unopened "")) none
  Program.writeLog session
  IO.print session.output
  IO.eprint session.errors
  match ending with
  | .error (.exit status) => return status.toUInt32
  | .error (.fault error) => do
    IO.eprintln error.message
    return 1
  | .ok () =>
    match session.served.bind (·.service) with
    | some service => Program.serve service (← IO.getStdin) (← IO.getStdout)
    | none => return 1
    return 0
