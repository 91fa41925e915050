import StoryCatalog.FileSystem.Memory
import StoryCatalog.Story.Examples
import StoryCatalog.Story.Record

/-!
# Sessions on files in memory

Files are written and questions are asked about them, in any order. A question is answered from the files as
they are when it is asked.
-/

namespace StoryCatalog.Story

/-- What a file system can be asked. -/
inductive Question where
  | isFile (path : String)
  | readText (path : String)
  | docs (path : String)
  | examples (path : String)
  | record (path : String) (id : WideText)
  deriving DecidableEq, Repr

inductive Answer where
  | isFile (result : Except Fault Bool)
  | readText (result : Except Fault String)
  | docs (result : Option ComponentDocs)
  | examples (result : Option StoryExamples)
  | record (result : Option StoryRecord)

def Question.answer (fs : FileSystem) : Question → Answer
  | .isFile path => .isFile (fs.isFile path)
  | .readText path => .readText (fs.readText path)
  | .docs path => .docs (Component.extractDocs fs path)
  | .examples path => .examples (extractExamples fs path)
  | .record path id => .record (extractRecord fs path id)

inductive SessionStep where
  | write (path content : String)
  | ask (question : Question)
  deriving DecidableEq, Repr

/-- The answers to the steps of a session, of which a writing has none. Questions are put to the files as `view`
shows them. -/
def answers (view : FileSystem → FileSystem) : MemoryFiles → List SessionStep → List (Option Answer)
  | _, [] => []
  | files, .write path content :: steps => none :: answers view (files.write path content) steps
  | files, .ask question :: steps => some (question.answer (view files.toFileSystem)) :: answers view files steps

end StoryCatalog.Story
