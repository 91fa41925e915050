import StoryCatalog.Proofs.Except
import StoryCatalog.Proofs.FileSystem.Memory
import StoryCatalog.Story.Examples
import StoryCatalog.Story.Record

/-!
# What makes a story's examples and its record

Examples are there exactly when the file is read. A record needs the file, the search for its component
to end without a fault, and values for all its args; everything else in it follows from the file's text.
-/

namespace StoryCatalog

namespace Story

variable {fs : FileSystem} {path : String} {id : WideText}

theorem extractExamples_eq_some_iff {examples : StoryExamples} :
    extractExamples fs path = some examples ↔
      ∃ content, fs.readFile? path = .ok (some content) ∧ examplesOfSource content.toList = examples := by
  unfold extractExamples
  cases read : fs.readFile? path with
  | error fault => simp
  | ok found => cases found <;> simp

theorem extractExamples_of_read {content : String} (read : fs.readFile? path = .ok (some content)) :
    extractExamples fs path = some (examplesOfSource content.toList) :=
  extractExamples_eq_some_iff.mpr ⟨content, read, rfl⟩

/-- The documentation of the component of a story file, where the file names one. -/
def storyDocs? (fs : FileSystem) (content : List Char) (path : String) :
    Except Fault (Option ComponentDocs) :=
  match componentOf? content with
  | none => pure none
  | some component => componentDocs? fs content component path

/-- The record of a story whose args and documentation are known. -/
def recordWith (fs : FileSystem) (path : String) (id : WideText) (content : List Char) (args : Fields Literal)
    (docs : Option ComponentDocs) : StoryRecord where
  id
  filePath := fs.normalize path
  component := (componentOf? content).map String.ofList
  argTypes := argTypesOf content
  args
  docs

theorem recordOfSource_eq (fs : FileSystem) (path : String) (id : WideText) (content : List Char) :
    recordOfSource fs path id content = (do
      let docs ← storyDocs? fs content path
      let args ← argsOfId content id
      return recordWith fs path id content args docs) := by
  unfold recordOfSource storyDocs? recordWith
  cases componentOf? content <;> rfl

theorem readRecord_eq_some_iff {record : StoryRecord} :
    readRecord fs path id = .ok (some record) ↔
      ∃ content docs args, fs.readFile? path = .ok (some content) ∧
        storyDocs? fs content.toList path = .ok docs ∧ argsOfId content.toList id = .ok args ∧
          recordWith fs path id content.toList args docs = record := by
  simp only [readRecord, bind_eq_ok_iff]
  constructor
  · rintro ⟨found, read, made⟩
    cases found with
    | none => simp at made
    | some content =>
      simp only [recordOfSource_eq, bind_eq_ok_iff, pure_eq_ok_iff, Option.some.injEq] at made
      obtain ⟨_, ⟨docs, documented, args, valued, rfl⟩, rfl⟩ := made
      exact ⟨content, docs, args, read, documented, valued, rfl⟩
  · rintro ⟨content, docs, args, read, documented, valued, rfl⟩
    refine ⟨some content, read, ?_⟩
    simp only [recordOfSource_eq, bind_eq_ok_iff, pure_eq_ok_iff, Option.some.injEq]
    exact ⟨_, ⟨docs, documented, args, valued, rfl⟩, rfl⟩

theorem extractRecord_eq_some_iff {record : StoryRecord} :
    extractRecord fs path id = some record ↔
      ∃ content docs args, fs.readFile? path = .ok (some content) ∧
        storyDocs? fs content.toList path = .ok docs ∧ argsOfId content.toList id = .ok args ∧
          recordWith fs path id content.toList args docs = record := by
  rw [← readRecord_eq_some_iff]
  unfold extractRecord
  cases readRecord fs path id <;> simp

theorem argsOfId_eq_ok_iff {id : String} {content name : List Char} {args : Fields Literal}
    (named : exportName? id.toList = some name) :
    argsOfId content id = .ok args ↔ argsOf content name = .ok args := by
  unfold argsOfId
  rw [exportNameOf?_whole, named]
  cases read : argsOf content name <;> simp [read]

/-! ## The component's file -/

/-- The files that the component of a story file may be in. -/
def componentCandidates (fs : FileSystem) (content : List Char) (path : String) : List String :=
  match componentOf? content with
  | none => []
  | some component =>
    match moduleOf? component content with
    | none => []
    | some module => candidates (fs.resolve path (String.ofList module))

theorem storyDocs?_eq (fs : FileSystem) (content : List Char) (path : String) :
    storyDocs? fs content path = (do
      let file ← firstFile? fs (componentCandidates fs content path)
      return file.bind (Component.extractDocs fs)) := by
  unfold storyDocs? componentCandidates
  cases componentOf? content with
  | none => rfl
  | some component =>
    simp only [componentDocs?, componentFile?]
    cases moduleOf? component content with
    | none => rfl
    | some module =>
      refine congrArg _ (funext fun file => ?_)
      cases file <;> rfl

/-- The documentation of a story's component is read from the first file among its candidates. -/
theorem storyDocs?_eq_ok_iff {content : List Char} {docs : Option ComponentDocs} :
    storyDocs? fs content path = .ok docs ↔
      ∃ file, firstFile? fs (componentCandidates fs content path) = .ok file ∧
        file.bind (Component.extractDocs fs) = docs := by
  simp only [storyDocs?_eq, bind_eq_ok_iff, pure_eq_ok_iff]

/-! ## Files in memory -/

/-- Where every path can be looked for, the first file there is found. -/
theorem firstFile?_of_isFile {there : String → Bool} (faultless : ∀ path, fs.isFile path = .ok (there path))
    (paths : List String) : firstFile? fs paths = .ok (paths.find? there) := by
  induction paths with
  | nil => rfl
  | cons path paths ih =>
    rw [firstFile?, faultless, List.find?_cons]
    cases there path with
    | true => rfl
    | false => exact ih

theorem firstFile?_memory (files : MemoryFiles) (paths : List String) :
    firstFile? files.toFileSystem paths = .ok (paths.find? fun path => (files.get? path).isSome) :=
  firstFile?_of_isFile (fun _ => rfl) paths

/-- The file in memory that the component of a story file is in. -/
def componentSource? (files : MemoryFiles) (content : List Char) (path : String) : Option String :=
  (componentCandidates files.toFileSystem content path).find? fun candidate => (files.get? candidate).isSome

/-- Looking for a component among files in memory never fails. -/
theorem storyDocs?_memory (files : MemoryFiles) (content : List Char) (path : String) :
    storyDocs? files.toFileSystem content path =
      .ok ((componentSource? files content path).bind (Component.extractDocs files.toFileSystem)) :=
  storyDocs?_eq_ok_iff.mpr ⟨_, firstFile?_memory files _, rfl⟩

end Story

end StoryCatalog
