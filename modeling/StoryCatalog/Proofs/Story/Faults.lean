import StoryCatalog.Proofs.Story.Record

/-!
# What a fault of the file system takes away

A file system that refuses some paths is compared with the one that refuses none. Every step of a reading
fails or gives what it gives without faults, and steps put together keep this. Only the documentation of a
component is read behind a handler of its own, so it alone may be missing from a record that is made.
-/

namespace StoryCatalog

section Outcome

variable {ε α β : Type}

/-- The first computation fails, or ends like the second. -/
def FailsOr (first second : Except ε α) : Prop :=
  (∃ cause, first = .error cause) ∨ first = second

theorem FailsOr.refl (outcome : Except ε α) : FailsOr outcome outcome :=
  .inr rfl

/-- Steps that fail or agree do so one after the other. -/
theorem FailsOr.bind {first second : Except ε α} {next later : α → Except ε β} (steps : FailsOr first second)
    (rest : ∀ value, FailsOr (next value) (later value)) : FailsOr (first >>= next) (second >>= later) := by
  rcases steps with ⟨cause, rfl⟩ | rfl
  · exact .inl ⟨cause, rfl⟩
  · cases first with
    | error cause => exact .inr rfl
    | ok value => exact rest value

theorem FailsOr.eq_of_ok {first second : Except ε α} {value : α} (steps : FailsOr first second)
    (succeeded : first = .ok value) : second = .ok value := by
  rcases steps with ⟨cause, failed⟩ | same
  · rw [failed] at succeeded
    contradiction
  · rw [← same, succeeded]

end Outcome

namespace FileSystem

variable (fs : FileSystem) (probe read : String → Bool)

theorem isFile_refusing (path : String) :
    FailsOr ((fs.refusing probe read).isFile path) (fs.isFile path) := by
  simp only [refusing]
  cases probe path with
  | true => exact .inl ⟨.probeFailed, rfl⟩
  | false => exact .refl _

theorem readText_refusing (path : String) :
    FailsOr ((fs.refusing probe read).readText path) (fs.readText path) := by
  simp only [refusing]
  cases read path with
  | true => exact .inl ⟨.readFailed, rfl⟩
  | false => exact .refl _

theorem readFile?_refusing (path : String) :
    FailsOr ((fs.refusing probe read).readFile? path) (fs.readFile? path) := by
  refine (isFile_refusing fs probe read path).bind fun there => ?_
  cases there with
  | false => exact .refl _
  | true => exact (readText_refusing fs probe read path).bind fun text => .refl _

variable {fs probe read}

theorem isFile_refusing_of_allowed {path : String} (allowed : probe path = false) :
    (fs.refusing probe read).isFile path = fs.isFile path := by
  simp [refusing, allowed]

theorem readFile?_refusing_of_allowed {path : String} (probed : probe path = false)
    (allowed : read path = false) :
    (fs.refusing probe read).readFile? path = fs.readFile? path := by
  simp [readFile?, refusing, probed, allowed]

end FileSystem

namespace Component

theorem extractDocs_refusing (fs : FileSystem) (probe read : String → Bool) (path : String) :
    extractDocs (fs.refusing probe read) path = none ∨
      extractDocs (fs.refusing probe read) path = extractDocs fs path := by
  have steps : FailsOr (readDocs (fs.refusing probe read) path) (readDocs fs path) := by
    refine (fs.readFile?_refusing probe read path).bind fun found => ?_
    cases found with
    | none => exact .refl _
    | some content =>
      refine FailsOr.bind ?_ fun text => .refl _
      unfold templateFile?
      cases (docsOfSource content.toList).templateUrl with
      | none => exact .refl _
      | some url => exact fs.readFile?_refusing probe read _
  unfold extractDocs
  rcases steps with ⟨cause, failed⟩ | same
  · left
    rw [failed]
  · right
    rw [same]

end Component

namespace Story

variable {fs : FileSystem} {probe read : String → Bool} {path id : String}

theorem extractExamples_refusing (fs : FileSystem) (probe read : String → Bool) (path : String) :
    extractExamples (fs.refusing probe read) path = none ∨
      extractExamples (fs.refusing probe read) path = extractExamples fs path := by
  unfold extractExamples
  rcases fs.readFile?_refusing probe read path with ⟨cause, failed⟩ | same
  · left
    rw [failed]
  · right
    rw [same]

theorem firstFile?_refusing (fs : FileSystem) (probe read : String → Bool) (paths : List String) :
    FailsOr (firstFile? (fs.refusing probe read) paths) (firstFile? fs paths) := by
  induction paths with
  | nil => exact .refl _
  | cons path paths ih =>
    refine (fs.isFile_refusing probe read path).bind fun there => ?_
    cases there with
    | true => exact .refl _
    | false => exact ih

/-- The documentation that is read despite faults is the whole documentation or none. -/
theorem storyDocs?_refusing {content : List Char} {docs : Option ComponentDocs}
    (documented : storyDocs? (fs.refusing probe read) content path = .ok docs) :
    ∃ full, storyDocs? fs content path = .ok full ∧ (docs = none ∨ docs = full) := by
  obtain ⟨file, searched, rfl⟩ := storyDocs?_eq_ok_iff.mp documented
  have found : firstFile? fs (componentCandidates fs content path) = .ok file :=
    (firstFile?_refusing fs probe read _).eq_of_ok searched
  refine ⟨_, storyDocs?_eq_ok_iff.mpr ⟨file, found, rfl⟩, ?_⟩
  cases file with
  | none => exact .inl rfl
  | some file => exact Component.extractDocs_refusing fs probe read file

/-- A record that is made despite faults is the whole record, save perhaps the documentation. -/
theorem extractRecord_refusing {record : StoryRecord}
    (made : extractRecord (fs.refusing probe read) path id = some record) :
    ∃ full, extractRecord fs path id = some full ∧ (record = { full with docs := none } ∨ record = full) := by
  obtain ⟨content, docs, args, found, documented, valued, rfl⟩ := extractRecord_eq_some_iff.mp made
  obtain ⟨full, documentedFully, kept⟩ := storyDocs?_refusing documented
  have there := (fs.readFile?_refusing probe read path).eq_of_ok found
  refine ⟨_, extractRecord_eq_some_iff.mpr ⟨content, full, args, there, documentedFully, valued, rfl⟩, ?_⟩
  rcases kept with rfl | rfl
  · exact .inl rfl
  · exact .inr rfl

/-! ## Faults that matter -/

/-- The paths that are looked at to find the first file among them. -/
def probedPaths (fs : FileSystem) : List String → List String
  | [] => []
  | path :: rest =>
    match fs.isFile path with
    | .ok true => [path]
    | _ => path :: probedPaths fs rest

theorem firstFile?_refusing_of_allowed {paths : List String}
    (allowed : ∀ path ∈ probedPaths fs paths, probe path = false) :
    firstFile? (fs.refusing probe read) paths = firstFile? fs paths := by
  induction paths with
  | nil => rfl
  | cons path paths ih =>
    have first : probe path = false := by
      refine allowed path ?_
      unfold probedPaths
      split <;> exact List.mem_cons_self ..
    rw [firstFile?, firstFile?, FileSystem.isFile_refusing_of_allowed first]
    cases probed : fs.isFile path with
    | error cause => rfl
    | ok there =>
      cases there with
      | true => rfl
      | false =>
        simp only [probedPaths, probed, List.forall_mem_cons] at allowed
        exact ih allowed.2

theorem exists_storyDocs?_of_allowed {content : List Char} {docs : Option ComponentDocs}
    (allowed : ∀ candidate ∈ probedPaths fs (componentCandidates fs content path), probe candidate = false)
    (documented : storyDocs? fs content path = .ok docs) :
    ∃ kept, storyDocs? (fs.refusing probe read) content path = .ok kept := by
  obtain ⟨file, searched, -⟩ := storyDocs?_eq_ok_iff.mp documented
  have again : firstFile? (fs.refusing probe read) (componentCandidates fs content path) = .ok file := by
    rw [firstFile?_refusing_of_allowed allowed, searched]
  exact ⟨_, storyDocs?_eq_ok_iff.mpr ⟨file, again, rfl⟩⟩

/-- Where the story file and the search for its component meet no fault, the record is made. -/
theorem extractRecord_refusing_ne_none (probed : probe path = false) (allowed : read path = false)
    (searched : ∀ content, fs.readFile? path = .ok (some content) →
      ∀ candidate ∈ probedPaths fs (componentCandidates fs content.toList path), probe candidate = false)
    {full : StoryRecord} (made : extractRecord fs path id = some full) :
    extractRecord (fs.refusing probe read) path id ≠ none := by
  obtain ⟨content, docs, args, found, documented, valued, -⟩ := extractRecord_eq_some_iff.mp made
  obtain ⟨kept, documentedAgain⟩ := exists_storyDocs?_of_allowed (searched content found) documented
  have there : (fs.refusing probe read).readFile? path = .ok (some content) := by
    rw [FileSystem.readFile?_refusing_of_allowed probed allowed, found]
  rw [extractRecord_eq_some_iff.mpr ⟨content, kept, args, there, documentedAgain, valued, rfl⟩]
  exact Option.some_ne_none _

/-- Over files in memory a fault takes a reading away as a whole, or the documentation out of a record, and
changes nothing else; none leaves a reading as a fault. A record is lost only to a fault at the story file
itself or in the search for its component, which ends with the first file that is there. -/
theorem faults_only_remove (files : MemoryFiles) (probe read : String → Bool) (path id : String) :
    (Component.extractDocs (files.toFileSystem.refusing probe read) path = none ∨
      Component.extractDocs (files.toFileSystem.refusing probe read) path =
        Component.extractDocs files.toFileSystem path) ∧
    (extractExamples (files.toFileSystem.refusing probe read) path = none ∨
      extractExamples (files.toFileSystem.refusing probe read) path =
        extractExamples files.toFileSystem path) ∧
    (extractRecord (files.toFileSystem.refusing probe read) path id = none ∨
      ∃ record full, extractRecord (files.toFileSystem.refusing probe read) path id = some record ∧
        extractRecord files.toFileSystem path id = some full ∧
          (record = { full with docs := none } ∨ record = full)) ∧
    (probe path = false → read path = false →
      (∀ content, files.get? path = some content →
        ∀ candidate ∈ probedPaths files.toFileSystem
          (componentCandidates files.toFileSystem content.toList path),
          probe candidate = false) →
      extractRecord (files.toFileSystem.refusing probe read) path id = none →
        extractRecord files.toFileSystem path id = none) := by
  refine ⟨Component.extractDocs_refusing .., extractExamples_refusing .., ?_, ?_⟩
  · cases made : extractRecord (files.toFileSystem.refusing probe read) path id with
    | none => exact .inl rfl
    | some record =>
      obtain ⟨full, whole, kept⟩ := extractRecord_refusing made
      exact .inr ⟨record, full, rfl, whole, kept⟩
  · intro probed allowed searched lost
    cases made : extractRecord files.toFileSystem path id with
    | none => rfl
    | some full =>
      refine absurd lost (extractRecord_refusing_ne_none probed allowed (fun content found => ?_) made)
      rw [MemoryFiles.readFile?, Except.ok.injEq] at found
      exact searched content found

/-- A story file and the file of its component. -/
def buttonFiles : MemoryFiles :=
  .ofList [("/a.stories.ts",
    "import \x7b Button \x7d from './button';\nexport default \x7b component: Button \x7d;\n"),
      ("/button.ts", "")]

/-- Neither a probe after the first file there nor the reading of that file costs the record. -/
theorem record_despite_faults :
    extractRecord (buttonFiles.toFileSystem.refusing (· == "/button.tsx") (· == "/button.ts"))
      "/a.stories.ts" "a--primary" ≠ none := by
  intro lost
  have searched : ∀ content, buttonFiles.get? "/a.stories.ts" = some content →
      ∀ candidate ∈ probedPaths buttonFiles.toFileSystem
        (componentCandidates buttonFiles.toFileSystem content.toList "/a.stories.ts"),
        (candidate == "/button.tsx") = false := by
    have only : ∀ content ∈ buttonFiles.get? "/a.stories.ts",
        ∀ candidate ∈ probedPaths buttonFiles.toFileSystem
          (componentCandidates buttonFiles.toFileSystem content.toList "/a.stories.ts"),
          (candidate == "/button.tsx") = false := by decide +kernel
    exact only
  have whole := (faults_only_remove buttonFiles (· == "/button.tsx") (· == "/button.ts") "/a.stories.ts"
    "a--primary").2.2.2 (by decide) (by decide) searched lost
  have made : (extractRecord buttonFiles.toFileSystem "/a.stories.ts" "a--primary").isSome = true := by
    decide +kernel
  rw [whole] at made
  exact Bool.false_ne_true made

end Story

end StoryCatalog
