import StoryCatalog.Proofs.FileSystem.Tree
import StoryCatalog.Proofs.Story.Faults
import StoryCatalog.Proofs.Story.Sources

/-!
# The paths that a reading hands over

A reading asks its file system about some paths, of which the later ones depend on what it was told of the
earlier ones. Two file systems that say the same of these paths give the same, and so does one tree of files in
memory and on a disk. What the file systems say of other paths does not matter, and neither does the place that
they see relative paths from.
-/

namespace StoryCatalog

variable {fs other : FileSystem} {files : MemoryFiles} {path : String}

theorem MemoryFiles.Normalized.exists_toText (normalized : files.Normalized path) :
    ∃ normal : NormalPath, normal.Canonical ∧ normal.toText = path :=
  ⟨_, NormalPath.canonical_resolveIn NormalPath.canonical_root path, normalized⟩

namespace FileSystem

theorem normalize_of_normalized (fs : FileSystem) (normalized : files.Normalized path) :
    fs.normalize path = path := by
  obtain ⟨normal, canonical, rfl⟩ := normalized.exists_toText
  rw [normalize, NormalPath.resolveIn_toText _ canonical]

/-- A reference beside a path in normal form stands for the same wherever the program runs. -/
theorem resolve_of_normalized (fs other : FileSystem) (normalized : files.Normalized path) (reference : String) :
    fs.resolve path reference = other.resolve path reference := by
  obtain ⟨normal, canonical, rfl⟩ := normalized.exists_toText
  unfold resolve NormalPath.resolveBeside
  rw [NormalPath.resolveIn_toText _ canonical, NormalPath.resolveIn_toText _ canonical]

end FileSystem

namespace Component

/-- The template that a component's source refers to, where the source can be read. -/
def templatePath? (fs : FileSystem) (path : String) : Option String :=
  match fs.readFile? path with
  | .ok (some content) => (docsOfSource content.toList).templateUrl.map (fs.resolve path)
  | _ => none

/-- The paths that are handed over for the documentation of a component. -/
def docsPaths (fs : FileSystem) (path : String) : List String :=
  path :: (templatePath? fs path).toList

theorem normalized_of_mem_docsPaths (normalized : files.Normalized path) {handed : String}
    (listed : handed ∈ docsPaths fs path) : files.Normalized handed := by
  rcases List.mem_cons.mp listed with rfl | template
  · exact normalized
  · unfold templatePath? at template
    split at template
    · obtain ⟨url, -, rfl⟩ := Option.map_eq_some_iff.mp (Option.mem_toList.mp template)
      rw [fs.resolve_of_normalized files.toFileSystem normalized]
      exact files.normalized_resolve path url
    · contradiction

theorem extractDocs_alike (normalized : files.Normalized path)
    (alike : ∀ handed ∈ docsPaths fs path, fs.Alike other handed) :
    extractDocs fs path = extractDocs other path := by
  rw [docsPaths, List.forall_mem_cons] at alike
  obtain ⟨here, template⟩ := alike
  unfold extractDocs readDocs
  rw [← here.readFile?]
  cases read : fs.readFile? path with
  | error fault => rfl
  | ok found =>
    cases found with
    | none => rfl
    | some content =>
      have same : templateFile? fs path (docsOfSource content.toList) =
          templateFile? other path (docsOfSource content.toList) := by
        unfold templateFile?
        cases referred : (docsOfSource content.toList).templateUrl with
        | none => rfl
        | some url =>
          -- The template is handed over only because both have read the same source.
          have handed : fs.resolve path url ∈ (templatePath? fs path).toList := by
            simp [templatePath?, read, referred]
          dsimp only
          rw [(template _ handed).readFile?, fs.resolve_of_normalized other normalized]
      simp only [bind, Except.bind, same]

end Component

namespace Story

variable {id : String}

/-! ## Examples -/

theorem extractExamples_alike (alike : fs.Alike other path) :
    extractExamples fs path = extractExamples other path := by
  unfold extractExamples
  rw [alike.readFile?]

/-! ## Records -/

theorem mem_of_mem_probedPaths {paths : List String} {handed : String} (listed : handed ∈ probedPaths fs paths) :
    handed ∈ paths := by
  induction paths with
  | nil => exact listed
  | cons path paths ih =>
    unfold probedPaths at listed
    split at listed
    · exact List.mem_cons.mpr (.inl (List.mem_singleton.mp listed))
    · exact List.mem_cons.mpr ((List.mem_cons.mp listed).imp_right ih)

theorem mem_of_firstFile?_eq {paths : List String} {file : String}
    (found : firstFile? fs paths = .ok (some file)) : file ∈ paths := by
  induction paths with
  | nil => simp [firstFile?] at found
  | cons path paths ih =>
    obtain ⟨there, -, found⟩ := bind_eq_ok_iff.mp found
    cases there with
    | true =>
      rw [if_pos rfl, pure_eq_ok_iff, Option.some.injEq] at found
      exact found ▸ List.mem_cons_self ..
    | false => exact List.mem_cons_of_mem _ (ih found)

theorem firstFile?_alike {paths : List String} (alike : ∀ handed ∈ probedPaths fs paths, fs.Alike other handed) :
    firstFile? fs paths = firstFile? other paths := by
  induction paths with
  | nil => rfl
  | cons path paths ih =>
    have first : fs.Alike other path := by
      refine alike path ?_
      unfold probedPaths
      split <;> exact List.mem_cons_self ..
    rw [firstFile?, firstFile?, ← first.isFile]
    cases probed : fs.isFile path with
    | error cause => rfl
    | ok there =>
      cases there with
      | true => rfl
      | false =>
        simp only [probedPaths, probed, List.forall_mem_cons] at alike
        exact ih alike.2

/-- The paths that are handed over for the component of a story file. -/
def componentPaths (fs : FileSystem) (content : List Char) (path : String) : List String :=
  probedPaths fs (componentCandidates fs content path) ++
    match firstFile? fs (componentCandidates fs content path) with
    | .ok (some file) => Component.docsPaths fs file
    | _ => []

/-- The paths that are handed over for the record of a story. -/
def recordPaths (fs : FileSystem) (path : String) : List String :=
  path :: match fs.readFile? path with
    | .ok (some content) => componentPaths fs content.toList path
    | _ => []

theorem componentCandidates_of_normalized (fs other : FileSystem) (normalized : files.Normalized path)
    (content : List Char) : componentCandidates fs content path = componentCandidates other content path := by
  unfold componentCandidates
  simp only [fs.resolve_of_normalized other normalized]

theorem normalized_of_mem_candidates_of {content : List Char} (normalized : files.Normalized path)
    {candidate : String} (listed : candidate ∈ componentCandidates fs content path) :
    files.Normalized candidate := by
  rw [componentCandidates_of_normalized fs files.toFileSystem normalized] at listed
  exact normalized_of_mem_componentCandidates listed

theorem normalized_of_mem_recordPaths (normalized : files.Normalized path) {handed : String}
    (listed : handed ∈ recordPaths fs path) : files.Normalized handed := by
  rcases List.mem_cons.mp listed with rfl | listed
  · exact normalized
  · split at listed
    · rcases List.mem_append.mp listed with probed | documented
      · exact normalized_of_mem_candidates_of normalized (mem_of_mem_probedPaths probed)
      · split at documented
        · rename_i file found
          have candidate := normalized_of_mem_candidates_of normalized (mem_of_firstFile?_eq found)
          exact Component.normalized_of_mem_docsPaths candidate documented
        · contradiction
    · contradiction

theorem storyDocs?_alike {content : List Char} (normalized : files.Normalized path)
    (alike : ∀ handed ∈ componentPaths fs content path, fs.Alike other handed) :
    storyDocs? fs content path = storyDocs? other content path := by
  rw [componentPaths, List.forall_mem_append] at alike
  obtain ⟨probed, documented⟩ := alike
  rw [storyDocs?_eq, storyDocs?_eq, componentCandidates_of_normalized other fs normalized,
    ← firstFile?_alike probed]
  cases found : firstFile? fs (componentCandidates fs content path) with
  | error fault => rfl
  | ok file =>
    cases file with
    | none => rfl
    | some file =>
      rw [found] at documented
      have candidate := normalized_of_mem_candidates_of normalized (mem_of_firstFile?_eq found)
      have same := Component.extractDocs_alike candidate documented
      simp only [bind, Except.bind, Option.bind_some, same]

theorem extractRecord_alike (normalized : files.Normalized path)
    (alike : ∀ handed ∈ recordPaths fs path, fs.Alike other handed) :
    extractRecord fs path id = extractRecord other path id := by
  rw [recordPaths, List.forall_mem_cons] at alike
  obtain ⟨here, component⟩ := alike
  unfold extractRecord readRecord
  rw [← here.readFile?]
  cases read : fs.readFile? path with
  | error fault => rfl
  | ok found =>
    cases found with
    | none => rfl
    | some content =>
      rw [read] at component
      have documented := storyDocs?_alike normalized component
      have named : fs.normalize path = other.normalize path := by
        rw [fs.normalize_of_normalized normalized, other.normalize_of_normalized normalized]
      simp only [bind, Except.bind, recordOfSource_eq, recordWith, documented, named]

/-! ## One tree in two places -/

/-- A tree of files in memory stands for the same tree on a disk: where the disk could hold all the paths that a
reading of a path in normal form hands over, the reading gives the same from memory and from the disk. The paths
may be those of either reading. -/
theorem memory_stands_for_disk (tree : SourceTree) {machine : Machine} (holds : machine.disk.Holds tree.files)
    {fs : FileSystem}
    (either : fs = (MemoryFiles.ofFiles tree.files).toFileSystem ∨ fs = machine.toFileSystem) {path : String}
    (normalized : (MemoryFiles.ofFiles tree.files).Normalized path) (id : String) :
    ((∀ handed ∈ Component.docsPaths fs path, Ordinary handed) →
      Component.extractDocs machine.toFileSystem path =
        Component.extractDocs (MemoryFiles.ofFiles tree.files).toFileSystem path) ∧
    (Ordinary path →
      extractExamples machine.toFileSystem path =
        extractExamples (MemoryFiles.ofFiles tree.files).toFileSystem path) ∧
    ((∀ handed ∈ recordPaths fs path, Ordinary handed) →
      extractRecord machine.toFileSystem path id =
        extractRecord (MemoryFiles.ofFiles tree.files).toFileSystem path id) := by
  have same {place : String} (normal : (MemoryFiles.ofFiles tree.files).Normalized place)
      (ordinary : Ordinary place) :
      (MemoryFiles.ofFiles tree.files).toFileSystem.Alike machine.toFileSystem place := by
    obtain ⟨normal, canonical, rfl⟩ := normal.exists_toText
    exact tree.alike holds canonical ordinary
  refine ⟨fun ordinary => ?_, fun ordinary => (extractExamples_alike (same normalized ordinary)).symm,
    fun ordinary => ?_⟩
  · have alike (handed : String) (listed : handed ∈ Component.docsPaths fs path) :=
      same (Component.normalized_of_mem_docsPaths normalized listed) (ordinary handed listed)
    rcases either with rfl | rfl
    · exact (Component.extractDocs_alike normalized alike).symm
    · exact Component.extractDocs_alike normalized fun handed listed => (alike handed listed).symm
  · have alike (handed : String) (listed : handed ∈ recordPaths fs path) :=
      same (normalized_of_mem_recordPaths normalized listed) (ordinary handed listed)
    rcases either with rfl | rfl
    · exact (extractRecord_alike normalized alike).symm
    · exact extractRecord_alike normalized fun handed listed => (alike handed listed).symm

/-- A story beside its component, whose template is not all in one byte for each character. -/
def panelTree : SourceTree where
  files :=
    [{ names := ["ui", "a.stories.ts"]
       names_ne := by decide
       named := by decide +kernel
       bytes := Text.encodeUtf8
         "import \x7b Panel \x7d from './panel';\nexport default \x7b component: Panel \x7d;\n"
       text := "import \x7b Panel \x7d from './panel';\nexport default \x7b component: Panel \x7d;\n"
       decoded := by decide +kernel
       no_return := by decide +kernel },
     { names := ["ui", "panel.ts"]
       names_ne := by decide
       named := by decide +kernel
       bytes := Text.encodeUtf8 "@Component(\x7b templateUrl: '../ui/panel.html' \x7d)"
       text := "@Component(\x7b templateUrl: '../ui/panel.html' \x7d)"
       decoded := by decide +kernel
       no_return := by decide +kernel },
     { names := ["ui", "panel.html"]
       names_ne := by decide
       named := by decide +kernel
       bytes := [0xC3, 0xA9]
       text := "é"
       decoded := by decide +kernel
       no_return := by decide +kernel }]
  apart := by decide +kernel

/-- The disk that holds that tree, seen from a directory that is not there. -/
def panelMachine : Machine where
  disk := .ofFiles panelTree.files
  here := ⟨true, ["away"]⟩
  home := "/away"

theorem panel_from_disk :
    ((extractRecord panelMachine.toFileSystem "/ui/a.stories.ts" "a--docs").bind
      fun record => record.docs.bind fun docs => docs.template) = some "é" ∧
    Component.extractDocs panelMachine.toFileSystem "/ui/panel.ts" =
      Component.extractDocs (MemoryFiles.ofFiles panelTree.files).toFileSystem "/ui/panel.ts" ∧
    extractExamples panelMachine.toFileSystem "/ui/a.stories.ts" =
      extractExamples (MemoryFiles.ofFiles panelTree.files).toFileSystem "/ui/a.stories.ts" := by
  have holds : panelMachine.disk.Holds panelTree.files := Disk.holds_ofFiles panelTree.apart
  have story : (MemoryFiles.ofFiles panelTree.files).Normalized "/ui/a.stories.ts" := by decide +kernel
  have component : (MemoryFiles.ofFiles panelTree.files).Normalized "/ui/panel.ts" := by decide +kernel
  obtain ⟨-, shown, recorded⟩ := memory_stands_for_disk panelTree holds (.inl rfl) story "a--docs"
  obtain ⟨documented, -, -⟩ := memory_stands_for_disk panelTree holds (.inr rfl) component "a--docs"
  refine ⟨?_, documented (by decide +kernel), shown (by decide +kernel)⟩
  rw [recorded (by decide +kernel)]
  decide +kernel

end Story

end StoryCatalog
