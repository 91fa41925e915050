import StoryCatalog.Proofs.Story.Record
import Mathlib.Data.List.Find

/-!
# The files that a reading depends on

What is extracted from files in memory is settled by a few of them: the file asked for, the candidates for
its component, and the template that the component's file refers to. File systems that agree on these give
the same, whatever else they hold, and each path counts by its normal form, not by its spelling.
-/

namespace StoryCatalog

variable {files others : MemoryFiles} {path other : String}

namespace Component

/-- The file that a component's source refers to as its template. -/
def templateSource? (files : MemoryFiles) (path : String) : Option String :=
  (files.get? path).bind fun content =>
    (docsOfSource content.toList).templateUrl.map (files.toFileSystem.resolve path)

/-- The files that the documentation of a component is read from. -/
def docsSources (files : MemoryFiles) (path : String) : List String :=
  files.toFileSystem.normalize path :: (templateSource? files path).toList

theorem extractDocs_memory (files : MemoryFiles) (path : String) :
    extractDocs files.toFileSystem path = (files.get? path).map fun content =>
      ComponentDocs.withTemplate (docsOfSource content.toList)
        ((templateSource? files path).bind files.get?) := by
  unfold extractDocs readDocs templateFile? templateSource?
  rw [MemoryFiles.readFile?]
  cases files.get? path with
  | none => rfl
  | some content =>
    simp only [MemoryFiles.readFile?, bind, Except.bind, Option.bind_some, Option.map_some]
    cases (docsOfSource content.toList).templateUrl <;> rfl

theorem normalized_of_mem_templateSource? {source : String} (found : source ∈ templateSource? files path) :
    files.Normalized source := by
  obtain ⟨content, -, referred⟩ := Option.bind_eq_some_iff.mp found
  obtain ⟨url, -, rfl⟩ := Option.map_eq_some_iff.mp referred
  exact files.normalized_resolve path url

theorem extractDocs_congr (agree : files.AgreesOn others (docsSources files path)) :
    extractDocs others.toFileSystem path = extractDocs files.toFileSystem path := by
  have read : others.get? path = files.get? path := agree.get?_eq (List.mem_cons_self ..)
  have reference : templateSource? others path = templateSource? files path := by
    unfold templateSource?
    rw [read]
    rfl
  rw [extractDocs_memory, extractDocs_memory, read, reference]
  cases found : templateSource? files path with
  | none => rfl
  | some source =>
    have template : files.get? source = others.get? source :=
      agree source (List.mem_cons_of_mem _ (Option.mem_toList.mpr found))
    rw [Option.bind_some, Option.bind_some, template]

theorem extractDocs_spelling
    (same : files.toFileSystem.normalize other = files.toFileSystem.normalize path) :
    extractDocs files.toFileSystem other = extractDocs files.toFileSystem path := by
  have reference : templateSource? files other = templateSource? files path := by
    simp only [templateSource?, files.get?_congr same, funext (files.resolve_congr same)]
  rw [extractDocs_memory, extractDocs_memory, files.get?_congr same, reference]

end Component

namespace Story

variable {id : String}

/-! ## Examples -/

theorem extractExamples_memory (files : MemoryFiles) (path : String) :
    extractExamples files.toFileSystem path =
      (files.get? path).map fun content => examplesOfSource content.toList := by
  unfold extractExamples
  rw [MemoryFiles.readFile?]
  cases files.get? path <;> rfl

/-! ## Records -/

/-- The files that the record of a story is read from: the story file, the candidates for its component, and
the template of the candidate that is there. -/
def recordSources (files : MemoryFiles) (path : String) : List String :=
  files.toFileSystem.normalize path ::
    match files.get? path with
    | none => []
    | some content =>
      componentCandidates files.toFileSystem content.toList path ++
        ((componentSource? files content.toList path).bind (Component.templateSource? files)).toList

theorem extractRecord_memory (files : MemoryFiles) (path id : String) :
    extractRecord files.toFileSystem path id = (files.get? path).bind fun content =>
      (argsOfId content.toList id).toOption.map fun args =>
        recordWith files.toFileSystem path id content.toList args
          ((componentSource? files content.toList path).bind
            (Component.extractDocs files.toFileSystem)) := by
  unfold extractRecord readRecord
  rw [MemoryFiles.readFile?]
  cases files.get? path with
  | none => rfl
  | some content =>
    simp only [recordOfSource_eq, storyDocs?_memory, bind, Except.bind, Option.bind_some]
    cases argsOfId content.toList id <;> rfl

/-- The files that a module may stand for are spelled in normal form where the module is. -/
theorem normalized_of_mem_candidates {module : NormalPath} (canonical : module.Canonical) {candidate : String}
    (member : candidate ∈ candidates module.toText) : files.Normalized candidate := by
  have plain : ∀ extension ∈ extensions, '/' ∉ extension.toList ∧ extension.toList.any (· ≠ '.') = true := by
    decide
  obtain ⟨extension, listed, rfl⟩ := List.mem_map.mp member
  split_ifs
  · exact files.normalized_toText canonical
  · obtain ⟨no_slash, letter⟩ := plain extension listed
    simp only [List.any_eq_true, decide_eq_true_eq] at letter
    obtain ⟨longer, longerCanonical, spelled⟩ := NormalPath.exists_longer canonical no_slash letter
    rw [← spelled]
    exact files.normalized_toText longerCanonical

theorem normalized_of_mem_componentCandidates {content : List Char} {candidate : String}
    (member : candidate ∈ componentCandidates files.toFileSystem content path) : files.Normalized candidate := by
  unfold componentCandidates at member
  split at member
  · contradiction
  · split at member
    · contradiction
    · exact normalized_of_mem_candidates
        (NormalPath.canonical_resolveBeside NormalPath.canonical_root path _) member

theorem componentSource?_congr {content : List Char}
    (agree : files.AgreesOn others (componentCandidates files.toFileSystem content path)) :
    componentSource? others content path = componentSource? files content path := by
  unfold componentSource?
  refine List.find?_congr fun candidate member => ?_
  rw [agree candidate member]

theorem extractRecord_congr (agree : files.AgreesOn others (recordSources files path)) :
    extractRecord others.toFileSystem path id = extractRecord files.toFileSystem path id := by
  have read : others.get? path = files.get? path := agree.get?_eq (List.mem_cons_self ..)
  rw [extractRecord_memory, extractRecord_memory, read]
  cases held : files.get? path with
  | none => rfl
  | some content =>
    simp only [recordSources, held, MemoryFiles.AgreesOn, List.forall_mem_cons, List.forall_mem_append] at agree
    obtain ⟨-, candidates, template⟩ := agree
    have source := componentSource?_congr candidates
    have documented : (componentSource? files content.toList path).bind (Component.extractDocs others.toFileSystem) =
        (componentSource? files content.toList path).bind (Component.extractDocs files.toFileSystem) := by
      cases found : componentSource? files content.toList path with
      | none => rfl
      | some file =>
        have listed : file ∈ componentCandidates files.toFileSystem content.toList path :=
          List.mem_of_find?_eq_some found
        refine Component.extractDocs_congr fun source member => ?_
        rcases List.mem_cons.mp member with rfl | member
        · rw [normalized_of_mem_componentCandidates listed]
          exact candidates file listed
        · refine template source ?_
          rwa [found]
    rw [Option.bind_some, Option.bind_some, source, documented]
    rfl

theorem extractRecord_spelling
    (same : files.toFileSystem.normalize other = files.toFileSystem.normalize path) :
    extractRecord files.toFileSystem other id = extractRecord files.toFileSystem path id := by
  have candidates (content : List Char) : componentCandidates files.toFileSystem content other =
      componentCandidates files.toFileSystem content path := by
    simp only [componentCandidates, files.resolve_congr same]
  simp only [extractRecord_memory, files.get?_congr same, componentSource?, candidates, recordWith, same]

theorem normalized_of_mem_recordSources {source : String} (listed : source ∈ recordSources files path) :
    files.Normalized source := by
  unfold recordSources at listed
  rcases List.mem_cons.mp listed with rfl | listed
  · exact files.normalized_normalize path
  · cases held : files.get? path with
    | none => simp [held] at listed
    | some content =>
      rw [held] at listed
      rcases List.mem_append.mp listed with candidate | template
      · exact normalized_of_mem_componentCandidates candidate
      · obtain ⟨file, -, found⟩ := Option.bind_eq_some_iff.mp (Option.mem_toList.mp template)
        exact Component.normalized_of_mem_templateSource? found

/-- A writing to any file but its sources leaves a record as it is. The documentation of a component depends
on its own file and the template it refers to alone, and the examples on the story file alone. Each reading
gives the same for all spellings of one path. -/
theorem depends_on_sources_only (files : MemoryFiles) (path id : String) :
    (∀ other content, files.toFileSystem.normalize other ∉ recordSources files path →
      extractRecord (files.write other content).toFileSystem path id =
        extractRecord files.toFileSystem path id) ∧
    (∀ others, files.AgreesOn others (Component.docsSources files path) →
      Component.extractDocs others.toFileSystem path = Component.extractDocs files.toFileSystem path) ∧
    (∀ others, files.AgreesOn others [files.toFileSystem.normalize path] →
      extractExamples others.toFileSystem path = extractExamples files.toFileSystem path) ∧
    ∀ other, files.toFileSystem.normalize other = files.toFileSystem.normalize path →
      extractRecord files.toFileSystem other id = extractRecord files.toFileSystem path id ∧
      Component.extractDocs files.toFileSystem other = Component.extractDocs files.toFileSystem path ∧
      extractExamples files.toFileSystem other = extractExamples files.toFileSystem path := by
  refine ⟨?_, fun others agree => Component.extractDocs_congr agree, ?_, ?_⟩
  · intro other content elsewhere
    apply extractRecord_congr
    exact files.agreesOn_write content (fun source listed => normalized_of_mem_recordSources listed) elsewhere
  · intro others agree
    have read : others.get? path = files.get? path := agree.get?_eq (List.mem_singleton.mpr rfl)
    rw [extractExamples_memory, extractExamples_memory, read]
  · intro other same
    refine ⟨extractRecord_spelling same, Component.extractDocs_spelling same, ?_⟩
    rw [extractExamples_memory, extractExamples_memory, files.get?_congr same]

/-- A story, the file of its component, and the template that this file refers to. -/
def panelFiles : MemoryFiles :=
  .ofList [("/ui/a.stories.ts",
    "import \x7b Panel \x7d from './panel';\nexport default \x7b component: Panel \x7d;\n"),
      ("/ui/panel.ts", "@Component(\x7b templateUrl: './panel.html' \x7d)"), ("/ui/panel.html", "<b></b>")]

/-- The same files with a style sheet beside the template. -/
def styledPanelFiles : MemoryFiles :=
  panelFiles.write "ui/./panel.css" "b"

/-- The style sheet is no source of the record, in whose documentation the template is. -/
theorem record_unmoved_by_style_sheet :
    panelFiles.toFileSystem.normalize "ui/./panel.css" ∉ recordSources panelFiles "/ui/a.stories.ts" ∧
    ((extractRecord styledPanelFiles.toFileSystem "ui//a.stories.ts" "a--docs").bind
      fun record => record.docs.bind fun docs => docs.template) = some "<b></b>" ∧
    Component.extractDocs styledPanelFiles.toFileSystem "/ui/panel.ts" =
      Component.extractDocs panelFiles.toFileSystem "/ui/panel.ts" ∧
    extractExamples styledPanelFiles.toFileSystem "/ui/a.stories.ts" =
      extractExamples panelFiles.toFileSystem "/ui/a.stories.ts" := by
  obtain ⟨written, -, shown, -⟩ := depends_on_sources_only panelFiles "/ui/a.stories.ts" "a--docs"
  obtain ⟨-, documented, -, -⟩ := depends_on_sources_only panelFiles "/ui/panel.ts" "a--docs"
  obtain ⟨-, -, -, spelled⟩ := depends_on_sources_only styledPanelFiles "/ui/a.stories.ts" "a--docs"
  have elsewhere : panelFiles.toFileSystem.normalize "ui/./panel.css" ∉
      recordSources panelFiles "/ui/a.stories.ts" := by decide +kernel
  have template : ((extractRecord panelFiles.toFileSystem "/ui/a.stories.ts" "a--docs").bind
      fun record => record.docs.bind fun docs => docs.template) = some "<b></b>" := by decide +kernel
  have unmoved : extractRecord styledPanelFiles.toFileSystem "/ui/a.stories.ts" "a--docs" =
      extractRecord panelFiles.toFileSystem "/ui/a.stories.ts" "a--docs" :=
    written "ui/./panel.css" "b" elsewhere
  have respelled : extractRecord styledPanelFiles.toFileSystem "ui//a.stories.ts" "a--docs" =
      extractRecord styledPanelFiles.toFileSystem "/ui/a.stories.ts" "a--docs" :=
    (spelled "ui//a.stories.ts" (by decide +kernel)).1
  refine ⟨elsewhere, ?_, documented styledPanelFiles (by decide +kernel),
    shown styledPanelFiles (by decide +kernel)⟩
  rw [respelled, unmoved, template]

end Story

end StoryCatalog
