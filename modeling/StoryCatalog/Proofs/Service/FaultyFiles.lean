import StoryCatalog.Proofs.FileSystem.Disk
import StoryCatalog.Proofs.Service.Views

/-!
# What faulty files do to the service

Whatever bytes stand in a project's files, a story is shown, and it is documented too, with one exception: a
prose file is read outside the extraction, so bytes in it that are no text fail its documentation. The only
other failure comes from a path that no file can have.
-/

namespace StoryCatalog

namespace IndexEntry

variable {entry : IndexEntry} {machine : Machine} {project : WidePath} {framework path : WideText}

/-- A file that documentation is made from is looked for, and one of prose is read, outside the extraction. -/
theorem documented_eq_error_iff {fault : Fault} :
    entry.documented machine project framework path = .error fault ↔
      machine.isFile? (storyFilePath project path) = .error fault ∨
        (machine.isFile? (storyFilePath project path) = .ok true ∧ isProse path = true ∧
          machine.readText (storyFilePath project path) = .error fault) := by
  unfold documented
  rw [bind_eq_error_iff]
  refine or_congr_right ⟨?_, ?_⟩
  · rintro ⟨there, looked, failed⟩
    cases there with
    | false => exact absurd failed pure_ne_error
    | true =>
      by_cases prose : isProse path = true
      · rw [if_pos prose] at failed
        exact ⟨looked, prose, bind_pure_eq_error_iff.mp failed⟩
      · rw [if_neg prose] at failed
        cases spelled : (storyFilePath project path).onDisk? <;> simp [spelled] at failed
  · rintro ⟨looked, prose, failed⟩
    refine ⟨true, looked, ?_⟩
    rw [if_pos prose]
    exact bind_pure_eq_error_iff.mpr failed

/-- The documentation of the entry meets a fault: its path is too long for a file, or leads to a prose file
whose bytes are no text. -/
def Stumbles (entry : IndexEntry) (machine : Machine) (project : WidePath) : Prop :=
  ∃ path, entry.importPath? = .ok (some path) ∧
    (machine.TooLong (storyFilePath project path) ∨
      (isProse path = true ∧ machine.Undecodable (storyFilePath project path)))

theorem exists_documented_eq_error_iff :
    (∃ fault, entry.documented machine project framework path = .error fault) ↔
      machine.TooLong (storyFilePath project path) ∨
        (isProse path = true ∧ machine.Undecodable (storyFilePath project path)) := by
  simp only [documented_eq_error_iff, exists_or, exists_and_left, Machine.exists_isFile?_eq_error_iff]
  refine or_congr_right ⟨?_, ?_⟩
  · rintro ⟨there, prose, failed⟩
    exact ⟨prose, (Machine.exists_readText_eq_error_iff there).mp failed⟩
  · rintro ⟨prose, undecodable⟩
    have ⟨names, bytes, _, located, _⟩ := undecodable
    have there := Machine.isFile?_eq_true_iff.mpr ⟨names, bytes, located⟩
    exact ⟨there, prose, (Machine.exists_readText_eq_error_iff there).mpr undecodable⟩

/-- An entry whose path is a text, or is not given, is shown whatever the files hold. -/
theorem exists_details_eq_ok (textual : entry.importPath = .null ∨ ∃ path, entry.importPath = .str path) :
    ∃ fields, entry.details machine project = .ok fields := by
  obtain ⟨path, named⟩ := exists_importPath?_eq_ok textual
  rw [details_eq, named]
  exact ⟨_, rfl⟩

theorem documentation_of_stumbles (stumbles : entry.Stumbles machine project) (framework : WideText) :
    ∃ fault, entry.documentation machine project framework = .error (.file fault) := by
  obtain ⟨path, named, cause⟩ := stumbles
  obtain ⟨fault, failed⟩ : ∃ fault, entry.documented machine project framework path = .error fault :=
    exists_documented_eq_error_iff.mpr cause
  refine ⟨fault, ?_⟩
  rw [documentation_eq, bind_eq_error_iff]
  exact .inr ⟨some path, named, bind_eq_error_iff.mpr (.inl (mapError_eq_error_iff.mpr ⟨fault, failed, rfl⟩))⟩

/-- An entry that does not stumble is documented, with what stands in its heading and little more. -/
theorem exists_documentation_eq_ok (textual : entry.importPath = .null ∨ ∃ path, entry.importPath = .str path)
    (smooth : ¬entry.Stumbles machine project) (framework : WideText) :
    ∃ more, entry.documentation machine project framework = .ok (entry.heading framework ++ more) ∧
      Json.FieldsFit 4 more := by
  obtain ⟨path, named⟩ := exists_importPath?_eq_ok textual
  rw [documentation_eq, named]
  cases path with
  | none => exact ⟨[], congrArg Except.ok (List.append_nil _).symm, Json.fieldsFit_nil⟩
  | some path =>
    cases made : entry.documented machine project framework path with
    | error fault => exact absurd ⟨path, named, exists_documented_eq_error_iff.mp ⟨fault, made⟩⟩ smooth
    | ok more =>
      refine ⟨more, ?_, fieldsFit_documented made⟩
      simp only [bind_eq_ok_iff, mapError_eq_ok_iff, pure_eq_ok_iff, Except.ok.injEq, exists_eq_left', made]

/-- An entry whose path is a text, or is not given, is documented exactly where it does not stumble. -/
theorem exists_documentation_eq_ok_iff
    (textual : entry.importPath = .null ∨ ∃ path, entry.importPath = .str path) :
    (∃ fields, entry.documentation machine project framework = .ok fields) ↔ ¬entry.Stumbles machine project := by
  constructor
  · rintro ⟨fields, made⟩ stumbles
    obtain ⟨fault, failed⟩ := documentation_of_stumbles stumbles framework
    rw [made] at failed
    cases failed
  · intro smooth
    obtain ⟨more, made, -⟩ := exists_documentation_eq_ok textual smooth framework
    exact ⟨_, made⟩

/-- On a path that a file can have, only a prose file whose bytes are no text is stumbled over. -/
theorem stumbles_iff_of_short (named : entry.importPath? = .ok (some path))
    (short : ∀ name ∈ (storyFilePath project path).names, name.byteCount ≤ nameLimit)
    (whole : (storyFilePath project path).toText.byteCount ≤ pathLimit) :
    entry.Stumbles machine project ↔
      isProse path = true ∧ machine.Undecodable (storyFilePath project path) := by
  simp only [Stumbles, named, Except.ok.injEq, Option.some.injEq, exists_eq_left',
    Machine.not_tooLong short whole, false_or]

end IndexEntry

namespace Service

variable {service : Service} {entry : IndexEntry} {key : String}

theorem answer_docs (nonempty : key ≠ "") (plain : '/' ∉ key.toList) :
    (service.answer "GET" ("/api/docs/" ++ key)).1 = service.serve (.docs key) := by
  have some_char : key.toList ≠ [] := by simpa using nonempty
  unfold answer Route.ofPath?
  rw [String.toList_append, Route.ofChars?_docs some_char plain, String.ofList_toList]
  rfl

/-- A story is shown exactly where its entry can be written: what files hold does not count. -/
theorem status_serve_story_iff (found : service.client.story service.depth key = .ok entry)
    (textual : entry.importPath = .null ∨ ∃ path, entry.importPath = .str path) :
    (service.serve (.story key)).status = 200 ↔ Writable entry.fields := by
  obtain ⟨path, named⟩ := IndexEntry.exists_importPath?_eq_ok textual
  rw [status_serve_eq_ok_iff]
  constructor
  · rintro ⟨_, made⟩
    obtain ⟨_, _, again, -, fits, -⟩ := fields_story_eq_ok_iff.mp made
    obtain rfl := Except.ok.inj (found.symm.trans again)
    exact fits
  · exact fun fits => ⟨_, fields_story_eq_ok_iff.mpr ⟨entry, path, found, named, fits, rfl⟩⟩

theorem status_serve_docs (found : service.client.story service.depth key = .ok entry)
    (fits : Writable entry.fields) (spelled : Spelled service.framework)
    (textual : entry.importPath = .null ∨ ∃ path, entry.importPath = .str path) :
    (¬entry.Stumbles service.machine service.project → (service.serve (.docs key)).status = 200) ∧
      (entry.Stumbles service.machine service.project → (service.serve (.docs key)).status = 500) := by
  have asked : (service.client.story service.depth key).mapError ServiceError.index = .ok entry := by
    rw [found]
    rfl
  constructor
  · intro smooth
    obtain ⟨more, made, small⟩ := entry.exists_documentation_eq_ok textual smooth service.framework
    have written : Writable (entry.heading service.framework ++ more) :=
      writable_append_iff.mpr
        ⟨IndexEntry.writable_heading fits spelled, writable_iff_fieldsFit.mpr (small.mono (by decide))⟩
    have answered : service.fields (.docs key) =
        .ok [succeeded, ("docs", .obj (entry.heading service.framework ++ more))] :=
      bind_eq_ok_iff.mpr ⟨entry, asked, bind_eq_ok_iff.mpr ⟨_, made,
        bind_eq_ok_iff.mpr ⟨_, recordJson_eq_ok_iff.mpr ⟨written, rfl⟩, rfl⟩⟩⟩
    exact status_serve_eq_ok_iff.mpr ⟨_, answered⟩
  · intro stumbles
    obtain ⟨fault, failed⟩ := entry.documentation_of_stumbles stumbles service.framework
    have unmade : service.fields (.docs key) = .error (.file fault) :=
      bind_eq_error_iff.mpr (.inr ⟨entry, asked, bind_eq_error_iff.mpr (.inl failed)⟩)
    rw [serve, unmade]
    exact Response.status_ofError (by simp) (by simp)

/-- Whatever bytes stand in the files, a story whose path is a text or is not given is shown; and it is
documented exactly where its path is not too long for a file and does not lead to a prose file whose bytes are
no text. So its two routes answer, the second as an internal failure in just these cases, if the entry's own values
and the framework's name can be written at all. -/
theorem faulty_files_contained_iff (service : Service) {entry : IndexEntry}
    (textual : entry.importPath = .null ∨ ∃ path, entry.importPath = .str path) :
    (∃ fields, entry.details service.machine service.project = .ok fields) ∧
      ((∃ fields, entry.documentation service.machine service.project service.framework = .ok fields) ↔
        ¬entry.Stumbles service.machine service.project) ∧
      (∀ key : String, service.client.story service.depth key = .ok entry → key ≠ "" → '/' ∉ key.toList →
        ((service.answer "GET" ("/api/stories/" ++ key)).1.status = 200 ↔ Writable entry.fields) ∧
          (Writable entry.fields → Spelled service.framework →
            ((service.answer "GET" ("/api/docs/" ++ key)).1.status = 200 ↔
              ¬entry.Stumbles service.machine service.project) ∧
            ((service.answer "GET" ("/api/docs/" ++ key)).1.status = 500 ↔
              entry.Stumbles service.machine service.project))) ∧
      ∀ path, entry.importPath? = .ok (some path) →
        (∀ name ∈ (storyFilePath service.project path).names, name.byteCount ≤ nameLimit) →
        (storyFilePath service.project path).toText.byteCount ≤ pathLimit →
          (entry.Stumbles service.machine service.project ↔
            IndexEntry.isProse path = true ∧ service.machine.Undecodable (storyFilePath service.project path)) := by
  refine ⟨IndexEntry.exists_details_eq_ok textual, IndexEntry.exists_documentation_eq_ok_iff textual, ?_, ?_⟩
  · intro key found nonempty plain
    rw [answer_story nonempty plain, answer_docs nonempty plain]
    refine ⟨status_serve_story_iff found textual, fun fits spelled => ?_⟩
    obtain ⟨smooth, stumbling⟩ := status_serve_docs found fits spelled textual
    by_cases stumbles : entry.Stumbles service.machine service.project
    · rw [stumbling stumbles]
      simp [stumbles]
    · rw [smooth stumbles]
      simp [stumbles]
  · exact fun path named short whole => IndexEntry.stumbles_iff_of_short named short whole

/-- A service over one file that holds a byte no text starts with. -/
def overFaultyFile (name : String) : Service where
  machine :=
    { disk := ({} : Disk).addFile ["ui", name] [0xFF]
      here := .root
      home := "/" }
  project := SpelledPath.ofText "/ui"
  framework := "react"
  version := none
  server := "http://localhost:6010"
  client := .of "http://localhost:6010" none (.given (.ok (Text.asciiBytes
    ("\x7b\"entries\":\x7b\"a\":\x7b\"id\":\"a\",\"importPath\":\"./" ++ name ++ "\"\x7d\x7d\x7d").toList)))
  depth := 988

/-- A story file is read within the extraction. -/
theorem faulty_story_file_contained :
    ((overFaultyFile "a.stories.ts").answer "GET" "/api/stories/a").1.status = 200 ∧
      ((overFaultyFile "a.stories.ts").answer "GET" "/api/docs/a").1.status = 200 := by
  have listed : ((overFaultyFile "a.stories.ts").client.story 988 "a").toOption.any (fun entry =>
      IndexEntry.isText "./a.stories.ts" entry.importPath &&
        (Json.fieldsFault? heightLimit entry.fields).isNone) = true := by decide +kernel
  cases found : (overFaultyFile "a.stories.ts").client.story 988 "a" with
  | error error =>
    rw [found] at listed
    cases listed
  | ok entry =>
    rw [found, Except.toOption, Option.any_some, Bool.and_eq_true, IndexEntry.isText_iff,
      Option.isNone_iff_eq_none, fieldsFault?_eq_none_iff_writable] at listed
    obtain ⟨given, fits⟩ := listed
    obtain ⟨-, -, answered, stumbling⟩ :=
      faulty_files_contained_iff (overFaultyFile "a.stories.ts") (.inr ⟨_, given⟩)
    obtain ⟨shown, documented⟩ := answered "a" found (by decide) (by decide)
    have named : entry.importPath? = .ok (some "./a.stories.ts") := by
      rw [IndexEntry.importPath?, given]
      rfl
    refine ⟨shown.mpr fits, (documented fits ⟨"react", rfl⟩).1.mpr ?_⟩
    rw [stumbling _ named (by decide +kernel) (by decide +kernel)]
    exact fun prose => absurd prose.1 (by decide)

/-- What the index of such a service lists. -/
def faultyFileEntry (name : String) : IndexEntry where
  id := "a"
  importPath := .str ("./" ++ name)

/-- A prose file is not. -/
theorem faulty_prose_file_not_contained :
    (∀ fields, (faultyFileEntry "a.mdx").documentation (overFaultyFile "a.mdx").machine
        (overFaultyFile "a.mdx").project "react" ≠ .ok fields) ∧
      ((overFaultyFile "a.mdx").answer "GET" "/api/docs/a").1.status = 500 := by
  have stumbles : (faultyFileEntry "a.mdx").Stumbles (overFaultyFile "a.mdx").machine
      (overFaultyFile "a.mdx").project :=
    ⟨"./a.mdx", rfl, .inr ⟨by decide, ["ui", "a.mdx"], [0xFF], ⟨.invalidStart, 0xFF, 0, 1⟩, by decide +kernel,
      by decide +kernel⟩⟩
  obtain ⟨fault, failed⟩ := IndexEntry.documentation_of_stumbles stumbles "react"
  refine ⟨fun fields made => ?_, by decide +kernel⟩
  rw [failed] at made
  cases made

end Service

end StoryCatalog
