import StoryCatalog.Proofs.FileSystem.Disk
import StoryCatalog.Proofs.Service.Story
import StoryCatalog.Proofs.Source.Token
import StoryCatalog.Proofs.Story.Record

/-!
# Two accounts of one story

The documentation of a story and the story itself are put together apart from each other, but from the same
record of the same file. So they tell the same of its component, and the snippets of the documentation are
those of the selector and the stories that it shows.
-/

namespace StoryCatalog

open Text Source

/-! ## What the record of a story holds -/

namespace Component

theorem ne_nil_of_quotedAfter {key : String} {text body rest : List Char}
    (read : quotedAfter key text = some (body, rest)) : body ≠ [] := by
  simp only [quotedAfter, quotedText, Scan.bind_eq_some_iff, Scan.run1_eq_some_iff,
    Scan.pure_eq_some_iff] at read
  obtain ⟨_, _, -, _, _, -, _, _, -, _, _, ⟨nonempty, -⟩, _, _, -, rfl, -⟩ := read
  exact nonempty

/-- A selector that is found is not empty. -/
theorem selector_ne_empty {fs : FileSystem} {path : String} {docs : ComponentDocs}
    (made : extractDocs fs path = some docs) : docs.selector ≠ some "" := by
  have ofSource (content : List Char) : (docsOfSource content).selector ≠ some "" := by
    intro empty
    obtain ⟨body, found, spelled⟩ := Option.map_eq_some_iff.mp empty
    obtain ⟨_, _, _, -, read, -⟩ := Scan.findFirst?_eq_some_iff.mp found
    exact ne_nil_of_quotedAfter read (by simpa using spelled)
  unfold extractDocs at made
  split at made
  · next read =>
    subst made
    obtain ⟨content, -, written⟩ := bind_eq_ok_iff.mp read
    cases content with
    | none => simp at written
    | some content =>
      simp only [bind_eq_ok_iff, pure_eq_ok_iff, Option.some.injEq] at written
      obtain ⟨template, -, rfl⟩ := written
      cases template <;> exact ofSource content.toList
  · contradiction

end Component

/-- A record has documentation only of the component that it names, and with no empty selector. -/
theorem docs_of_extractRecord {fs : FileSystem} {path : String} {id : WideText} {record : StoryRecord}
    {docs : ComponentDocs}
    (made : Story.extractRecord fs path id = some record) (documented : record.docs = some docs) :
    record.component ≠ none ∧ docs.selector ≠ some "" := by
  obtain ⟨content, found, args, -, searched, -, rfl⟩ := Story.extractRecord_eq_some_iff.mp made
  change found = some docs at documented
  subst documented
  constructor
  · intro unnamed
    -- Without a name no file is looked for, so nothing is found.
    have absent : Story.componentOf? content.toList = none := Option.map_eq_none_iff.mp unnamed
    rw [Story.storyDocs?, absent] at searched
    exact absurd (pure_eq_ok_iff.mp searched) (Option.some_ne_none docs).symm
  · obtain ⟨file, -, read⟩ := Story.storyDocs?_eq_ok_iff.mp searched
    obtain ⟨source, -, extracted⟩ := Option.bind_eq_some_iff.mp read
    exact Component.selector_ne_empty extracted

/-! ## Agreement -/

/-- The snippet of one story, made from its raw args. -/
def ShowsUsage (selector : String) (framework : WideText) (example_ snippet : WideText × Json) : Prop :=
  ∃ (name : String) (args : Fields Json) (usage : WideText), example_.1 = name ∧ snippet.1 = name ∧
    example_.2.field? "args" = some (.ofFields args) ∧
    Story.usage? (some selector) args name framework = some usage ∧ snippet.2 = .str usage

/-- The documentation of a story tells of the component what the story itself tells, and holds a snippet for
each story it shows exactly where it has stories and a selector. -/
structure TellsTheSame (framework : WideText) (docs story : Json) : Prop where
  component : docs.field? "component" = story.field? "component"
  properties : docs.field? "properties" = (story.field? "docs").bind (·.field? "properties")
  properties_isSome : (docs.field? "properties").isSome = (story.field? "docs").isSome
  description : docs.field? "componentDescription" = (story.field? "docs").bind (·.field? "description")
  description_isSome : (docs.field? "componentDescription").isSome = (story.field? "docs").isSome
  selector : docs.field? "selector" = (story.field? "docs").bind (·.field? "selector")
  template : docs.field? "template" = (story.field? "docs").bind (·.field? "template")
  code : docs.field? "componentCode" = (story.field? "docs").bind (·.field? "componentCode")
  usages_isSome : (docs.field? "usageExamples").isSome =
    ((docs.field? "storyExamples").isSome && (docs.field? "selector").isSome)
  usages : ∀ usages, docs.field? "usageExamples" = some usages →
    ∃ selector examples snippets, docs.field? "selector" = some (.text selector) ∧
      docs.field? "storyExamples" = some (.obj examples) ∧ usages = .obj snippets ∧
      List.Forall₂ (ShowsUsage selector framework) examples snippets

/-- With a selector there is a snippet. -/
theorem Story.exists_usage? {selector : String} (given : selector ≠ "") (args : Fields Json)
    (name : String) (framework : WideText) : ∃ usage, Story.usage? (some selector) args name framework = some usage := by
  unfold usage?
  split
  · next absent => exact absurd absent (Option.some_ne_none _)
  · next empty => exact absurd (Option.some.inj empty) given
  · exact ⟨_, rfl⟩

theorem StoryExamples.additions_eq (examples : StoryExamples) {selector : Option String}
    (given : selector ≠ some "") (framework : WideText) :
    examples.additions selector framework =
      examples.fields ++
        (selector.map fun selector => (.whole "usageExamples", examples.usages selector framework)).toList := by
  unfold additions
  split
  · rfl
  · contradiction
  · rfl

theorem StoryExamples.forall₂_usages (examples : StoryExamples) {selector : String} (given : selector ≠ "")
    (framework : WideText) :
    ∃ shown snippets, Json.ofFields (examples.stories.map StoryExample.toJson) = .obj shown ∧
      examples.usages selector framework = .obj snippets ∧
      List.Forall₂ (ShowsUsage selector framework) shown snippets := by
  refine ⟨_, _, rfl, rfl, ?_⟩
  unfold Fields.map Fields.mapWithKey
  simp only [List.forall₂_map_left_iff, List.forall₂_map_right_iff, List.forall₂_same]
  rintro ⟨name, shown⟩ -
  obtain ⟨usage, made⟩ := Story.exists_usage? given (shown.args.map .text) name framework
  unfold Fields.map at made
  refine ⟨name, _, usage, rfl, rfl, rfl, made, ?_⟩
  dsimp only
  rw [made]

namespace Json

theorem lookup_optional (name key : String) (text : Option String) :
    (optional name text).lookup (.whole key) = if key = name then text.map .text else none := by
  cases text with
  | none => simp [optional]
  | some text =>
    by_cases same : key = name
    · simp [optional, same]
    · have differ : (WideText.whole key == WideText.whole name) = false := by simpa using same
      simp [optional, same, List.lookup_cons, differ]

end Json

namespace IndexEntry

variable (entry : IndexEntry) (fs : FileSystem) (file : String) (framework : WideText)

/-- The documentation in the record of a story. -/
def docs? : Option ComponentDocs :=
  (Story.extractRecord fs file entry.id).bind (·.docs)

def component? : Option String :=
  (Story.extractRecord fs file entry.id).bind (·.component)

theorem bind_ofComponent :
    (ofComponent (Story.extractRecord fs file entry.id)).bind (·.2) = entry.docs? fs file := by
  unfold docs?
  cases made : Story.extractRecord fs file entry.id with
  | none => rfl
  | some record =>
    cases named : record.component with
    | some component => simp [ofComponent, named]
    | none =>
      cases documented : record.docs with
      | none => simp [ofComponent, named, documented]
      | some docs => exact absurd named (docs_of_extractRecord made documented).1

theorem map_ofComponent :
    (ofComponent (Story.extractRecord fs file entry.id)).map (·.1) = entry.component? fs file := by
  unfold component?
  cases Story.extractRecord fs file entry.id with
  | none => rfl
  | some record => cases named : record.component <;> simp [ofComponent, named]

theorem fromSource_eq : entry.fromSource fs file framework =
    Json.optional "component" (entry.component? fs file) ++
      ((entry.docs? fs file).map ComponentDocs.additions).getD [] ++
        ((Story.extractExamples fs file).map
          (·.additions ((entry.docs? fs file).bind (·.selector)) framework)).getD [] := by
  unfold fromSource
  dsimp only
  rw [bind_ofComponent, ← map_ofComponent]
  congr 1
  · congr 1
    · cases ofComponent (Story.extractRecord fs file entry.id) <;> rfl
    · cases entry.docs? fs file <;> rfl
  · cases Story.extractExamples fs file <;> rfl

theorem selector_ne_empty : (entry.docs? fs file).bind (·.selector) ≠ some "" := by
  intro empty
  obtain ⟨docs, found, empty⟩ := Option.bind_eq_some_iff.mp empty
  obtain ⟨record, made, documented⟩ := Option.bind_eq_some_iff.mp found
  exact (docs_of_extractRecord made documented).2 empty

/-- What the documentation holds under the names that it shares with the story. -/
theorem field?_documentation (entry : IndexEntry) (fs : FileSystem) (file : String) (framework : WideText) :
    let documentation := Json.obj (entry.heading framework ++ entry.fromSource fs file framework)
    let docs := entry.docs? fs file
    documentation.field? "component" = (entry.component? fs file).map .text ∧
      documentation.field? "selector" = (docs.bind (·.selector)).map .text ∧
      documentation.field? "template" = (docs.bind (·.template)).map .text ∧
      documentation.field? "componentCode" = (docs.bind (·.code)).map .text ∧
      documentation.field? "properties" = docs.map (·.propertiesJson) ∧
      documentation.field? "componentDescription" = docs.map (.text ·.description) ∧
      documentation.field? "storyExamples" =
        (Story.extractExamples fs file).map (fun examples => .ofFields (examples.stories.map StoryExample.toJson)) ∧
      documentation.field? "usageExamples" = (docs.bind (·.selector)).bind fun selector =>
        (Story.extractExamples fs file).map (·.usages selector framework) := by
  have given := entry.selector_ne_empty fs file
  dsimp only
  rw [fromSource_eq]
  generalize entry.docs? fs file = docs at given ⊢
  cases Story.extractExamples fs file with
  | none =>
    cases docs <;> simp [Json.field?, heading, List.lookup_append, Json.lookup_optional, List.lookup_cons,
      ComponentDocs.additions]
  | some examples =>
    rw [Option.map_some, StoryExamples.additions_eq examples given]
    cases docs with
    | none =>
      simp [Json.field?, heading, List.lookup_append, Json.lookup_optional, List.lookup_cons, StoryExamples.fields]
    | some docs =>
      cases selected : docs.selector <;>
      simp [Json.field?, heading, List.lookup_append, Json.lookup_optional, List.lookup_cons, StoryExamples.fields,
        ComponentDocs.additions, selected]

theorem field?_docs (docs : Option ComponentDocs) :
    let fields := docs.map (Json.obj ·.fields)
    fields.bind (·.field? "selector") = (docs.bind (·.selector)).map .text ∧
      fields.bind (·.field? "template") = (docs.bind (·.template)).map .text ∧
      fields.bind (·.field? "componentCode") = (docs.bind (·.code)).map .text ∧
      fields.bind (·.field? "properties") = docs.map (·.propertiesJson) ∧
      fields.bind (·.field? "description") = docs.map (.text ·.description) := by
  cases docs with
  | none => exact ⟨rfl, rfl, rfl, rfl, rfl⟩
  | some docs =>
    simp [Json.field?, ComponentDocs.fields, List.lookup_append, Json.lookup_optional, List.lookup_cons]

/-- What a story holds under the names that it shares with its documentation. -/
theorem field?_story (entry : IndexEntry) (machine : Machine) {project : WidePath} {path : WideText}
    {file : SpelledPath} (spelled : (storyFilePath project path).onDisk? = some file) :
    let story := Json.obj (entry.fields ++ entry.added machine project (some path))
    story.field? "component" = (entry.component? machine.toFileSystem file.toText).map .text ∧
      story.field? "docs" = (entry.docs? machine.toFileSystem file.toText).map (.obj ·.fields) := by
  dsimp only
  unfold added component? docs?
  rw [Option.bind_some, spelled, Option.bind_some, record?]
  cases Story.extractRecord machine.toFileSystem file.toText entry.id with
  | none => exact ⟨rfl, rfl⟩
  | some record =>
    cases documented : record.docs <;>
      simp [Json.field?, fields, List.lookup_append, Json.lookup_optional, List.lookup_cons,
        StoryRecord.additions, documented]

/-- Documentation and story that are made from one file tell the same. -/
theorem tellsTheSame (entry : IndexEntry) {machine : Machine} {project : WidePath} {path : WideText}
    {file : SpelledPath} (spelled : (storyFilePath project path).onDisk? = some file) (framework : WideText) :
    TellsTheSame framework
      (.obj (entry.heading framework ++ entry.fromSource machine.toFileSystem file.toText framework))
      (.obj (entry.fields ++ entry.added machine project (some path))) := by
  obtain ⟨component, selector, template, code, properties, description, examples, usages⟩ :=
    entry.field?_documentation machine.toFileSystem file.toText framework
  obtain ⟨itsComponent, itsDocs⟩ := entry.field?_story machine spelled
  have given := entry.selector_ne_empty machine.toFileSystem file.toText
  generalize entry.docs? machine.toFileSystem file.toText = docs at *
  obtain ⟨itsSelector, itsTemplate, itsCode, itsProperties, itsDescription⟩ := field?_docs docs
  rw [← itsDocs] at itsSelector itsTemplate itsCode itsProperties itsDescription
  refine
    { component := component.trans itsComponent.symm
      properties := properties.trans itsProperties.symm
      properties_isSome := by rw [properties, itsDocs, Option.isSome_map, Option.isSome_map]
      description := description.trans itsDescription.symm
      description_isSome := by rw [description, itsDocs, Option.isSome_map, Option.isSome_map]
      selector := selector.trans itsSelector.symm
      template := template.trans itsTemplate.symm
      code := code.trans itsCode.symm
      usages_isSome := ?_
      usages := ?_ }
  · rw [usages, examples, selector, Option.isSome_map, Option.isSome_map]
    cases docs.bind (·.selector) with
    | none => exact (Bool.and_false _).symm
    | some selected => rw [Option.bind_some, Option.isSome_map, Option.isSome_some, Bool.and_true]
  · intro shown found
    rw [usages] at found
    obtain ⟨selected, chosen, found⟩ := Option.bind_eq_some_iff.mp found
    obtain ⟨stories, extracted, rfl⟩ := Option.map_eq_some_iff.mp found
    rw [chosen] at given selector
    obtain ⟨itsExamples, snippets, inside, made, each⟩ :=
      stories.forall₂_usages (fun empty => given (congrArg some empty)) framework
    rw [extracted, Option.map_some, inside] at examples
    exact ⟨selected, itsExamples, snippets, selector, examples, made, each⟩

/-! ## What the path of an entry leads to -/

theorem importPath?_of_str {entry : IndexEntry} {path : WideText} (given : entry.importPath = .str path) :
    entry.importPath? = .ok (if path = "" then none else some path) := by
  unfold importPath?
  rw [given]
  by_cases empty : path = ""
  · simp [Json.isGiven, empty]
  · simp [Json.isGiven, empty]

/-- Without a file there is no record. -/
theorem record?_eq_none (entry : IndexEntry) {machine : Machine} {path : WidePath} (plain : path.Plain)
    (absent : machine.isFile? path ≠ .ok true) : path.onDisk?.bind (entry.record? machine) = none := by
  by_contra made
  obtain ⟨record, made⟩ := Option.ne_none_iff_exists'.mp made
  obtain ⟨file, spelled, made⟩ := Option.bind_eq_some_iff.mp made
  obtain ⟨content, _, _, read, -⟩ := Story.extractRecord_eq_some_iff.mp made
  obtain ⟨there, looked, found⟩ := bind_eq_ok_iff.mp read
  have same : machine.toFileSystem.isFile file.toText = machine.isFile? file :=
    congrArg (fun file : SpelledPath => machine.isFile? file) (SpelledPath.ofText_toText (plain.onDisk? spelled))
  cases there with
  | true => exact absent (Machine.isFile?_wide_iff.mpr ⟨file, spelled, same ▸ looked⟩)
  | false => simp at found

theorem documented_of_isFile {entry : IndexEntry} {machine : Machine} {project : WidePath} {path : WideText}
    {file : SpelledPath} (source : isProse path = false) (there : machine.isFile? (storyFilePath project path) = .ok true)
    (spelled : (storyFilePath project path).onDisk? = some file) (framework : WideText) :
    entry.documented machine project framework path =
      .ok (entry.fromSource machine.toFileSystem file.toText framework) := by
  refine bind_eq_ok_iff.mpr ⟨true, there, ?_⟩
  simp only [source, spelled]
  rfl

theorem eq_nil_of_documented {entry : IndexEntry} {machine : Machine} {project : WidePath}
    {path framework : WideText} {more : List (WideText × Json)}
    (absent : machine.isFile? (storyFilePath project path) ≠ .ok true)
    (made : entry.documented machine project framework path = .ok more) : more = [] := by
  obtain ⟨there, looked, made⟩ := bind_eq_ok_iff.mp made
  cases there with
  | true => exact absurd looked absent
  | false => exact (pure_eq_ok_iff.mp made).symm

theorem added_of_absent (entry : IndexEntry) {machine : Machine} {directory path : WideText}
    (absent : machine.isFile? (storyFilePath (.ofText directory) path) ≠ .ok true) :
    entry.added machine (.ofText directory) (if path = "" then none else some path) = [] := by
  unfold added
  split_ifs
  · rfl
  · rw [Option.bind_some, entry.record?_eq_none (plain_storyFilePath directory path) absent]

/-- Where the path of an entry is that of a file that is no prose, its documentation and the story itself
tell the same; where it is that of no file, both are the entry alone. -/
theorem documentation_agrees (entry : IndexEntry) (machine : Machine) (directory framework path : WideText)
    (given : entry.importPath = .str path) :
    let project := WidePath.ofText directory
    let there := machine.isFile? (storyFilePath project path)
    (path ≠ "" → isProse path = false → there = .ok true →
      ∀ docs story, entry.documentation machine project framework = .ok docs →
        entry.details machine project = .ok story → TellsTheSame framework (.obj docs) (.obj story)) ∧
    (there ≠ .ok true → entry.details machine project = .ok entry.fields ∧
      ∀ docs, entry.documentation machine project framework = .ok docs → docs = entry.heading framework) ∧
    (there = .ok false → entry.documentation machine project framework = .ok (entry.heading framework)) := by
  dsimp only
  rw [documentation_eq, details_eq, importPath?_of_str given]
  refine ⟨?_, ?_, ?_⟩
  · intro nonempty source there docs story told shown
    obtain ⟨file, spelled, -⟩ := Machine.isFile?_wide_iff.mp there
    simp only [if_neg nonempty, bind_eq_ok_iff, Except.ok.injEq, exists_eq_left', mapError_eq_ok_iff,
      documented_of_isFile source there spelled, pure_eq_ok_iff] at told shown
    rw [← told, ← shown]
    exact entry.tellsTheSame spelled framework
  · intro absent
    refine ⟨?_, fun docs told => ?_⟩
    · rw [bind_eq_ok_iff]
      exact ⟨_, rfl, by rw [entry.added_of_absent absent, List.append_nil]; rfl⟩
    · by_cases empty : path = ""
      · rw [if_pos empty] at told
        exact (pure_eq_ok_iff.mp told).symm
      · simp only [if_neg empty, bind_eq_ok_iff, Except.ok.injEq, exists_eq_left', mapError_eq_ok_iff,
          pure_eq_ok_iff] at told
        obtain ⟨more, made, rfl⟩ := told
        rw [eq_nil_of_documented absent made, List.append_nil]
  · intro absent
    by_cases empty : path = ""
    · rw [if_pos empty]
      rfl
    · have made : entry.documented machine (.ofText directory) framework path = .ok [] :=
        bind_eq_ok_iff.mpr ⟨false, absent, rfl⟩
      rw [if_neg empty]
      simp only [bind_eq_ok_iff, Except.ok.injEq, exists_eq_left', mapError_eq_ok_iff, made, pure_eq_ok_iff,
        List.append_nil]

/-- A project with a story and the component that it shows. -/
def badgeMachine : Machine where
  disk := (({} : Disk).addFile ["ui", "badge.stories.ts"] (asciiBytes
      ("import \x7b Badge \x7d from './badge';\ncomponent: Badge\n" ++
        "export const Big = \x7b args: \x7b size: 9 \x7d\x7d;").toList)).addFile
    ["ui", "badge.ts"] (asciiBytes "selector: 'ui-badge'".toList)
  here := .root
  home := "/"

def badgeEntry : IndexEntry where
  id := "badge--big"
  importPath := .str "./badge.stories.ts"

/-- The documentation of the story with its one snippet tells what the story does. -/
theorem badge_documentation_agrees :
    ∃ docs story, badgeEntry.documentation badgeMachine (.ofText "/ui") "angular" = .ok docs ∧
      badgeEntry.details badgeMachine (.ofText "/ui") = .ok story ∧
      ((Json.obj docs).field? "usageExamples").isSome = true ∧
      TellsTheSame "angular" (.obj docs) (.obj story) := by
  have written : ((badgeEntry.documentation badgeMachine (.ofText "/ui") "angular").toOption.any fun docs =>
      ((Json.obj docs).field? "usageExamples").isSome) = true := by decide +kernel
  have made : badgeEntry.details badgeMachine (.ofText "/ui") = .ok
      (badgeEntry.fields ++ badgeEntry.added badgeMachine (.ofText "/ui") (some "./badge.stories.ts")) := by
    rw [details_eq, importPath?_of_str rfl]
    rfl
  obtain ⟨agree, -⟩ := documentation_agrees badgeEntry badgeMachine "/ui" "angular" "./badge.stories.ts" rfl
  cases told : badgeEntry.documentation badgeMachine (.ofText "/ui") "angular" with
  | error error => simp [told, Except.toOption] at written
  | ok docs =>
    rw [told] at written
    exact ⟨docs, _, rfl, made, written, agree (by decide) (by decide +kernel) (by decide +kernel) docs _ told made⟩

end IndexEntry

end StoryCatalog
