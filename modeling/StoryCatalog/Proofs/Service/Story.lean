import StoryCatalog.Proofs.Except
import StoryCatalog.Proofs.Service.Response
import StoryCatalog.Proofs.Story.Usage
import StoryCatalog.Service.Docs

/-!
# What files add to a story

Whatever stands in the files of a project, what they add to a story is nested a few levels, holds nothing but
characters and comes under names that no field of the entry has. So files never keep an entry from being shown,
and never change it.
-/

namespace StoryCatalog

namespace Json

/-- The value is nested no further than this, and its texts can be encoded. -/
structure FitsIn (limit : Nat) (json : Json) : Prop where
  low : height json ≤ limit
  encodable : Encodable json

/-- The values of all fields fit. -/
def FieldsFit (limit : Nat) (fields : List (WideText × Json)) : Prop :=
  ∀ field ∈ fields, FitsIn limit field.2

section Fitting

variable {limit : Nat} {fields more : List (WideText × Json)}

theorem fieldsFit_iff : FieldsFit limit fields ↔ heightOfFields fields ≤ limit ∧ EncodableFields fields := by
  rw [heightOfFields_le_iff, encodableFields_iff]
  exact ⟨fun fits => ⟨fun field member => (fits field member).low, fun field member => (fits field member).encodable⟩,
    fun ⟨low, encodable⟩ field member => ⟨low field member, encodable field member⟩⟩

theorem fieldsFit_nil : FieldsFit limit [] :=
  fun _ member => absurd member List.not_mem_nil

theorem fieldsFit_cons_iff {name : WideText} {value : Json} :
    FieldsFit limit ((name, value) :: fields) ↔ FitsIn limit value ∧ FieldsFit limit fields :=
  List.forall_mem_cons

theorem fieldsFit_append_iff : FieldsFit limit (fields ++ more) ↔ FieldsFit limit fields ∧ FieldsFit limit more :=
  List.forall_mem_append

theorem FieldsFit.mono {higher : Nat} (fit : FieldsFit limit fields) (more : limit ≤ higher) :
    FieldsFit higher fields :=
  fun field member => ⟨Nat.le_trans (fit field member).low more, (fit field member).encodable⟩

theorem fits_text (text : String) : FitsIn (limit + 1) (.text text) :=
  ⟨Nat.le_add_left 1 limit, text, rfl⟩

theorem fits_obj_iff : FitsIn (limit + 1) (.obj fields) ↔ FieldsFit limit fields := by
  rw [fieldsFit_iff]
  constructor
  · rintro ⟨low, encodable⟩
    exact ⟨Nat.le_of_succ_le_succ low, encodable⟩
  · rintro ⟨low, encodable⟩
    exact ⟨Nat.succ_le_succ low, encodable⟩

theorem fieldsFit_optional (name : String) (text : Option String) : FieldsFit (limit + 1) (optional name text) := by
  cases text with
  | none => exact fieldsFit_nil
  | some text => exact fieldsFit_cons_iff.mpr ⟨fits_text text, fieldsFit_nil⟩

theorem fits_texts (texts : List String) : FitsIn (limit + 2) (.arr (texts.map .text)) := by
  have each : heightOfItems (texts.map .text) ≤ 1 ∧ EncodableItems (texts.map .text) := by
    induction texts with
    | nil => exact ⟨Nat.zero_le 1, trivial⟩
    | cons text texts ih => exact ⟨Nat.max_le.mpr ⟨Nat.le_refl 1, ih.1⟩, ⟨text, rfl⟩, ih.2⟩
  exact ⟨by rw [height]; omega, each.2⟩

theorem fits_ofFields_map {α : Type} {f : α → Json} (each : ∀ value, FitsIn limit (f value)) (fields : Fields α) :
    FitsIn (limit + 1) (ofFields (fields.map f)) := by
  rw [ofFields, fits_obj_iff]
  intro field member
  obtain ⟨_, inside, rfl⟩ := List.mem_map.mp member
  obtain ⟨pair, -, rfl⟩ := List.mem_map.mp inside
  exact each pair.2

theorem fits_ofFields_mapWithKey {α : Type} {f : String → α → Json} (each : ∀ key value, FitsIn limit (f key value))
    (fields : Fields α) : FitsIn (limit + 1) (ofFields (fields.mapWithKey f)) := by
  rw [ofFields, fits_obj_iff]
  intro field member
  obtain ⟨_, inside, rfl⟩ := List.mem_map.mp member
  obtain ⟨pair, -, rfl⟩ := List.mem_map.mp inside
  exact each pair.1 pair.2

end Fitting

end Json

open Json

theorem writable_iff_fieldsFit {fields : List (WideText × Json)} : Writable fields ↔ FieldsFit heightLimit fields := by
  rw [fieldsFit_iff]
  exact ⟨fun ⟨low, encodable⟩ => ⟨low, encodable⟩, fun ⟨low, encodable⟩ => ⟨low, encodable⟩⟩

/-! ## How it fits -/

theorem Property.fits_toJson (property : Property) : FitsIn 2 property.toJson := by
  unfold toJson
  rw [fits_obj_iff, fieldsFit_append_iff, fieldsFit_append_iff]
  refine ⟨⟨?_, fieldsFit_optional _ _⟩, fieldsFit_optional _ _⟩
  simp only [fieldsFit_cons_iff]
  exact ⟨fits_text _, fits_text _, ⟨Nat.le_refl 1, trivial⟩, fieldsFit_nil⟩

theorem ComponentDocs.fits_propertiesJson (docs : ComponentDocs) : FitsIn 3 docs.propertiesJson :=
  fits_ofFields_map Property.fits_toJson docs.properties

theorem ComponentDocs.fieldsFit_fields (docs : ComponentDocs) : FieldsFit 3 docs.fields := by
  unfold fields
  simp only [fieldsFit_append_iff, fieldsFit_optional, and_true, fieldsFit_cons_iff]
  exact ⟨fits_text _, docs.fits_propertiesJson, fieldsFit_nil⟩

theorem ComponentDocs.fieldsFit_additions (docs : ComponentDocs) : FieldsFit 3 docs.additions := by
  unfold additions
  simp only [fieldsFit_append_iff, fieldsFit_optional, true_and, fieldsFit_cons_iff]
  exact ⟨docs.fits_propertiesJson, fits_text _, fieldsFit_nil⟩

theorem Story.Literal.fits_toJson (value : Literal) : FitsIn 3 value.toJson := by
  cases value with
  | text value => exact fits_text value
  | flag | whole | real => exact ⟨Nat.le_add_left 1 2, trivial⟩

theorem StoryRecord.fieldsFit_additions (record : StoryRecord) : FieldsFit 4 record.additions := by
  unfold additions
  rw [fieldsFit_append_iff, fieldsFit_append_iff]
  refine ⟨⟨fieldsFit_optional _ _, ?_⟩, ?_⟩
  · simp only [fieldsFit_cons_iff]
    refine ⟨fits_ofFields_map Story.Literal.fits_toJson _, fits_ofFields_map ?_ _, fieldsFit_nil⟩
    exact fun control => fits_obj_iff.mpr (fieldsFit_cons_iff.mpr ⟨fits_text control, fieldsFit_nil⟩)
  · cases record.docs with
    | none => exact fieldsFit_nil
    | some docs => exact fieldsFit_cons_iff.mpr ⟨fits_obj_iff.mpr docs.fieldsFit_fields, fieldsFit_nil⟩

theorem StoryExample.fits_toJson (shown : StoryExample) : FitsIn 3 shown.toJson := by
  unfold toJson
  simp only [fits_obj_iff, fieldsFit_cons_iff]
  exact ⟨fits_text _, fits_ofFields_map fits_text shown.args, fieldsFit_nil⟩

/-- A snippet of raw args holds characters only, whatever the framework is called. -/
theorem Story.exists_usage?_eq {selector : String} (args : Fields String) (name : String) (framework : WideText)
    {usage : WideText} (made : Story.usage? (some selector) (args.map .text) name framework = some usage) :
    ∃ text : String, usage = text := by
  by_cases given : selector = ""
  · rw [given] at made
    contradiction
  · rw [Story.usage?_text given] at made
    exact ⟨_, (Option.some.inj made).symm⟩

theorem StoryExamples.fits_usages (examples : StoryExamples) (selector : String) (framework : WideText) :
    FitsIn 4 (examples.usages selector framework) := by
  refine fits_ofFields_mapWithKey (fun name shown => ?_) _
  cases made : Story.usage? (some selector) (shown.args.map .text) name framework with
  | none => exact ⟨Nat.le_add_left 1 2, trivial⟩
  | some usage =>
    obtain ⟨text, rfl⟩ := Story.exists_usage?_eq shown.args name framework made
    exact fits_text text

theorem StoryExamples.fieldsFit_additions (examples : StoryExamples) (selector : Option String)
    (framework : WideText) : FieldsFit 4 (examples.additions selector framework) := by
  unfold additions fields
  simp only [fieldsFit_append_iff, fieldsFit_cons_iff]
  refine ⟨⟨fits_texts _, ?_, fits_ofFields_map StoryExample.fits_toJson _, fieldsFit_nil⟩, ?_⟩
  · cases examples.metaBlock with
    | none => exact ⟨Nat.le_add_left 1 3, trivial⟩
    | some code => exact fits_text code
  · split
    · exact fieldsFit_nil
    · exact fieldsFit_nil
    · exact fieldsFit_cons_iff.mpr ⟨examples.fits_usages _ _, fieldsFit_nil⟩

namespace IndexEntry

theorem fieldsFit_fromSource (entry : IndexEntry) (fs : FileSystem) (file : String) (framework : WideText) :
    FieldsFit 4 (entry.fromSource fs file framework) := by
  unfold fromSource
  simp only [fieldsFit_append_iff]
  refine ⟨⟨?_, ?_⟩, ?_⟩
  · split
    · exact fieldsFit_nil
    · exact fieldsFit_cons_iff.mpr ⟨fits_text _, fieldsFit_nil⟩
  · split
    · exact fieldsFit_nil
    · exact (ComponentDocs.fieldsFit_additions _).mono (by decide)
  · split
    · exact fieldsFit_nil
    · exact StoryExamples.fieldsFit_additions _ _ _

/-! ## What an entry is shown with -/

variable {entry : IndexEntry} {machine : Machine} {project : WidePath}

/-- What the story file that an entry may name adds to it. -/
def added (entry : IndexEntry) (machine : Machine) (project : WidePath) (path : Option WideText) :
    List (WideText × Json) :=
  match path.bind fun path => (storyFilePath project path).onDisk?.bind (entry.record? machine) with
  | none => []
  | some record => record.additions

theorem details_eq (entry : IndexEntry) (machine : Machine) (project : WidePath) :
    entry.details machine project = (do
      let path ← entry.importPath?
      return entry.fields ++ entry.added machine project path) := by
  unfold details added
  refine congrArg _ (funext fun path => ?_)
  cases path with
  | none => rw [Option.bind_none, List.append_nil]
  | some path =>
    dsimp only [Option.bind_some]
    cases (storyFilePath project path).onDisk?.bind (entry.record? machine) with
    | none => rw [List.append_nil]
    | some record => rfl

theorem fieldsFit_added (path : Option WideText) : FieldsFit 4 (entry.added machine project path) := by
  unfold added
  split
  · exact fieldsFit_nil
  · exact StoryRecord.fieldsFit_additions _

/-- The names of what a story file may add. -/
def addedNames : List String := ["component", "args", "argTypes", "docs"]

theorem names_added (path : Option WideText) :
    ((entry.added machine project path).map (·.1)).Sublist (addedNames.map .whole) := by
  unfold added
  split
  · exact List.nil_sublist _
  · next record _ =>
    unfold StoryRecord.additions
    cases record.component with
    | none =>
      cases record.docs with
      | none => exact .cons _ (.cons_cons _ (.cons_cons _ (.cons _ .slnil)))
      | some docs => exact .cons _ (.cons_cons _ (.cons_cons _ (.cons_cons _ .slnil)))
    | some component =>
      cases record.docs with
      | none => exact .cons_cons _ (.cons_cons _ (.cons_cons _ (.cons _ .slnil)))
      | some docs => exact List.Sublist.refl _

theorem named_added (path : Option WideText) : Named (entry.added machine project path) := by
  intro field member
  have listed := (names_added path).subset (List.mem_map_of_mem member)
  obtain ⟨name, -, same⟩ := List.mem_map.mp listed
  exact ⟨name, same.symm⟩

/-! ## What an entry is documented with -/

/-- A framework that can be encoded keeps no entry from being documented. -/
theorem writable_heading {framework : WideText} (fits : Writable entry.fields)
    (spelled : Spelled framework) : Writable (entry.heading framework) := by
  obtain ⟨name, rfl⟩ := spelled
  rw [writable_iff_fieldsFit] at fits ⊢
  simp only [fields, heading, fieldsFit_cons_iff] at fits ⊢
  obtain ⟨id, itsName, title, -, -, -, type, -⟩ := fits
  exact ⟨id, title, itsName, type, fits_text name, fieldsFit_nil⟩

theorem importPath?_eq_error {error : ServiceError} (failed : entry.importPath? = .error error) :
    ∃ typeName, error = .notAPath typeName := by
  unfold importPath? at failed
  split_ifs at failed
  split at failed
  · contradiction
  · exact ⟨_, (Except.error.inj failed).symm⟩

/-- Documentation is made from the file that the path of an entry names, if such a file is there. -/
def documented (entry : IndexEntry) (machine : Machine) (project : WidePath) (framework path : WideText) :
    Except Fault (List (WideText × Json)) := do
  let file := storyFilePath project path
  if !(← machine.isFile? file) then return []
  if isProse path then return [("mdxContent", .text (← machine.readText file))]
  match file.onDisk? with
  | none => return []
  | some file => return entry.fromSource machine.toFileSystem file.toText framework

theorem fieldsFit_documented {framework path : WideText} {more : List (WideText × Json)}
    (made : entry.documented machine project framework path = .ok more) : FieldsFit 4 more := by
  unfold documented at made
  obtain ⟨there, -, made⟩ := bind_eq_ok_iff.mp made
  split_ifs at made
  · rw [← pure_eq_ok_iff.mp made]
    exact fieldsFit_nil
  · obtain ⟨text, -, written⟩ := bind_eq_ok_iff.mp made
    rw [← pure_eq_ok_iff.mp written]
    exact fieldsFit_cons_iff.mpr ⟨fits_text text, fieldsFit_nil⟩
  · split at made
    · rw [← pure_eq_ok_iff.mp made]
      exact fieldsFit_nil
    · rw [← pure_eq_ok_iff.mp made]
      exact fieldsFit_fromSource _ _ _ _

theorem documentation_eq (entry : IndexEntry) (machine : Machine) (project : WidePath) (framework : WideText) :
    entry.documentation machine project framework = (do
      match ← entry.importPath? with
      | none => return entry.heading framework
      | some path =>
        return entry.heading framework ++
          (← (entry.documented machine project framework path).mapError .file)) := by
  unfold documentation documented
  refine congrArg _ (funext fun path => ?_)
  cases path with
  | none => rfl
  | some path =>
    dsimp only
    cases machine.isFile? (storyFilePath project path) with
    | error fault => rfl
    | ok there =>
      cases there with
      | false => exact congrArg Except.ok (List.append_nil _).symm
      | true =>
        by_cases prose : isProse path = true
        · simp only [if_pos prose]
          cases machine.readText (storyFilePath project path) <;> rfl
        · simp only [if_neg prose]
          cases (storyFilePath project path).onDisk? with
          | none => exact congrArg Except.ok (List.append_nil _).symm
          | some file => rfl

end IndexEntry

end StoryCatalog
