import StoryCatalog.Proofs.FileSystem.Disk
import StoryCatalog.Settings.File

/-!
# What a settings file comes to

A file that is found and read gives settings, or a fault, by its bytes alone: they are decoded, read as a
document, and the values of the document are taken over one by one. Which of these steps can fail, and with
what, is said here for each of them.
-/

namespace StoryCatalog

open Text Number Yaml

namespace Settings

/-! ## Values -/

/-- The value has a text, if a number with few enough digits. -/
def Writable (value : Value) : Prop :=
  ∀ n, value = .int n → digitCount n.natAbs ≤ digitLimit

theorem exists_textOf_iff {value : Value} : (∃ text, textOf value = .ok text) ↔ Writable value := by
  cases value with
  | int n =>
    simp only [textOf, wholeText, Writable, Value.int.injEq, forall_eq']
    split_ifs with long
    · constructor
      · rintro ⟨text, made⟩
        contradiction
      · intro few
        omega
    · exact ⟨fun _ => Nat.le_of_not_lt long, fun _ => ⟨_, rfl⟩⟩
  | _ => simp [textOf, Writable]

theorem exists_realOf_iff {value : Value} :
    (∃ real, realOf value = .ok real) ↔ ∀ n, value = .int n → (nearest n).isInf = false := by
  cases value with
  | int n =>
    simp only [realOf, Value.int.injEq, forall_eq']
    cases (nearest n).isInf <;> simp
  | _ => simp [realOf]

theorem exists_timeoutOf_iff {value : Value} {default : Option Seconds} :
    (∃ timeout, timeoutOf value default = .ok timeout) ↔ ∀ n, value = .int n → (nearest n).isInf = false := by
  rw [← exists_realOf_iff]
  simp only [timeoutOf, bind_eq_ok_iff]
  constructor
  · rintro ⟨timeout, real, made, -⟩
    exact ⟨real, made⟩
  · rintro ⟨real, made⟩
    cases real with
    | none => exact ⟨_, none, made, rfl⟩
    | some x => exact ⟨_, some x, made, rfl⟩

theorem exists_projectOf_iff {machine : Machine} {base : SpelledPath} {default : WidePath} {value : Value}
    (plain : base.hasNul = false) (rooted : base.root ≠ .relative) :
    (∃ project, projectOf machine base value default = .ok project) ↔
      Writable value ∧ ∀ text, textOf value = .ok (some text) → text.Nameable := by
  rw [← exists_textOf_iff]
  unfold projectOf
  cases textOf value with
  | error error => exact ⟨fun ⟨_, failed⟩ => (nomatch failed), fun ⟨⟨_, failed⟩, _⟩ => (nomatch failed)⟩
  | ok text =>
    rw [and_iff_right ⟨text, rfl⟩]
    simp only [bind, Except.bind, Except.ok.injEq]
    split
    · exact ⟨fun _ _ other => (nomatch other), fun _ => ⟨default, rfl⟩⟩
    · refine ⟨fun _ text same => ?_, fun _ => ⟨default, rfl⟩⟩
      obtain rfl := Option.some.inj same
      rw [WideText.nameable_whole_iff]
      decide
    · simp only [mapError_eq_ok_iff, Machine.exists_resolveFrom_iff plain rooted, Option.some.injEq, forall_eq']

/-! ## Documents -/

/-- What the document gives under a name. -/
def topValue (document : Document) (name : String) : Value :=
  (document.field? document.root name).getD .null

/-- What the document gives of the story server under a name. -/
def storyValue (document : Document) (name : String) : Value :=
  (document.field? (topValue document "storybook") name).getD .null

/-- Settings can be made of the values: no whole number has too many digits for the text that is wanted of
it, the project directory can stand in a path, and the length of time is among the binary numbers. -/
structure Fits (document : Document) : Prop where
  project : Writable (topValue document "project_dir")
  project_nameable : ∀ text, textOf (topValue document "project_dir") = .ok (some text) → text.Nameable
  address : Writable (storyValue document "url")
  timeout : ∀ n, storyValue document "request_timeout" = .int n → (nearest n).isInf = false
  framework : Writable (topValue document "framework")

theorem exists_ofDocument_iff {machine : Machine} {base project : SpelledPath} {document : Document}
    (plain : base.hasNul = false) (rooted : base.root ≠ .relative) :
    (∃ settings, ofDocument machine base project document = .ok settings) ↔ Fits document := by
  unfold ofDocument
  simp only [bind_eq_ok_iff, pure_eq_ok_iff]
  constructor
  · rintro ⟨_, _, resolved, _, address, _, timeout, _, framework, -⟩
    obtain ⟨writable, nameable⟩ := (exists_projectOf_iff plain rooted).mp ⟨_, resolved⟩
    exact ⟨writable, nameable, exists_textOf_iff.mp ⟨_, address⟩, exists_timeoutOf_iff.mp ⟨_, timeout⟩,
      exists_textOf_iff.mp ⟨_, framework⟩⟩
  · rintro ⟨writable, nameable, address, timeout, framework⟩
    obtain ⟨_, resolved⟩ := (exists_projectOf_iff plain rooted).mpr ⟨writable, nameable⟩
    obtain ⟨_, address⟩ := exists_textOf_iff.mpr address
    obtain ⟨_, timeout⟩ := exists_timeoutOf_iff.mpr timeout
    obtain ⟨_, framework⟩ := exists_textOf_iff.mpr framework
    exact ⟨_, _, resolved, _, address, _, timeout, _, framework, rfl⟩

/-- A collection that is not given holds nothing. -/
theorem field?_eq_none {document : Document} (missing : document.isGiven document.root = false) (name : String) :
    document.field? document.root name = none := by
  unfold Document.field? Document.collection?
  split
  · next pairs found =>
    split at found
    · next number root =>
      simp only [Document.isGiven, root, found, Bool.not_eq_false', Document.Collection.isEmpty] at missing
      rw [List.isEmpty_iff.mp missing]
      rfl
    · contradiction
  · rfl

/-- Settings are made of an empty mapping. -/
theorem fits_of_not_isGiven {document : Document} (missing : document.isGiven document.root = false) :
    Fits document := by
  have top (name : String) : topValue document name = .null := by
    rw [topValue, field?_eq_none missing, Option.getD_none]
  have story (name : String) : storyValue document name = .null := by
    rw [storyValue, top]
    rfl
  have writable : Writable .null := fun _ other => (nomatch other)
  refine ⟨?_, ?_, ?_, ?_, ?_⟩
  · rwa [top]
  · rw [top]
    exact fun _ other => (nomatch other)
  · rwa [story]
  · rw [story]
    exact fun _ other => (nomatch other)
  · rwa [top]

section Text

variable {nesting : ℕ} {machine : Machine} {base project : SpelledPath} {name : String} {text : List Char}

theorem ofText_of_blank (blank : text.all isBlank = true) :
    ofText nesting machine base project name (String.ofList text) = .ok { project } := by
  rw [ofText, String.toList_ofList, if_pos blank]

theorem ofText_of_unread {error : Yaml.Error} (content : ¬text.all isBlank = true)
    (unread : Document.read nesting text = .error error) :
    ofText nesting machine base project name (String.ofList text) = .error (.ofDocument name error) := by
  rw [ofText, String.toList_ofList, if_neg content, unread]
  rfl

theorem ofText_of_read {document : Document} (content : ¬text.all isBlank = true)
    (read : Document.read nesting text = .ok document) :
    ofText nesting machine base project name (String.ofList text) =
      if document.isGiven document.root then
        if document.isMapping document.root then ofDocument machine base project document
        else .error (.notMapping name)
      else .ok { project } := by
  rw [ofText, String.toList_ofList, if_neg content, read]
  simp only [Except.mapError, bind, Except.bind]
  cases document.isGiven document.root with
  | false => rfl
  | true => cases document.isMapping document.root <;> rfl

end Text

/-! ## Bytes -/

/-- The text of a file with these bytes. -/
def fileText (bytes : List UInt8) : Except DecodingError (List Char) :=
  (decodeUtf8 bytes).map unifyLineEnds

/-- The settings that the bytes of a file give. -/
def ofBytes (nesting : ℕ) (machine : Machine) (base project : SpelledPath) (name : String) (bytes : List UInt8) :
    Except SettingsError Settings := do
  let text ← (fileText bytes).mapError fun error => .fault (.undecodable error)
  ofText nesting machine base project name (String.ofList text)

/-- A document that does not count as given gives the usual settings, whatever it is. -/
theorem ofBytes_of_not_given {nesting : ℕ} {machine : Machine} {base project : SpelledPath} {name : String}
    {bytes : List UInt8} {text : List Char} {document : Document} (decoded : fileText bytes = .ok text)
    (content : ¬text.all isBlank = true) (read : Document.read nesting text = .ok document)
    (missing : document.isGiven document.root = false) :
    ofBytes nesting machine base project name bytes = .ok { project } := by
  rw [ofBytes, decoded]
  change ofText nesting machine base project name (String.ofList text) = _
  rw [ofText_of_read content read, missing, if_neg Bool.false_ne_true]

/-- The text is that of a settings file: blank, or a document that is a mapping or null. -/
def IsSettingsText (nesting : ℕ) (text : List Char) : Prop :=
  text.all isBlank = true ∨ ∃ document, Document.read nesting text = .ok document ∧
    (document.root = .null ∨ document.isMapping document.root = true)

/-- The bytes are those of a settings file. -/
def IsSettings (nesting : ℕ) (bytes : List UInt8) : Prop :=
  ∃ text, fileText bytes = .ok text ∧ IsSettingsText nesting text

/-- A document that is neither a mapping nor null is none of a settings file. -/
theorem not_isSettings_of_read {nesting : ℕ} {bytes : List UInt8} {text : List Char} {document : Document}
    (decoded : fileText bytes = .ok text) (content : ¬text.all isBlank = true)
    (read : Document.read nesting text = .ok document) (present : document.root ≠ .null)
    (other : document.isMapping document.root = false) : ¬IsSettings nesting bytes := by
  rintro ⟨_, same, blank | ⟨_, again, absent | mapping⟩⟩
  · obtain rfl := Except.ok.inj (decoded.symm.trans same)
    exact content blank
  · obtain rfl := Except.ok.inj (decoded.symm.trans same)
    obtain rfl := Except.ok.inj (read.symm.trans again)
    exact present absent
  · obtain rfl := Except.ok.inj (decoded.symm.trans same)
    obtain rfl := Except.ok.inj (read.symm.trans again)
    rw [other] at mapping
    contradiction

/-- The text is taken for what it is: as a document, it is against the format or has a value for each scalar;
of a mapping settings can be made, and any other root but null counts as given. -/
def RegularText (nesting : ℕ) (text : List Char) : Prop :=
  text.all isBlank = true ∨ Document.read nesting text = .error .malformed ∨
    ∃ document, Document.read nesting text = .ok document ∧
      (document.root = .null ∨ document.isMapping document.root = true ∧ Fits document ∨
        document.isMapping document.root = false ∧ document.isGiven document.root = true)

/-- The bytes are those of a text, which is taken for what it is. -/
def Regular (nesting : ℕ) (bytes : List UInt8) : Prop :=
  ∃ text, fileText bytes = .ok text ∧ RegularText nesting text

/-- The project that settings are for by default: the one that is given, or the directory of the file. -/
def defaultProject (machine : Machine) (file : SpelledPath) : Option SpelledPath → Except Fault SpelledPath
  | none => .ok file.parent
  | some project => machine.expandHome project >>= machine.resolve

/-- A path leads to a settings file with these bytes, and the project is known. -/
structure Found (machine : Machine) (path : SpelledPath) (project : Option SpelledPath)
    (file root : SpelledPath) (bytes : List UInt8) : Prop where
  leads : fileAt machine path = .ok file
  known : defaultProject machine file project = .ok root
  holds : machine.readBytes file = .ok bytes

variable {machine : Machine} {path file root : SpelledPath} {project : Option SpelledPath} {bytes : List UInt8}

theorem Found.hasNul (found : Found machine path project file root bytes) : file.hasNul = false := by
  obtain ⟨place, located, -⟩ := bind_eq_ok_iff.mp found.holds
  unfold Machine.locate at located
  rw [WidePath.toText_ofSpelled, pathFault?_whole, WidePath.hasNul_ofSpelled] at located
  dsimp only at located
  split at located
  · contradiction
  · next nul => exact Bool.eq_false_iff.mpr nul

theorem root_of_fileAt (leads : fileAt machine path = .ok file) : file.root = .single := by
  have resolved {given : SpelledPath} (made : machine.resolve given = .ok file) : file.root = .single := by
    unfold Machine.resolve at made
    split at made
    · contradiction
    · rw [← Except.ok.inj made]
  obtain ⟨expanded, -, found⟩ := bind_eq_ok_iff.mp leads
  obtain ⟨directory, -, made⟩ := bind_eq_ok_iff.mp found
  split_ifs at made <;> exact resolved made

theorem Found.rooted (found : Found machine path project file root bytes) : file.parent.root ≠ .relative := by
  change file.root ≠ .relative
  rw [root_of_fileAt found.leads]
  exact PathRoot.noConfusion

theorem Found.exists? (found : Found machine path project file root bytes) : machine.exists? file = .ok true := by
  obtain ⟨place, located, -⟩ := bind_eq_ok_iff.mp found.holds
  rw [Machine.exists?, Machine.entry?, located]
  rfl

theorem Found.readText (found : Found machine path project file root bytes) :
    machine.readText file = ((fileText bytes).map String.ofList).mapError Fault.undecodable := by
  rw [Machine.readText, found.holds, fileText]
  dsimp only [bind, Except.bind]
  cases decodeUtf8 bytes <;> rfl

theorem load_eq (nesting : ℕ) (machine : Machine) (path : SpelledPath) (project : Option SpelledPath) :
    load nesting machine path project = (do
      let file ← (fileAt machine path).mapError SettingsError.fault
      let root ← (defaultProject machine file project).mapError SettingsError.fault
      if ← (machine.exists? file).mapError SettingsError.fault then
        let text ← (machine.readText file).mapError SettingsError.fault
        ofText nesting machine file.parent root file.name text
      else return { project := root }) := by
  cases project <;> rfl

/-- Settings are made of the bytes that a path leads to. -/
theorem load_of_found (nesting : ℕ) (found : Found machine path project file root bytes) :
    load nesting machine path project = ofBytes nesting machine file.parent root file.name bytes := by
  rw [load_eq, found.leads]
  change ((defaultProject machine file project).mapError SettingsError.fault >>= fun root => _) = _
  rw [found.known]
  change ((machine.exists? file).mapError SettingsError.fault >>= fun there => _) = _
  rw [found.exists?]
  change ((machine.readText file).mapError SettingsError.fault >>= fun text => _) = _
  rw [found.readText, ofBytes]
  cases fileText bytes <;> rfl

end Settings

end StoryCatalog
