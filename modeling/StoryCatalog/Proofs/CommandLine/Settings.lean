import StoryCatalog.Proofs.CommandLine.Launch
import StoryCatalog.Proofs.Settings.File
import StoryCatalog.Proofs.Text.Utf8

/-!
# Settings files as the user meets them

A file that is no settings file should be put to the user in a line of text, and every settings file should
give settings. This is so for the files that are taken for what they are, and for no others.
-/

namespace StoryCatalog.CommandLine

open Text Yaml

namespace Launch

/-- The result tells settings files from all others: they give settings, and the others a fault that is put
to the user. -/
def Classifies (result : Except SettingsError Settings) (its : Prop) : Prop :=
  (its → ∃ settings, result = .ok settings) ∧ (¬its → ∃ error, result = .error error ∧ isReported error = true)

theorem classifies_ok_iff {settings : Settings} {its : Prop} : Classifies (.ok settings) its ↔ its := by
  constructor
  · intro told
    by_contra other
    obtain ⟨error, failed, -⟩ := told.2 other
    contradiction
  · exact fun held => ⟨fun _ => ⟨settings, rfl⟩, fun other => absurd held other⟩

theorem classifies_error_iff {error : SettingsError} {its : Prop} (other : ¬its) :
    Classifies (.error error) its ↔ isReported error = true := by
  constructor
  · rintro ⟨-, told⟩
    obtain ⟨_, same, reported⟩ := told other
    exact Except.error.inj same ▸ reported
  · exact fun reported => ⟨fun held => absurd held other, fun _ => ⟨error, rfl, reported⟩⟩

theorem classifies_iff_of_its {result : Except SettingsError Settings} {its : Prop} (held : its) :
    Classifies result its ↔ ∃ settings, result = .ok settings :=
  ⟨fun told => told.1 held, fun made => ⟨fun _ => made, fun other => absurd held other⟩⟩

section Bytes

variable {nesting : ℕ} {machine : Machine} {base root : SpelledPath} {name : String}

theorem classifies_ofText_iff (plain : base.hasNul = false) (rooted : base.root ≠ .relative) (text : List Char) :
    Classifies (Settings.ofText nesting machine base root name (String.ofList text))
        (Settings.IsSettingsText nesting text) ↔
      Settings.RegularText nesting text := by
  -- A text is blank, or cannot be read, or is a document: nothing is asked of the values of a document
  -- before it is known to be given and a mapping.
  by_cases blank : text.all isBlank = true
  · rw [Settings.ofText_of_blank blank, classifies_ok_iff]
    exact iff_of_true (.inl blank) (.inl blank)
  · unfold Settings.IsSettingsText Settings.RegularText
    cases read : Document.read nesting text with
    | error error =>
      have other : ¬Settings.IsSettingsText nesting text := by simp [Settings.IsSettingsText, blank, read]
      rw [Settings.ofText_of_unread blank read]
      simp only [Settings.IsSettingsText, read] at other
      rw [classifies_error_iff other]
      cases error <;> simp [blank, SettingsError.ofDocument, isReported]
    | ok document =>
      rw [Settings.ofText_of_read blank read]
      simp only [blank, false_or, reduceCtorEq, Except.ok.injEq, exists_eq_left']
      cases given : document.isGiven document.root with
      | false =>
        have fits := Settings.fits_of_not_isGiven given
        rw [if_neg Bool.false_ne_true, classifies_ok_iff]
        simp [fits]
      | true =>
        have present : document.root ≠ .null := by
          intro absent
          rw [absent] at given
          contradiction
        rw [if_pos rfl]
        cases mapping : document.isMapping document.root with
        | false =>
          rw [if_neg Bool.false_ne_true, classifies_error_iff (by simp [present])]
          simp [isReported]
        | true =>
          rw [if_pos rfl, classifies_iff_of_its (.inr rfl), Settings.exists_ofDocument_iff plain rooted]
          simp [present]

/-- Bytes are classified exactly where they are taken for what they are. -/
theorem classifies_ofBytes_iff (plain : base.hasNul = false) (rooted : base.root ≠ .relative) (bytes : List UInt8) :
    Classifies (Settings.ofBytes nesting machine base root name bytes) (Settings.IsSettings nesting bytes) ↔
      Settings.Regular nesting bytes := by
  unfold Settings.ofBytes Settings.IsSettings Settings.Regular
  cases Settings.fileText bytes with
  | error fault =>
    simp only [reduceCtorEq, false_and, exists_false]
    exact (classifies_error_iff not_false).trans (iff_of_false Bool.false_ne_true not_false)
  | ok text =>
    simp only [Except.ok.injEq, exists_eq_left']
    exact classifies_ofText_iff plain rooted text

end Bytes

/-! ## The whole program -/

/-- The path that settings are loaded from, and the project that is given with it. -/
def asked (machine : Machine) (options : Options) :
    Except SettingsError (SpelledPath × Option SpelledPath) := do
  let project ← (machine.expandHome (.ofText options.path) >>= machine.resolve).mapError SettingsError.fault
  match options.settingsFile with
  | none => return (project, none)
  | some none => throw SettingsError.unnamed
  | some (some file) =>
    let expanded ← (machine.expandHome (.ofText file)).mapError SettingsError.fault
    if ← (machine.isFile? expanded).mapError SettingsError.fault then return (.ofText file, some project)
    else throw (SettingsError.notFound (SpelledPath.ofText file).toText)

theorem settingsOf_eq (nesting : ℕ) (machine : Machine) (options : Options) :
    settingsOf nesting machine options = (do
      let (path, project) ← asked machine options
      return override options (← Settings.load nesting machine path project)) := by
  unfold settingsOf asked
  cases (machine.expandHome (.ofText options.path) >>= machine.resolve).mapError SettingsError.fault with
  | error error => rfl
  | ok project =>
    cases options.settingsFile with
    | none => rfl
    | some file =>
      cases file with
      | none => rfl
      | some file =>
        simp only [namedSettings, bind, Except.bind]
        cases (machine.expandHome (.ofText file)).mapError SettingsError.fault with
        | error error => rfl
        | ok expanded =>
          dsimp only
          cases (machine.isFile? expanded).mapError SettingsError.fault with
          | error error => rfl
          | ok there => cases there <;> rfl

theorem settingsOf_of_asked {nesting : ℕ} {machine : Machine} {options : Options} {path : SpelledPath}
    {project : Option SpelledPath} (asks : asked machine options = .ok (path, project)) :
    settingsOf nesting machine options = (Settings.load nesting machine path project).map (override options) := by
  rw [settingsOf_eq, asks]
  change (Settings.load nesting machine path project >>= fun settings => pure (override options settings)) = _
  cases Settings.load nesting machine path project <;> rfl

/-- The program ends with status 1 and has served nothing. -/
def EndsUnserved (result : Except Ending Unit × Session) : Prop :=
  result.1 = .error (.exit 1) ∧ result.2.served = none

/-- From its log on, the program ends this way exactly where a fault in the settings is put to the user. -/
theorem endsUnserved_iff {options : Options} {session : Session} {source : IndexSource}
    {refusal : Option String} (unserved : session.served = none) :
    EndsUnserved (after (do
        let settings ← readSettings options
        report settings
        serve settings options.host source refusal) session) ↔
      ∃ error, settingsOf session.depths.settings session.machine options = .error error ∧ isReported error = true := by
  rw [after_bind, after_readSettings]
  cases settingsOf session.depths.settings session.machine options with
  | ok settings =>
    refine iff_of_false ?_ (by simp)
    rintro ⟨ended, none_served⟩
    exact served_of_exit ended none_served
  | error error =>
    dsimp only
    cases reported : isReported error with
    | true => exact iff_of_true ⟨rfl, unserved⟩ ⟨error, rfl, reported⟩
    | false =>
      refine iff_of_false ?_ ?_
      · rintro ⟨ended, -⟩
        exact Ending.noConfusion (Except.error.inj ended)
      · rintro ⟨_, same, other⟩
        obtain rfl := Except.error.inj same
        rw [reported] at other
        contradiction

theorem launch_eq_after {machine : Machine} {depths : Depths} {clock : String} {arguments : List String}
    {options : Options} {session : Session} (parsed : Request.ofArguments arguments = .ok (.run options))
    (opened : after (setUpLog options) { machine, depths, clock } = (.ok (), session)) (source : IndexSource)
    (refusal : Option String) :
    launch machine depths clock arguments source refusal = after (do
      let settings ← readSettings options
      report settings
      serve settings options.host source refusal) session := by
  change after (program arguments source refusal) { machine, depths, clock } = _
  unfold program
  rw [parsed]
  exact after_bind_of_ok opened _

/-- Opening the log serves nothing, and leaves it as it is how deep documents may be nested. -/
theorem unserved_of_setUpLog {machine : Machine} {depths : Depths} {clock : String} {options : Options}
    {session : Session} (opened : after (setUpLog options) { machine, depths, clock } = (.ok (), session)) :
    session.depths = depths ∧ session.served = none := by
  have kept := (keeps_setUpLog (P := fun allowed served => allowed = depths ∧ served = none) (Q := fun _ => True)
    (fun _ => trivial) options { machine, depths, clock } ⟨rfl, rfl⟩).1
  rwa [opened] at kept

/-- Without a log file the log is open at once. -/
theorem after_setUpLog_plain (machine : Machine) (depths : Depths) (clock path : String) :
    after (setUpLog { path }) { machine, depths, clock } = (.ok (), { machine, depths, clock }) := rfl

/-- A project with a settings file of this text. -/
def settingsMachine (text : String) : Machine where
  disk := ({} : Disk).addFile ["p", ".storybook-api.yml"] (asciiBytes text.toList)
  here := .root
  home := "/"

theorem found_settingsMachine (text : String) :
    Settings.Found (settingsMachine text) (.ofText "/p") none (.ofText "/p/.storybook-api.yml") (.ofText "/p")
      (asciiBytes text.toList) :=
  ⟨rfl, rfl, rfl⟩

theorem asked_settingsMachine (text : String) :
    asked (settingsMachine text) { path := "/p" } = .ok (.ofText "/p", none) := rfl

end Launch

end StoryCatalog.CommandLine
