import StoryCatalog.Proofs.CommandLine.Options
import StoryCatalog.Proofs.CommandLine.Settings

/-!
# Options over the settings file

Each option takes the place of one setting and leaves the others. The address of the story server is made of
two of them, and there an address wins over a port wherever the two come from: the address of the file also wins
over a port on the command line.
-/

namespace StoryCatalog.CommandLine

open Number

/-- No address, or an empty one. -/
def Unaddressed (address : Option WideText) : Prop :=
  address = none ∨ address = some ""

/-- The settings are the loaded ones with the options over them, and the story server is where they say. -/
structure Overrides (options : Options) (loaded settings : Settings) : Prop where
  port_given : ∀ port, options.port = some (some port) → settings.port = some port
  port_kept : options.port = none → settings.port = loaded.port
  storyPort_kept : options.storyPort = none → settings.storyPort = loaded.storyPort
  storyAddress_kept : Unaddressed (options.storyAddress.map .whole) → settings.storyAddress = loaded.storyAddress
  others_kept : { settings with
      port := loaded.port, storyPort := loaded.storyPort, storyAddress := loaded.storyAddress } = loaded
  server_of_address : ∀ address : String, address ≠ "" → options.storyAddress = some address →
    settings.server = .ok (Index.withoutEndSlashes address)
  server_of_file : ∀ address : WideText, address ≠ "" → Unaddressed (options.storyAddress.map .whole) →
    loaded.storyAddress = some address → settings.server = .ok (Index.withoutEndSlashes address)
  server_of_port : ∀ port, Unaddressed (options.storyAddress.map .whole) → Unaddressed loaded.storyAddress →
    options.storyPort = some (some port) → settings.server = .ok (.whole ("http://localhost:" ++ toString port))
  server_kept : Unaddressed (options.storyAddress.map .whole) → Unaddressed loaded.storyAddress →
    options.storyPort = none →
    settings.server = (Settings.portText loaded.storyPort).map fun port => .whole ("http://localhost:" ++ port)

theorem server_of_addressed {settings : Settings} {address : WideText} (given : address ≠ "")
    (addressed : settings.storyAddress = some address) :
    settings.server = .ok (Index.withoutEndSlashes address) := by
  unfold Settings.server
  rw [addressed]
  split
  · contradiction
  · next empty => exact absurd (Option.some.inj empty) given
  · next same => rw [Option.some.inj same]

theorem server_of_unaddressed {settings : Settings} (unaddressed : Unaddressed settings.storyAddress) :
    settings.server = (Settings.portText settings.storyPort).map fun port => .whole ("http://localhost:" ++ port) := by
  unfold Settings.server
  rcases unaddressed with absent | empty
  · rw [absent]
    cases Settings.portText settings.storyPort <;> rfl
  · rw [empty]
    cases Settings.portText settings.storyPort <;> rfl

namespace Launch

theorem storyAddress_override {options : Options} {loaded : Settings}
    (unaddressed : Unaddressed (options.storyAddress.map .whole)) :
    (override options loaded).storyAddress = loaded.storyAddress := by
  unfold override
  rcases unaddressed with absent | empty
  · rw [Option.map_eq_none_iff.mp absent]
  · obtain ⟨address, given, same⟩ := Option.map_eq_some_iff.mp empty
    rw [given, WideText.whole.inj same]
    rfl

theorem overrides_override {options : Options} (writable : options.Writable) (loaded : Settings) :
    Overrides options loaded (override options loaded) where
  port_given port given := by simp [override, given]
  port_kept absent := by simp [override, absent]
  storyPort_kept absent := by simp [override, absent]
  storyAddress_kept := storyAddress_override
  others_kept := rfl
  server_of_address address given addressed := by
    refine server_of_addressed (fun empty => given (WideText.whole.inj empty)) ?_
    unfold override
    rw [addressed]
    dsimp only
    split
    · contradiction
    · next empty => exact absurd (Option.some.inj empty) given
    · next same => rw [Option.some.inj same]
  server_of_file address given unaddressed addressed :=
    server_of_addressed given ((storyAddress_override unaddressed).trans addressed)
  server_of_port port unaddressed fileUnaddressed given := by
    have written : Settings.portText (some port) = .ok (toString port) := by
      rw [Settings.portText, wholeText, if_neg (Nat.not_lt.mpr (writable port given)), intText_eq_toString]
    have taken : (override options loaded).storyPort = some port := by simp [override, given]
    rw [server_of_unaddressed ((storyAddress_override unaddressed).symm ▸ fileUnaddressed), taken, written]
    rfl
  server_kept unaddressed fileUnaddressed absent := by
    have kept : (override options loaded).storyPort = loaded.storyPort := by simp [override, absent]
    rw [server_of_unaddressed ((storyAddress_override unaddressed).symm ▸ fileUnaddressed), kept]

/-- Where the settings file loads, every command line that is accepted gives settings, which are the loaded ones
with the options over them, and nothing else is served. -/
theorem options_over_file {machine : Machine} {depths : Depths} {clock : String} {arguments : List String}
    {options : Options} {session : Session} {path : SpelledPath} {project : Option SpelledPath} {loaded : Settings}
    (parsed : Request.ofArguments arguments = .ok (.run options))
    (opened : after (setUpLog options) { machine, depths, clock } = (.ok (), session))
    (asks : asked session.machine options = .ok (path, project))
    (loads : Settings.load depths.settings session.machine path project = .ok loaded) (source : IndexSource)
    (refusal : Option String) :
    ∃ settings, settingsOf depths.settings session.machine options = .ok settings ∧ Overrides options loaded settings ∧
      ((after (report settings) session).1 = .ok () →
        ∃ service, (launch machine depths clock arguments source refusal).2.served =
          some ⟨settings, options.host, service⟩) ∧
      ((after (report settings) session).1 ≠ .ok () →
        (launch machine depths clock arguments source refusal).2.served = none) := by
  have made : settingsOf depths.settings session.machine options = .ok (override options loaded) := by
    rw [settingsOf_of_asked asks, loads]
    rfl
  obtain ⟨allowed, unserved⟩ := unserved_of_setUpLog opened
  have writable : options.Writable :=
    Request.ofArguments_stable Options.stable_writable (fun _ given => (nomatch given)) parsed
  have launched : launch machine depths clock arguments source refusal = after (do
      report (override options loaded)
      serve (override options loaded) options.host source refusal) session := by
    rw [launch_eq_after parsed opened, after_bind, after_readSettings, allowed, made]
  rw [launched]
  exact ⟨_, made, overrides_override writable loaded,
    served_after_report unserved options.host refusal source⟩

/-- A settings file with a port and with the address of the story server. -/
def addressedFile : String := "port: 7007\nstorybook:\n  url: http://sb/\n"

theorem load_addressedFile :
    ∃ loaded, Settings.load 490 (settingsMachine addressedFile) (.ofText "/p") none = .ok loaded ∧
      loaded.port = some 7007 ∧ loaded.storyAddress = some "http://sb/" := by
  have fields : (Settings.load 490 (settingsMachine addressedFile) (.ofText "/p") none).map
      (fun loaded => (loaded.port, loaded.storyAddress)) = .ok (some 7007, some "http://sb/") := by decide +kernel
  cases loads : Settings.load 490 (settingsMachine addressedFile) (.ofText "/p") none with
  | error error =>
    rw [loads] at fields
    contradiction
  | ok loaded =>
    rw [loads] at fields
    obtain ⟨port, address⟩ := Prod.mk.inj (Except.ok.inj fields)
    exact ⟨loaded, rfl, port, address⟩

/-- Ports for both servers on the command line. -/
def givenPorts : List Given :=
  [⟨"-p", .port, "9000", rfl, rfl, by decide, rfl⟩, ⟨"-s", .storyPort, "7000", rfl, rfl, by decide, rfl⟩]

def portOptions : Options where
  path := "/p"
  port := some (some 9000)
  storyPort := some (some 7000)

theorem ports_over_addressedFile :
    Request.ofArguments ("/p" :: givenPorts.flatMap Given.arguments) = .ok (.run portOptions) ∧
      ∃ loaded settings service, Settings.load 490 (settingsMachine addressedFile) (.ofText "/p") none = .ok loaded ∧
        (launch (settingsMachine addressedFile) .usual "" ("/p" :: givenPorts.flatMap Given.arguments)
          (.connection (.refuses 404)) none).2.served = some ⟨settings, some "0.0.0.0", service⟩ ∧
        settings.port = some 9000 ∧ settings.server = .ok "http://sb" ∧ settings.framework = loaded.framework := by
  have parsed : Request.ofArguments ("/p" :: givenPorts.flatMap Given.arguments) = .ok (.run portOptions) :=
    Request.ofArguments_given (by decide) rfl (by decide +kernel)
  have opened : after (setUpLog portOptions) { machine := settingsMachine addressedFile, depths := .usual, clock := "" } =
      (.ok (), { machine := settingsMachine addressedFile, depths := .usual, clock := "" }) := rfl
  have asks : asked (settingsMachine addressedFile) portOptions = .ok (.ofText "/p", none) :=
    asked_settingsMachine addressedFile
  obtain ⟨loaded, loads, -, address⟩ := load_addressedFile
  obtain ⟨settings, -, overrides, served, unserved⟩ :=
    options_over_file parsed opened asks loads (.connection (.refuses 404)) none
  have starts : (launch (settingsMachine addressedFile) .usual "" ("/p" :: givenPorts.flatMap Given.arguments)
      (.connection (.refuses 404)) none).2.served.isSome = true := by decide +kernel
  have told :
      (after (report settings) { machine := settingsMachine addressedFile, depths := .usual, clock := "" }).1 = .ok () := by
    by_contra failed
    exact Option.isSome_iff_ne_none.mp starts (unserved failed)
  obtain ⟨service, handed⟩ := served told
  have slashless : Index.withoutEndSlashes "http://sb/" = "http://sb" := by decide +kernel
  have server := overrides.server_of_file "http://sb/" (by decide) (.inl rfl) address
  rw [slashless] at server
  have framework := congrArg Settings.framework overrides.others_kept
  exact ⟨parsed, loaded, settings, service, loads, handed, overrides.port_given 9000 rfl, server, framework⟩

/-- The file's address is where the story server is, also where its port is on the command line. -/
theorem given_port_under_file_address :
    Request.ofArguments ["/p", "-s", "7000"] = .ok (.run { path := "/p", storyPort := some (some 7000) }) ∧
      (∃ loaded, Settings.load 490 (settingsMachine addressedFile) (.ofText "/p") none = .ok loaded) ∧
      (launch (settingsMachine addressedFile) .usual "" ["/p", "-s", "7000"] (.connection (.refuses 404)) none).2.served.map
        (·.settings.server) = some (.ok "http://sb") := by
  obtain ⟨loaded, loads, -⟩ := load_addressedFile
  exact ⟨by decide +kernel, ⟨loaded, loads⟩, by decide +kernel⟩

end Launch

end StoryCatalog.CommandLine
