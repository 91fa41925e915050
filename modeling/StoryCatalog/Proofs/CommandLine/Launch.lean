import StoryCatalog.CommandLine.Launch
import StoryCatalog.Proofs.Except

/-!
# How launching goes on

A step ends the program or hands its session on to the next one. Most steps leave what is served alone and
end the program, if at all, by a fault that is not put to the user.
-/

namespace StoryCatalog.CommandLine.Launch

variable {α β : Type}

/-- What a step gives in a session, and the session that it leaves. -/
def after (step : Launch α) (session : Session) : Except Ending α × Session :=
  StateT.run (ExceptT.run step) session

theorem after_bind (step : Launch α) (next : α → Launch β) (session : Session) :
    after (step >>= next) session =
      match after step session with
      | (.ok value, session) => after (next value) session
      | (.error ending, session) => (.error ending, session) := by
  unfold after ExceptT.run StateT.run
  simp only [bind, ExceptT.bind, ExceptT.mk, StateT.bind, ExceptT.bindCont]
  cases step session with
  | mk result left => cases result <;> rfl

theorem after_get_bind (next : Session → Launch β) (session : Session) :
    after (get >>= next) session = after (next session) session := rfl

theorem after_modify_bind (change : Session → Session) (next : PUnit → Launch β) (session : Session) :
    after (modify change >>= next) session = after (next ⟨⟩) (change session) := rfl

theorem after_bind_of_ok {step : Launch α} {session left : Session} {value : α}
    (done : after step session = (.ok value, left)) (next : α → Launch β) :
    after (step >>= next) session = after (next value) left := by
  rw [after_bind, done]

/-! ## Steps that leave alone what is served -/

/-- Whatever is served, and how deep documents may be nested, meets `P` also after the step, and the step ends only in
ways that meet `Q`. -/
def Keeps (P : Depths → Option Served → Prop) (Q : Ending → Prop) (step : Launch α) : Prop :=
  ∀ session, P session.depths session.served → P (after step session).2.depths (after step session).2.served ∧
    ∀ ending, (after step session).1 = .error ending → Q ending

variable {P : Depths → Option Served → Prop} {Q : Ending → Prop}

theorem keeps_pure (value : α) : Keeps P Q (pure value) :=
  fun _ held => ⟨held, fun _ ended => (nomatch ended)⟩

theorem keeps_throw {ending : Ending} (meant : Q ending) : Keeps P Q (throw ending : Launch α) :=
  fun _ held => ⟨held, fun _ ended => Except.error.inj ended ▸ meant⟩

theorem keeps_get : Keeps P Q (get : Launch Session) :=
  fun _ held => ⟨held, fun _ ended => (nomatch ended)⟩

theorem keeps_modify {change : Session → Session}
    (keeps : ∀ session, P session.depths session.served → P (change session).depths (change session).served) :
    Keeps P Q (modify change) :=
  fun session held => ⟨keeps session held, fun _ ended => (nomatch ended)⟩

theorem Keeps.bind {step : Launch α} {next : α → Launch β} (first : Keeps P Q step)
    (later : ∀ value, Keeps P Q (next value)) : Keeps P Q (step >>= next) := by
  intro session held
  obtain ⟨kept, ends⟩ := first session held
  rw [after_bind]
  cases done : after step session with
  | mk result left =>
    rw [done] at kept ends
    cases result with
    | ok value => exact later value left kept
    | error ending => exact ⟨kept, fun _ same => ends _ (Except.error.inj same ▸ rfl)⟩

theorem keeps_exit (meant : ∀ status, Q (.exit status)) (status : Nat) (text : String) :
    Keeps P Q (exit status text : Launch α) :=
  (keeps_modify fun _ => id).bind fun _ => keeps_throw (meant status)

section Faults

variable (faults : ∀ error, Q (.fault error))
include faults

theorem keeps_orFail {ε : Type} (error : ε → LaunchError) (result : Except ε α) :
    Keeps P Q (orFail error result) := by
  cases result with
  | ok value => exact keeps_pure value
  | error cause => exact keeps_throw (faults _)

theorem keeps_openLog (path : String) : Keeps P Q (openLog path) := by
  unfold openLog
  refine Keeps.bind keeps_get fun session => ?_
  dsimp only
  refine Keeps.bind (keeps_orFail faults _ _) fun expanded => ?_
  refine Keeps.bind (keeps_orFail faults _ _) fun machine => ?_
  refine Keeps.bind ?_ fun _ => Keeps.bind (keeps_orFail faults _ _) fun opened => ?_
  · exact keeps_modify fun _ => id
  · exact keeps_modify fun _ => id

theorem keeps_setUpLog (options : Options) : Keeps P Q (setUpLog options) := by
  unfold setUpLog
  refine Keeps.bind ?_ fun _ => ?_
  · exact keeps_modify fun _ => id
  · split
    · exact keeps_pure ()
    · exact keeps_throw (faults _)
    · exact keeps_openLog faults _

omit faults in
theorem keeps_log (record : LogRecord) : Keeps P Q (log record) := by
  refine keeps_get.bind fun session => ?_
  split_ifs
  · exact (keeps_modify fun _ => id).bind fun _ => keeps_modify fun _ => id
  · exact keeps_pure ()

theorem keeps_found (finding : Project.Finding α) : Keeps P Q (found finding) := by
  have logged (records : List LogRecord) : Keeps P Q (records.forM log) := by
    induction records with
    | nil => exact keeps_pure ()
    | cons record records ih => exact (keeps_log record).bind fun _ => ih
  exact (logged finding.records).bind fun _ => keeps_orFail faults _ _

theorem keeps_report (settings : Settings) : Keeps P Q (report settings) := by
  have version : Keeps P Q (reportVersion settings) := by
    refine keeps_get.bind fun session => (keeps_found faults _).bind fun version => ?_
    split <;> exact keeps_log _
  have configuration : Keeps P Q (reportConfiguration settings) := by
    refine keeps_get.bind fun session => (keeps_orFail faults _ _).bind fun path => ?_
    split <;> exact keeps_log _
  refine version.bind fun _ => configuration.bind fun _ => ?_
  refine (keeps_orFail faults _ _).bind fun server => (keeps_log _).bind fun _ => ?_
  split
  · exact keeps_log _
  · exact keeps_pure ()

end Faults

/-! ## From settings on -/

/-- Serving hands over its settings before all else, and no others later. -/
theorem served_after_serve (settings : Settings) (host refusal : Option String) (source : IndexSource)
    (session : Session) :
    ∃ service, (after (serve settings host source refusal) session).2.served = some ⟨settings, host, service⟩ := by
  unfold serve
  rw [after_modify_bind]
  refine (Keeps.bind (P := fun _ served => ∃ service, served = some ⟨settings, host, service⟩) (Q := fun _ => True) ?_
    (fun name => ?_) _ ⟨none, rfl⟩).1
  · exact Keeps.bind keeps_get fun session => keeps_found (fun _ => trivial) _
  · refine Keeps.bind keeps_get fun session => ?_
    dsimp only
    refine Keeps.bind (keeps_found (fun _ => trivial) _) fun version => ?_
    refine Keeps.bind (keeps_orFail (fun _ => trivial) _ _) fun server => ?_
    refine Keeps.bind ?_ fun _ => ?_
    · exact keeps_modify fun _ _ => ⟨_, rfl⟩
    · split
      · exact keeps_pure ()
      · exact keeps_exit (fun _ => trivial) _ _

/-- Settings are served unless the report of what was found ends the program before. -/
theorem served_after_report {settings : Settings} {session : Session} (unserved : session.served = none)
    (host refusal : Option String) (source : IndexSource) :
    ((after (report settings) session).1 = .ok () → ∃ service,
        (after (do report settings; serve settings host source refusal) session).2.served =
          some ⟨settings, host, service⟩) ∧
      ((after (report settings) session).1 ≠ .ok () →
        (after (do report settings; serve settings host source refusal) session).2.served = none) := by
  have kept := (keeps_report (P := fun _ served => served = none) (Q := fun _ => True) (fun _ => trivial) settings
    session unserved).1
  rw [after_bind]
  cases told : after (report settings) session with
  | mk result later =>
    rw [told] at kept
    cases result with
    | ok _ => exact ⟨fun _ => served_after_serve settings host refusal source later, fun failed => absurd rfl failed⟩
    | error ending => exact ⟨fun done => (nomatch done), fun _ => kept⟩

/-- Once settings are there, the program ends by a status only after it has served. -/
theorem served_of_exit {settings : Settings} {host refusal : Option String} {source : IndexSource}
    {session : Session} {status : Nat}
    (ended : (after (do report settings; serve settings host source refusal) session).1 =
      .error (.exit status)) :
    (after (do report settings; serve settings host source refusal) session).2.served ≠ none := by
  -- A report ends by faults only, so a status is one of serving.
  have told : Keeps (fun _ _ => True) (fun ending => ∃ error, ending = .fault error) (report settings) :=
    keeps_report (fun error => ⟨error, rfl⟩) settings
  obtain ⟨-, ends⟩ := told session trivial
  rw [after_bind] at ended ⊢
  cases done : after (report settings) session with
  | mk result later =>
    rw [done] at ended ends
    cases result with
    | ok _ =>
      obtain ⟨service, served⟩ := served_after_serve settings host refusal source later
      change (after (serve settings host source refusal) later).2.served ≠ none
      rw [served]
      exact Option.some_ne_none _
    | error ending =>
      obtain ⟨error, rfl⟩ := ends ending rfl
      exact absurd (Except.error.inj ended) Ending.noConfusion

/-- Reading the settings of a session. -/
theorem after_readSettings (options : Options) (session : Session) :
    after (readSettings options) session =
      match settingsOf session.depths.settings session.machine options with
      | .ok settings => (.ok settings, session)
      | .error error =>
        if isReported error then
          (.error (.exit 1), { session with errors := session.errors ++ (error.message ++ "\n") })
        else (.error (.fault (.settings error)), session) := by
  unfold readSettings
  rw [after_get_bind]
  cases settingsOf session.depths.settings session.machine options with
  | ok settings => rfl
  | error error =>
    dsimp only
    split_ifs <;> rfl

end StoryCatalog.CommandLine.Launch
