import StoryCatalog.CommandLine.Options
import StoryCatalog.Proofs.Except
import StoryCatalog.Proofs.Number.Reading

/-!
# What a command line gives

Reading goes from one flag to the next, and each changes the options by itself: what every flag leaves true of
the options is true of what is read in the end. Flags that are given with their values as arguments of their
own are taken over in the order in which they stand.
-/

namespace StoryCatalog.CommandLine

open Text Number

namespace Options

/-- Neither a flag nor the project's directory makes it untrue. -/
structure Stable (P : Options → Prop) : Prop where
  path : ∀ {options : Options} {path}, P options → P { options with path }
  withFlag : ∀ {options changed : Options} {flag}, P options → options.withFlag flag = .ok changed → P changed
  withValue : ∀ {options changed : Options} {flag value}, P options →
    options.withValue flag value = .ok changed → P changed
  withNothing : ∀ {options : Options} {flag}, P options → P (options.withNothing flag)

theorem Stable.withJoined {P : Options → Prop} (stable : Stable P) {options changed : Options} {flag : Flag}
    {joined : String} (held : P options) (done : options.withJoined flag joined = .ok changed) : P changed := by
  unfold Options.withJoined at done
  split_ifs at done
  · exact Except.ok.inj done ▸ stable.withNothing held
  · exact stable.withValue held done

end Options

namespace Reading

variable {P : Options → Prop}

theorem addText_stable (stable : Options.Stable P) {reading : Reading} (held : P reading.options) (text : String) :
    P (reading.addText text).options := by
  unfold addText
  split_ifs
  · exact held
  · exact stable.path held

theorem addRest_stable (stable : Options.Stable P) {reading : Reading} (held : P reading.options)
    (afterText : Bool) (texts : List String) : P (reading.addRest afterText texts).options := by
  have each : ∀ reading : Reading, P reading.options → P (texts.foldl addText reading).options := by
    induction texts with
    | nil => exact fun _ held => held
    | cons text texts ih => exact fun _ held => ih _ (addText_stable stable held text)
  unfold addRest
  split_ifs
  · exact held
  · exact each reading held

theorem addPlain_stable (stable : Options.Stable P) {reading changed : Reading} {flags : List Flag}
    (held : P reading.options) (done : reading.addPlain flags = .ok changed) : P changed.options := by
  have each (flags : List Flag) : ∀ {options changed}, P options →
      flags.foldlM Options.withFlag options = .ok changed → P changed := by
    induction flags with
    | nil => exact fun held folded => Except.ok.inj folded ▸ held
    | cons flag flags ih =>
      intro options changed held folded
      obtain ⟨next, first, later⟩ := bind_eq_ok_iff.mp folded
      exact ih (stable.withFlag held first) later
  obtain ⟨options, folded, same⟩ := bind_eq_ok_iff.mp done
  exact Except.ok.inj same ▸ each flags held folded

/-- What every flag leaves true is true of all that is read. -/
theorem read_stable (stable : Options.Stable P) {afterText : Bool} {reading result : Reading} {words : List Word}
    (held : P reading.options) (done : read afterText reading words = .ok result) : P result.options := by
  induction afterText, reading, words using read.induct with
  | case1 afterText reading => exact Except.ok.inj done ▸ held
  | case2 afterText reading text rest ih =>
    rw [read] at done
    exact ih (addText_stable stable held text) done
  | case3 afterText reading rest =>
    rw [read] at done
    exact Except.ok.inj done ▸ addRest_stable stable held afterText (texts rest)
  | case4 afterText reading text rest ih =>
    rw [read] at done
    exact ih held done
  | case5 afterText reading flag short joined rest error grouped =>
    simp [read, grouped] at done
  | case6 afterText reading flag short joined rest group grouped valued ih =>
    simp only [read, grouped, valued] at done
    obtain ⟨next, plain, later⟩ := bind_eq_ok_iff.mp done
    exact ih next (addPlain_stable stable held plain) later
  | case7 afterText reading flag short joined rest group grouped flag' joined' valued ih =>
    simp only [read, grouped, valued] at done
    obtain ⟨next, plain, done⟩ := bind_eq_ok_iff.mp done
    obtain ⟨options, given, later⟩ := bind_eq_ok_iff.mp done
    exact ih next options (stable.withJoined (addPlain_stable stable held plain) given) later
  | case8 afterText reading flag short joined group grouped flag' valued value rest ih =>
    simp only [read, grouped, valued] at done
    obtain ⟨next, plain, done⟩ := bind_eq_ok_iff.mp done
    obtain ⟨options, given, later⟩ := bind_eq_ok_iff.mp done
    exact ih next options (stable.withValue (addPlain_stable stable held plain) given) later
  | case9 afterText reading flag short joined rest group grouped flag' valued other =>
    cases rest with
    | nil => simp [read, grouped, valued] at done
    | cons word rest =>
      cases word with
      | text value => exact absurd rfl (other value rest)
      | _ => simp [read, grouped, valued] at done

end Reading

/-- What holds without arguments, and is left true by every flag, holds of the options of every command line. -/
theorem Request.ofArguments_stable {P : Options → Prop} (stable : Options.Stable P) (start : P {})
    {arguments : List String} {options : Options} (parsed : Request.ofArguments arguments = .ok (.run options)) :
    P options := by
  unfold Request.ofArguments at parsed
  split at parsed
  · contradiction
  · next words _ =>
    unfold Reading.request at parsed
    cases done : Reading.read false {} words with
    | error stop =>
      rw [done] at parsed
      cases stop <;> simp at parsed
    | ok reading =>
      simp only [done] at parsed
      split_ifs at parsed
      · obtain rfl := Request.run.inj (Except.ok.inj parsed)
        exact Reading.read_stable stable start done

/-- A port for the story server has few enough digits to be written. -/
def Options.Writable (options : Options) : Prop :=
  ∀ port, options.storyPort = some (some port) → digitCount port.natAbs ≤ digitLimit

theorem Options.stable_writable : Options.Stable Options.Writable where
  path held := held
  withFlag {options changed flag} held done := by
    cases flag <;> simp only [withFlag, Except.ok.injEq, reduceCtorEq] at done <;> exact done ▸ held
  withValue {options changed flag value} held done := by
    cases flag with
    | storyPort =>
      obtain ⟨port, whole, same⟩ := bind_eq_ok_iff.mp done
      obtain rfl := Except.ok.inj same
      intro other given
      obtain rfl := Option.some.inj (Option.some.inj given)
      unfold wholeValue at whole
      split at whole
      · next read => exact Except.ok.inj whole ▸ digitCount_of_readWhole? read
      · contradiction
    | port =>
      obtain ⟨port, whole, same⟩ := bind_eq_ok_iff.mp done
      exact Except.ok.inj same ▸ held
    | _ => exact Except.ok.inj done ▸ held
  withNothing {options flag} held := by
    cases flag with
    | storyPort => exact fun other given => (nomatch Option.some.inj given)
    | _ => exact held

/-! ## Flags with their values -/

/-- A flag and its value as two arguments. -/
structure Given where
  spelling : String
  flag : Flag
  value : String
  spelled : Flag.ofSpelling? spelling = some flag
  valued : flag.takesValue = true
  apart : value ≠ "--"
  text : Word.ofArgument value = .ok (.text value)

namespace Given

def arguments (given : Given) : List String := [given.spelling, given.value]

/-- The options with the flag. -/
def apply (options : Options) (given : Given) : Except Stop Options :=
  options.withValue given.flag given.value

end Given

theorem Word.ofArgument_spelling {spelling : String} {flag : Flag}
    (spelled : Flag.ofSpelling? spelling = some flag) :
    spelling ≠ "--" ∧ ∃ short, Word.ofArgument spelling = .ok (.flag flag short none) := by
  have known : ∀ pair ∈ Flag.spellings, pair.1 ≠ "--" ∧
      Word.ofArgument pair.1 = .ok (.flag pair.2 (!Word.isLong pair.1.toList) none) := by decide +kernel
  have listed : (spelling, flag) ∈ Flag.spellings := by
    obtain ⟨front, back, same, -⟩ := List.lookup_eq_some_iff.mp spelled
    rw [same]
    exact List.mem_append_right _ (List.mem_cons_self ..)
  obtain ⟨apart, word⟩ := known _ listed
  exact ⟨apart, _, word⟩

theorem Word.ofArguments_cons {argument : String} {word : Word} {rest : List String} {words : List Word}
    (apart : argument ≠ "--") (first : Word.ofArgument argument = .ok word)
    (others : Word.ofArguments rest = .ok words) : Word.ofArguments (argument :: rest) = .ok (word :: words) := by
  rw [Word.ofArguments, if_neg apart, first, others]
  rfl

/-- Flags with their values are taken over one after the other. -/
theorem read_given (given : List Given) :
    ∃ words, Word.ofArguments (given.flatMap Given.arguments) = .ok words ∧ ∀ afterText reading options,
      given.foldlM Given.apply reading.options = .ok options →
      Reading.read afterText reading words = .ok { reading with options } := by
  induction given with
  | nil =>
    refine ⟨[], rfl, fun afterText reading options folded => ?_⟩
    rw [← Except.ok.inj folded]
    rfl
  | cons first given ih =>
    obtain ⟨words, worded, read⟩ := ih
    obtain ⟨apart, short, flagged⟩ := Word.ofArgument_spelling first.spelled
    refine ⟨.flag first.flag short none :: .text first.value :: words,
      Word.ofArguments_cons apart flagged (Word.ofArguments_cons first.apart first.text worded), ?_⟩
    intro afterText reading options folded
    obtain ⟨next, valued, later⟩ := bind_eq_ok_iff.mp folded
    have group : flagGroup first.flag short none = .ok ⟨[], some (first.flag, none)⟩ := by
      simp [flagGroup, shortFlags, first.valued]
    have taken : reading.addPlain [] = .ok reading := rfl
    simp only [Reading.read, group, taken]
    change (first.apply reading.options >>= fun options =>
      Reading.read false { reading with options } words) = _
    rw [valued]
    exact read false { reading with options := next } options later

/-- A project's directory and flags with their values behind it. -/
theorem Request.ofArguments_given {path : String} {given : List Given} {options : Options} (apart : path ≠ "--")
    (text : Word.ofArgument path = .ok (.text path)) (applied : given.foldlM Given.apply { path } = .ok options) :
    Request.ofArguments (path :: given.flatMap Given.arguments) = .ok (.run options) := by
  obtain ⟨words, worded, read⟩ := read_given given
  have done : Reading.read false {} (.text path :: words) = .ok ⟨options, true, []⟩ := by
    rw [Reading.read]
    exact read true ⟨{ path }, true, []⟩ options applied
  unfold Request.ofArguments
  rw [Word.ofArguments_cons apart text worded]
  simp [Reading.request, done]

end StoryCatalog.CommandLine
