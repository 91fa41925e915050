import StoryCatalog.Proofs.Fields
import StoryCatalog.Proofs.Source.Token
import StoryCatalog.Proofs.Story.Record
import StoryCatalog.Proofs.Text.Character
import StoryCatalog.Proofs.Text.Split
import Mathlib.Data.Bool.AllAny

/-!
# Controls of args

A default export that names its component and lists the controls of its args gives both back. The block of the
controls ends at the first brace with one of four ends behind it. The brace of an entry has the next name or the
block's own brace behind it instead, so no entry ends the block, as long as none is named like an end. Nothing is
said of blocks with other things behind them, which are not found at all.
-/

namespace StoryCatalog

open Text Scan Source

namespace Story

/-! ## The end of the block -/

/-- The brace that ends the block, with what must stand behind it. -/
def controlsEnd : Scan Unit := do
  closeBrace
  let _ ← maybe (char ',')
  blanks
  literal "//" <|> literal "args:" <|> literal "tags:" <|> atEnd

/-- What must stand behind the brace, its comma and the blanks. -/
def EndsControls (text : List Char) : Prop :=
  "//".toList <+: text ∨ "args:".toList <+: text ∨ "tags:".toList <+: text ∨ text = []

theorem atEnd_reads_iff {text : List Char} : atEnd.Reads text ↔ text = [] := by
  cases text with
  | nil => exact iff_of_true ⟨(), [], rfl⟩ rfl
  | cons c text => simp [Reads, atEnd]

theorem controlsEnd_reads_iff {comma gap text : List Char} (separated : comma = [] ∨ comma = [','])
    (blank : IsGap gap) (solid : Stops isBlank text) (lone : Stops (· = ',') text) :
    controlsEnd.Reads ('}' :: (comma ++ (gap ++ text))) ↔ EndsControls text := by
  have closed : closeBrace ('}' :: (comma ++ (gap ++ text))) = some ((), comma ++ (gap ++ text)) :=
    closeBrace_eq_some_iff.mpr rfl
  have separator : ∃ out, maybe (char ',') (comma ++ (gap ++ text)) = some (out, gap ++ text) := by
    rcases separated with rfl | rfl
    · have stops : Stops (· = ',') (gap ++ text) := by
        refine stops_append (fun c member => decide_eq_false ?_) lone
        rintro rfl
        exact absurd (blank ',' member) (by decide)
      refine ⟨none, maybe_eq_some_iff.mpr (.inr ⟨rfl, rfl, ?_⟩)⟩
      cases split : gap ++ text with
      | nil => rfl
      | cons c rest =>
        rw [split, stops_cons, decide_eq_false_iff_not] at stops
        simp [char, one, bind_apply, stops]
    · exact ⟨some (), maybe_eq_some_iff.mpr (.inl ⟨(), rfl, char_eq_some_iff.mpr rfl⟩)⟩
  obtain ⟨out, separator⟩ := separator
  have gapped : blanks (gap ++ text) = some ((), text) := blanks_eq_some_iff.mpr ⟨gap, rfl, blank, solid⟩
  have behind : controlsEnd ('}' :: (comma ++ (gap ++ text))) =
      (literal "//" <|> literal "args:" <|> literal "tags:" <|> atEnd) text := by
    simp only [controlsEnd, bind_apply, closed, separator, gapped, Option.bind_some]
  rw [Reads, behind, ← Reads]
  simp only [orElse_reads_iff, literal_reads_iff, atEnd_reads_iff, EndsControls]

theorem argTypesBlock_of_end {gap body here : List Char} (blank : IsGap gap) (ends : controlsEnd.Reads here)
    (nowhere : Nowhere controlsEnd.Reads body here) :
    ∃ rest, argTypesBlock ("argTypes:".toList ++ (gap ++ '{' :: (body ++ here))) = some (body, rest) := by
  obtain ⟨out, rest, ended⟩ := ends
  have through : upTo controlsEnd (body ++ here) = some ((body, out), rest) :=
    upTo_eq_some_iff.mpr ⟨here, rfl, ended, nowhere⟩
  refine ⟨rest, ?_⟩
  unfold argTypesBlock
  simp only [bind_eq_some_iff, literal_eq_some_iff, blanks_eq_some_iff, openBrace_eq_some_iff]
  exact ⟨(), _, rfl, (), _, ⟨gap, rfl, blank, (stops_cons ..).mpr (by decide)⟩, (), _, rfl, (body, out), rest, through,
    rfl⟩

/-! ## One entry -/

/-- An arg with the control that is chosen for it. -/
structure ControlledArg where
  name : List Char
  name_ne : name ≠ []
  name_word : ∀ c ∈ name, isWord c = true
  name_free : name ≠ "args".toList ∧ name ≠ "tags".toList
  kind : List Char
  kind_ne : kind ≠ []
  kind_plain : ∀ c ∈ kind, isQuote c = false ∧ c ≠ '{' ∧ c ≠ '}'

namespace ControlledArg

variable (arg : ControlledArg)

/-- The line of the arg in the block. -/
def line : List Char :=
  "    ".toList ++ arg.name ++ ": \x7b control: '".toList ++ arg.kind ++ "' \x7d,\n".toList

/-- What stands between the braces of the entry. -/
def inside : List Char :=
  " control: '".toList ++ arg.kind ++ "' ".toList

def entry : String × String :=
  (String.ofList arg.name, String.ofList arg.kind)

theorem line_append (rest : List Char) :
    arg.line ++ rest = "    ".toList ++ (arg.name ++ ':' :: (" ".toList ++ '{' :: (arg.inside ++
      '}' :: (",\n".toList ++ rest)))) := by
  unfold line inside
  simp

theorem brace_not_mem_inside : '{' ∉ arg.inside ∧ '}' ∉ arg.inside := by
  have opened : '{' ∉ arg.kind := fun member => (arg.kind_plain '{' member).2.1 rfl
  have closed : '}' ∉ arg.kind := fun member => (arg.kind_plain '}' member).2.2 rfl
  unfold inside
  simp [opened, closed]

theorem argTypeEntry_line (rest : List Char) :
    argTypeEntry (arg.name ++ ':' :: (" ".toList ++ '{' :: (arg.inside ++ '}' :: rest))) =
      some ((arg.name, arg.inside), rest) := by
  have flat : ∀ c ∈ arg.inside, (decide (c ≠ '{') && decide (c ≠ '}')) = true := by
    intro c member
    obtain ⟨opened, closed⟩ := arg.brace_not_mem_inside
    simp only [Bool.and_eq_true, decide_eq_true_eq]
    exact ⟨fun same => opened (same ▸ member), fun same => closed (same ▸ member)⟩
  simp only [argTypeEntry, bind_eq_some_iff, identifier_eq_some_iff, char_eq_some_iff, blanks_eq_some_iff,
    openBrace_eq_some_iff, closeBrace_eq_some_iff, run_eq_some_iff, pure_eq_some_iff]
  refine ⟨arg.name, _, ⟨arg.name_ne, rfl, arg.name_word, ?_⟩, (), _, rfl, (), _, ⟨" ".toList, rfl, ?_, ?_⟩, (), _,
    rfl, arg.inside, _, ⟨rfl, flat, ?_⟩, (), _, rfl, rfl, rfl⟩
  · exact (stops_cons ..).mpr (by decide)
  · simp
    decide
  · exact (stops_cons ..).mpr (by decide)
  · exact (stops_cons ..).mpr (by decide)

/-- No entry starts at a sign that cannot be in a name. -/
theorem nowhere_argTypeEntry {before : List Char} (foreign : ∀ c ∈ before, isWord c = false) (here : List Char) :
    Nowhere argTypeEntry.Reads before here := by
  refine nowhere_of_forall ?_ foreign here
  rintro c text ⟨entry, rest, read⟩
  obtain ⟨name, left, named, -⟩ := bind_eq_some_iff.mp read
  obtain ⟨name_ne, split, name_word, -⟩ := identifier_eq_some_iff.mp named
  cases name with
  | nil => contradiction
  | cons d name =>
    rw [(List.cons.inj split).1]
    exact name_word d (List.mem_cons_self ..)

theorem findAll_line (rest : List Char) :
    findAll argTypeEntry (arg.line ++ rest) = (arg.name, arg.inside) :: findAll argTypeEntry rest := by
  have indent : ∀ c ∈ "    ".toList, isWord c = false := List.all_iff_forall_prop.mp (by decide)
  have behind : ∀ c ∈ ",\n".toList, isWord c = false := List.all_iff_forall_prop.mp (by decide)
  have taken : arg.name ++ ':' :: (" ".toList ++ '{' :: (arg.inside ++ '}' :: (",\n".toList ++ rest))) =
      (arg.name ++ ':' :: (" ".toList ++ '{' :: (arg.inside ++ ['}']))) ++ (",\n".toList ++ rest) := by
    simp
  have read := arg.argTypeEntry_line (",\n".toList ++ rest)
  rw [line_append, findAll_append_of_nowhere (nowhere_argTypeEntry indent _)]
  rw [taken] at read ⊢
  rw [findAll_append_of_some (by simp) read, findAll_append_of_nowhere (nowhere_argTypeEntry behind _)]

theorem control?_inside : control? (arg.name, arg.inside) = some arg.entry := by
  have unquoted : ∀ c ∈ arg.kind, (!isQuote c) = true := by
    intro c member
    rw [(arg.kind_plain c member).1]
    rfl
  have quote : isQuote '\x27' = true := by decide
  have read : quotedAfter "control:" ("control:".toList ++ (" ".toList ++ '\x27' :: (arg.kind ++
      '\x27' :: " ".toList))) = some (arg.kind, " ".toList) := by
    simp only [quotedAfter, quotedText, bind_eq_some_iff, literal_eq_some_iff, blanks_eq_some_iff, one_eq_some_iff,
      run1_eq_some_iff, pure_eq_some_iff]
    refine ⟨(), _, rfl, (), _, ⟨" ".toList, rfl, ?_, ?_⟩, _, _, ⟨quote, rfl⟩, arg.kind, _,
      ⟨arg.kind_ne, rfl, unquoted, ?_⟩, _, _, ⟨quote, rfl⟩, rfl, rfl⟩
    · simp
      decide
    · exact (stops_cons ..).mpr (by decide)
    · exact (stops_cons ..).mpr (by decide)
  have found : findFirst? (quotedAfter "control:") arg.inside = some arg.kind := by
    refine findFirst?_eq_some_iff.mpr ⟨" ".toList, _, _, ?_, read, ?_⟩
    · unfold inside
      simp
    · have starts (c : Char) (text : List Char) (reads : (quotedAfter "control:").Reads (c :: text)) : c = 'c' := by
        obtain ⟨kind, rest, reads⟩ := reads
        obtain ⟨_, left, spelled, -⟩ := bind_eq_some_iff.mp reads
        exact (List.cons.inj (literal_eq_some_iff.mp spelled)).1
      exact nowhere_of_not_mem starts (by decide) _
  rw [control?, found]
  rfl

/-- The name of an entry is no end of the block. -/
theorem not_endsControls (rest : List Char) : ¬EndsControls (arg.name ++ ':' :: rest) := by
  have uncolon : ':' ∉ arg.name := not_mem_of_forall arg.name_word (by decide)
  have other {word : List Char} (absent : ':' ∉ word) (differ : arg.name ≠ word) :
      ¬word ++ [':'] <+: arg.name ++ ':' :: rest := by
    rintro ⟨more, same⟩
    rw [List.append_assoc, List.singleton_append] at same
    exact differ (append_cons_inj absent uncolon same).1.symm
  rintro (comment | args | tags | nothing)
  · obtain ⟨c, name, split⟩ := List.exists_cons_of_ne_nil arg.name_ne
    have word : isWord c = true := arg.name_word c (split ▸ List.mem_cons_self ..)
    rw [split] at comment
    rw [← (List.cons_prefix_cons.mp comment).1] at word
    exact absurd word (by decide)
  · exact other (by decide) arg.name_free.1 args
  · exact other (by decide) arg.name_free.2 tags
  · exact absurd nothing (by simp)

end ControlledArg

/-! ## The block -/

/-- What stands between the braces of the block. -/
def controlsBody (args : List ControlledArg) : List Char :=
  '\n' :: args.flatMap ControlledArg.line ++ "  ".toList

/-- Behind the comma of an entry stands another entry or the block's own brace. -/
theorem not_controlsEnd_behind_entry (args : List ControlledArg) (rest : List Char) :
    ¬controlsEnd.Reads ('}' :: (",\n".toList ++ (args.flatMap ControlledArg.line ++ "  ".toList ++ '}' :: rest))) := by
  cases args with
  | nil =>
    have blank : IsGap "\n  ".toList := by simp; decide
    have split : '}' :: (",\n".toList ++ ([].flatMap ControlledArg.line ++ "  ".toList ++ '}' :: rest)) =
        '}' :: ([','] ++ ("\n  ".toList ++ '}' :: rest)) := rfl
    rw [split, controlsEnd_reads_iff (.inr rfl) blank ((stops_cons ..).mpr (by decide))
      ((stops_cons ..).mpr (by decide))]
    simp [EndsControls]
  | cons arg args =>
    have blank : IsGap "\n    ".toList := by simp; decide
    let behind := " ".toList ++ '{' :: (arg.inside ++ '}' :: (",\n".toList ++ (args.flatMap ControlledArg.line ++
      "  ".toList ++ '}' :: rest)))
    have split : '}' :: (",\n".toList ++ ((arg :: args).flatMap ControlledArg.line ++ "  ".toList ++ '}' :: rest)) =
        '}' :: ([','] ++ ("\n    ".toList ++ (arg.name ++ ':' :: behind))) := by
      rw [List.flatMap_cons, List.append_assoc, List.append_assoc, arg.line_append]
      simp [behind]
    have solid : Stops isBlank (arg.name ++ ':' :: behind) :=
      stops_append_of_ne_nil arg.name_ne (fun c member => isBlank_eq_false_of_isWord (arg.name_word c member)) _
    have lone : Stops (· = ',') (arg.name ++ ':' :: behind) := by
      refine stops_append_of_ne_nil arg.name_ne (fun c member => decide_eq_false ?_) _
      rintro rfl
      exact absurd (arg.name_word ',' member) (by decide)
    rw [split, controlsEnd_reads_iff (.inr rfl) blank solid lone]
    exact arg.not_endsControls behind

theorem nowhere_controlsEnd {before : List Char} (absent : '}' ∉ before) (here : List Char) :
    Nowhere controlsEnd.Reads before here := by
  refine nowhere_of_not_mem ?_ absent here
  rintro c text ⟨out, rest, read⟩
  obtain ⟨_, left, closed, -⟩ := bind_eq_some_iff.mp read
  exact (List.cons.inj (closeBrace_eq_some_iff.mp closed)).1

theorem nowhere_controlsBody (args : List ControlledArg) (rest : List Char) :
    Nowhere controlsEnd.Reads (controlsBody args) ('}' :: rest) := by
  rw [controlsBody, List.cons_append, ← List.singleton_append, nowhere_append]
  refine ⟨nowhere_controlsEnd (by decide) _, ?_⟩
  induction args with
  | nil => exact nowhere_controlsEnd (by decide) _
  | cons arg args ih =>
    let opening := "    ".toList ++ (arg.name ++ ':' :: (" ".toList ++ '{' :: arg.inside))
    have unclosed : '}' ∉ opening := by
      have named : '}' ∉ arg.name := not_mem_of_forall arg.name_word (by decide)
      simp [opening, named, arg.brace_not_mem_inside.2]
    have split : (arg :: args).flatMap ControlledArg.line ++ "  ".toList =
        opening ++ ('}' :: (",\n".toList ++ (args.flatMap ControlledArg.line ++ "  ".toList))) := by
      rw [List.flatMap_cons, List.append_assoc, arg.line_append]
      simp [opening]
    rw [split, nowhere_append, nowhere_cons]
    refine ⟨nowhere_controlsEnd unclosed _, not_controlsEnd_behind_entry args rest, ?_⟩
    exact (nowhere_append ..).mpr ⟨nowhere_controlsEnd (by decide) _, ih⟩

theorem controls_controlsBody (args : List ControlledArg) :
    (findAll argTypeEntry (controlsBody args)).filterMap control? = args.map ControlledArg.entry := by
  have feed : ∀ c ∈ ['\n'], isWord c = false := List.all_iff_forall_prop.mp (by decide)
  have indent : ∀ c ∈ "  ".toList, isWord c = false := List.all_iff_forall_prop.mp (by decide)
  have nothing : findAll argTypeEntry "  ".toList = [] :=
    findAll_eq_nil_of_nowhere (ControlledArg.nowhere_argTypeEntry indent [])
  have entries : findAll argTypeEntry (controlsBody args) = args.map fun arg => (arg.name, arg.inside) := by
    rw [controlsBody, List.cons_append, ← List.singleton_append,
      findAll_append_of_nowhere (ControlledArg.nowhere_argTypeEntry feed _),
      findAll_flatMap ControlledArg.findAll_line, nothing, List.append_nil]
  rw [entries, List.filterMap_map]
  have each : (control? ∘ fun arg : ControlledArg => (arg.name, arg.inside)) = fun arg => some arg.entry :=
    funext ControlledArg.control?_inside
  rw [each, List.filterMap_eq_map']

/-! ## A whole file -/

/-- What follows the brace of the block in a file. -/
inductive ControlsEnding where
  | tags
  | args
  | comment
  | endOfFile

def ControlsEnding.text : ControlsEnding → List Char
  | .tags => ",\n  tags: [],\n\x7d;\n".toList
  | .args => ",\n  args: \x7b\x7d,\n\x7d;\n".toList
  | .comment => ",\n  // note\n\x7d;\n".toList
  | .endOfFile => "\n".toList

/-- A default export with a component and the controls of some args. -/
def controlsFile (component : List Char) (args : List ControlledArg) (ending : ControlsEnding) : List Char :=
  "export default \x7b\n  component: ".toList ++ component ++ ",\n  argTypes: \x7b\n".toList ++
    args.flatMap ControlledArg.line ++ "  \x7d".toList ++ ending.text

theorem controlsEnd_ending (ending : ControlsEnding) : controlsEnd.Reads ('}' :: ending.text) := by
  have reads {comma gap text : List Char} (separated : comma = [] ∨ comma = [',']) (blank : IsGap gap)
      (solid : Stops isBlank text) (lone : Stops (· = ',') text) (ends : EndsControls text)
      (split : ending.text = comma ++ (gap ++ text)) : controlsEnd.Reads ('}' :: ending.text) := by
    rw [split]
    exact (controlsEnd_reads_iff separated blank solid lone).mpr ends
  have indent : IsGap "\n  ".toList := by simp; decide
  cases ending with
  | tags =>
    have ends : EndsControls "tags: [],\n\x7d;\n".toList := .inr (.inr (.inl (by decide)))
    exact reads (.inr rfl) indent ((stops_cons ..).mpr (by decide)) ((stops_cons ..).mpr (by decide)) ends rfl
  | args =>
    have ends : EndsControls "args: \x7b\x7d,\n\x7d;\n".toList := .inr (.inl (by decide))
    exact reads (.inr rfl) indent ((stops_cons ..).mpr (by decide)) ((stops_cons ..).mpr (by decide)) ends rfl
  | comment =>
    have ends : EndsControls "// note\n\x7d;\n".toList := .inl (by decide)
    exact reads (.inr rfl) indent ((stops_cons ..).mpr (by decide)) ((stops_cons ..).mpr (by decide)) ends rfl
  | endOfFile =>
    have feed : IsGap "\n".toList := by simp; decide
    exact reads (.inl rfl) feed (stops_nil _) (stops_nil _) (.inr (.inr (.inr rfl))) rfl

section
variable {component : List Char} (args : List ControlledArg) (ending : ControlsEnding)

theorem componentOf?_controlsFile (component_ne : component ≠ []) (component_word : ∀ c ∈ component, isWord c = true) :
    componentOf? (controlsFile component args ending) = some component := by
  let rest := ",\n  argTypes: \x7b\n".toList ++ args.flatMap ControlledArg.line ++ "  \x7d".toList ++ ending.text
  have split : controlsFile component args ending =
      "export default \x7b\n  ".toList ++ ("component:".toList ++ (" ".toList ++ (component ++ rest))) := by
    have opening : "export default \x7b\n  component: ".toList =
        "export default \x7b\n  ".toList ++ ("component:".toList ++ " ".toList) := by decide
    unfold controlsFile
    rw [opening]
    simp only [rest, List.append_assoc]
  have blank : IsGap " ".toList := by simp; decide
  have solid : Stops isBlank (component ++ rest) :=
    stops_append_of_ne_nil component_ne (fun c member => isBlank_eq_false_of_isWord (component_word c member)) _
  have read : componentReference ("component:".toList ++ (" ".toList ++ (component ++ rest))) =
      some (component, rest) := by
    simp only [componentReference, bind_eq_some_iff, literal_eq_some_iff, blanks_eq_some_iff,
      identifier_eq_some_iff]
    exact ⟨(), _, rfl, (), _, ⟨_, rfl, blank, solid⟩, component_ne, rfl, component_word,
      (stops_cons ..).mpr (by decide)⟩
  have starts (c : Char) (text : List Char) (reads : componentReference.Reads (c :: text)) : c = 'c' := by
    obtain ⟨name, left, reads⟩ := reads
    obtain ⟨_, more, spelled, -⟩ := bind_eq_some_iff.mp reads
    exact (List.cons.inj (literal_eq_some_iff.mp spelled)).1
  rw [componentOf?, split, findFirst?_eq_some_iff]
  exact ⟨_, _, rest, rfl, read, nowhere_of_not_mem starts (by decide) _⟩

/-- Before the block nothing is its key, not even where the component is named alike. -/
theorem nowhere_argTypesBlock (component_word : ∀ c ∈ component, isWord c = true) (here : List Char) :
    Nowhere argTypesBlock.Reads ("export default \x7b\n  component: ".toList ++ component ++ ",\n  ".toList) here := by
  have starts (text : List Char) (read : argTypesBlock.Reads text) :
      ∃ more, text = "argTypes".toList ++ ':' :: more := by
    obtain ⟨body, rest, read⟩ := read
    obtain ⟨_, left, spelled, -⟩ := bind_eq_some_iff.mp read
    have key : "argTypes:".toList ++ left = "argTypes".toList ++ ':' :: left := rfl
    exact ⟨left, (literal_eq_some_iff.mp spelled).trans key⟩
  have first (c : Char) (text : List Char) (read : argTypesBlock.Reads (c :: text)) : c = 'a' := by
    obtain ⟨more, split⟩ := starts _ read
    exact (List.cons.inj split).1
  have uncolon : ':' ∉ component ++ [','] := by
    have named : ':' ∉ component := not_mem_of_forall component_word (by decide)
    simp [named]
  have reaches {stop : Char} (absent : stop ∉ "argTypes".toList) (text : List Char) (read : argTypesBlock.Reads text) :
      ∃ opening more, text = opening ++ ':' :: more ∧ stop ∉ opening := by
    obtain ⟨more, split⟩ := starts text read
    exact ⟨_, more, split, absent⟩
  have split : "export default \x7b\n  component: ".toList ++ component ++ ",\n  ".toList =
      ("export default".toList ++ [' ']) ++ ("\x7b\n  component: ".toList ++ ((component ++ [',']) ++
        "\n  ".toList)) := by
    have opening : "export default \x7b\n  component: ".toList =
        ("export default".toList ++ [' ']) ++ "\x7b\n  component: ".toList := by decide
    have ended : ",\n  ".toList = [','] ++ "\n  ".toList := rfl
    rw [opening, ended]
    simp only [List.append_assoc]
  rw [split, nowhere_append]
  refine ⟨nowhere_of_stop (reaches (by decide)) (by decide) _, (nowhere_append ..).mpr ⟨?_, ?_⟩⟩
  · exact nowhere_of_not_mem first (by decide) _
  · rw [nowhere_append]
    exact ⟨nowhere_of_stop (reaches (by decide)) uncolon _, nowhere_of_not_mem first (by decide) _⟩

theorem argTypesOf_controlsFile (component_word : ∀ c ∈ component, isWord c = true)
    (distinct : (args.map ControlledArg.name).Nodup) :
    argTypesOf (controlsFile component args ending) = ⟨args.map ControlledArg.entry⟩ := by
  have blank : IsGap " ".toList := by simp; decide
  have split : controlsFile component args ending =
      ("export default \x7b\n  component: ".toList ++ component ++ ",\n  ".toList) ++
        ("argTypes:".toList ++ (" ".toList ++ '{' :: (controlsBody args ++ '}' :: ending.text))) := by
    have opened : ",\n  argTypes: \x7b\n".toList =
        ",\n  ".toList ++ ("argTypes:".toList ++ (" ".toList ++ ['{', '\n'])) := by decide
    have closed : "  \x7d".toList = "  ".toList ++ ['}'] := rfl
    unfold controlsFile controlsBody
    rw [opened, closed]
    simp only [List.append_assoc, List.cons_append, List.nil_append]
  obtain ⟨rest, read⟩ := argTypesBlock_of_end blank (controlsEnd_ending ending) (nowhere_controlsBody args ending.text)
  have found : findFirst? argTypesBlock (controlsFile component args ending) = some (controlsBody args) :=
    findFirst?_eq_some_iff.mpr ⟨_, _, rest, split, read, nowhere_argTypesBlock component_word _⟩
  have names : (args.map ControlledArg.entry).map (·.1) = (args.map ControlledArg.name).map String.ofList := by
    rw [List.map_map, List.map_map]
    rfl
  rw [argTypesOf, found]
  simp only [controls_controlsBody]
  apply Fields.ofList_of_nodup
  rw [names]
  exact distinct.map fun _ _ same => String.ofList_injective same

end

/-- An id without two hyphens is the id of no export. -/
theorem exportName?_of_no_hyphens {id : List Char} (single : ¬"--".toList <:+: id) : exportName? id = none := by
  have uncut : cut? ['-', '-'] id = none := cut?_eq_none_iff.mpr single
  simp [exportName?, slug?, uncut]

/-- The component and the controls that are written down are read back, the controls in their order, whatever the
block ends with. -/
theorem arg_types_round_trip {component : List Char} (component_ne : component ≠ [])
    (component_word : ∀ c ∈ component, isWord c = true) {args : List ControlledArg}
    (distinct : (args.map ControlledArg.name).Nodup) (ending : ControlsEnding) {files : MemoryFiles} {path id : String}
    (held : files.get? path = some (String.ofList (controlsFile component args ending)))
    (single : ¬"--".toList <:+: id.toList) :
    ∃ record, extractRecord files.toFileSystem path id = some record ∧
      record.component = some (String.ofList component) ∧
      record.argTypes.entries = args.map fun arg => (String.ofList arg.name, String.ofList arg.kind) := by
  have argless : argsOfId (String.ofList (controlsFile component args ending)).toList id = .ok {} := by
    rw [argsOfId, exportNameOf?_whole, exportName?_of_no_hyphens single]
  refine ⟨_, extractRecord_eq_some_iff.mpr ⟨_, _, {}, ?_, storyDocs?_memory files _ path, argless, rfl⟩, ?_, ?_⟩
  · rw [MemoryFiles.readFile?, held]
  · rw [recordWith, String.toList_ofList, componentOf?_controlsFile args ending component_ne component_word,
      Option.map_some]
  · rw [recordWith, String.toList_ofList, argTypesOf_controlsFile args ending component_word distinct]
    rfl

/-- An arg whose name ends like the end of a block, and one named like the block itself. -/
def sizeControls : List ControlledArg :=
  [⟨"htmlargs".toList, by decide, List.all_eq_true.mp (by decide), by decide, "text, long".toList, by decide,
      List.all_iff_forall_prop.mp (by decide)⟩,
    ⟨"argTypes".toList, by decide, List.all_eq_true.mp (by decide), by decide, "select".toList, by decide,
      List.all_iff_forall_prop.mp (by decide)⟩]

theorem arg_types_of_sizeControls :
    ∃ record,
      extractRecord (MemoryFiles.write {} "/size.stories.ts"
        (String.ofList (controlsFile "Size".toList sizeControls .comment))).toFileSystem "/size.stories.ts" "size-docs" =
          some record ∧
      record.component = some "Size" ∧
      record.argTypes.entries = [("htmlargs", "text, long"), ("argTypes", "select")] := by
  have word : ∀ c ∈ "Size".toList, isWord c = true := List.all_eq_true.mp (by decide)
  exact arg_types_round_trip (by decide) word (by decide) .comment (MemoryFiles.get?_write {} "/size.stories.ts" _)
    (by decide)

end Story

end StoryCatalog
