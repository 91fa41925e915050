import StoryCatalog.Proofs.Source.Token
import StoryCatalog.Proofs.Story.Record
import StoryCatalog.Proofs.Text.Split
import Mathlib.Data.Bool.AllAny

/-!
# From an import to the file of a component

A file that starts with import statements gives a component to the first statement that has its name as a
part of one of the names, which need not be the statement that imports it. So the file of a component is
looked for beside the module of its own import exactly where that first statement leads to the same place. Which
of the files under the known extensions is there is left to the file system, as far as it does not fail.
-/

namespace StoryCatalog

namespace Story

open Text Source Scan

variable {component : List Char}

/-! ## Reading a clause -/

theorem importOf_eq_some_iff {text module rest : List Char} :
    importOf component text = some (module, rest) ↔
      ∃ gap inside, text = "import".toList ++ (gap ++ '{' :: inside) ∧ IsGap gap ∧
        moduleNaming component inside = some (module, rest) := by
  simp only [importOf, bind_eq_some_iff, literal_eq_some_iff, blanks_eq_some_iff, openBrace_eq_some_iff]
  constructor
  · rintro ⟨_, _, rfl, _, _, ⟨gap, rfl, blank, -⟩, _, inside, rfl, read⟩
    exact ⟨gap, inside, rfl, blank, read⟩
  · rintro ⟨gap, inside, rfl, blank, read⟩
    exact ⟨(), _, rfl, (), _, ⟨gap, rfl, blank, (stops_cons ..).mpr (by decide)⟩, (), inside, rfl, read⟩

/-- Where a name in a clause is tried: it is read if it starts here, and then the clause is closed. -/
theorem dropWord?_bind_moduleAfterClause (unbraced : '}' ∉ component) {clause after : List Char}
    {out : List Char × List Char} (flat : '}' ∉ clause)
    (closed : ∀ more, '}' ∉ more → moduleAfterClause (more ++ '}' :: after) = some out) :
    ((dropWord? component (clause ++ '}' :: after)).bind fun rest => moduleAfterClause rest) =
      if component <+: clause then some out else none := by
  split_ifs with starts
  · obtain ⟨more, rfl⟩ := starts
    rw [List.mem_append, not_or] at flat
    rw [List.append_assoc, dropWord?_append, Option.bind_some, closed more flat.2]
  · rw [dropWord?_append_cons_eq_none unbraced starts, Option.bind_none]

/-- A clause gives its module to every name that is a part of it, words or not. -/
theorem moduleNaming_append_brace (component_ne : component ≠ []) (unbraced : '}' ∉ component)
    {clause after : List Char} {out : List Char × List Char} (flat : '}' ∉ clause)
    (closed : ∀ more, '}' ∉ more → moduleAfterClause (more ++ '}' :: after) = some out) :
    moduleNaming component (clause ++ '}' :: after) = if component <:+: clause then some out else none := by
  have here := dropWord?_bind_moduleAfterClause unbraced flat closed
  induction clause with
  | nil =>
    rw [moduleNaming.eq_def, here]
    simp [component_ne]
  | cons c clause ih =>
    rw [List.mem_cons, not_or] at flat
    have later := ih flat.2 (dropWord?_bind_moduleAfterClause unbraced flat.2 closed)
    rw [moduleNaming.eq_def, here]
    simp only [List.cons_append, if_neg (Ne.symm flat.1), later, List.infix_cons_iff]
    by_cases within : component <:+: clause <;> simp [within]

/-! ## Statements -/

/-- An import of some names from a module. -/
structure ImportStatement where
  names : List (List Char)
  names_ne : names ≠ []
  name_ne : ∀ name ∈ names, name ≠ []
  name_word : ∀ name ∈ names, ∀ c ∈ name, isWord c = true
  module : List Char
  module_ne : module ≠ []
  unquoted : ∀ c ∈ module, isQuote c = false
  unbraced : '{' ∉ module ∧ '}' ∉ module

namespace ImportStatement

/-- The text between the braces. -/
def clause (statement : ImportStatement) : List Char :=
  ' ' :: join ", ".toList statement.names ++ [' ']

/-- The text behind the braces, up to the semicolon. -/
def origin (statement : ImportStatement) : List Char :=
  " from '".toList ++ statement.module ++ ['\x27']

def source (statement : ImportStatement) : List Char :=
  "import \x7b".toList ++ statement.clause ++ '}' :: statement.origin ++ ";\n".toList

/-- Whether the text is a part of one of the names. -/
def holds (component : List Char) (statement : ImportStatement) : Bool :=
  statement.names.any (occurs component)

variable {statement : ImportStatement}

theorem not_mem_clause (statement : ImportStatement) {c : Char} (foreign : isWord c = false)
    (other : c ∉ ", ".toList) : c ∉ statement.clause := by
  have absent (name : List Char) (member : name ∈ statement.names) : c ∉ name :=
    not_mem_of_forall (statement.name_word name member) foreign
  obtain ⟨name, names, split⟩ := List.exists_cons_of_ne_nil statement.names_ne
  rw [split, List.forall_mem_cons] at absent
  have solid : c ≠ ' ' := by
    rintro rfl
    exact other (by decide)
  simp only [clause, split, join_cons, List.cons_append, List.mem_cons, List.mem_append, List.mem_flatMap,
    List.not_mem_nil, or_false, not_or, not_exists, not_and]
  exact ⟨solid, ⟨absent.1, fun name member => ⟨other, absent.2 name member⟩⟩, solid⟩

/-- A word is a part of the clause where it is a part of one of the names. -/
theorem infix_clause_iff (component_ne : component ≠ []) (worded : ∀ c ∈ component, isWord c = true) :
    component <:+: statement.clause ↔ statement.holds component = true := by
  have apart : ∀ c ∈ ", ".toList, isWord c = false := List.all_iff_forall_prop.mp (by decide)
  have foreign : ∀ c ∈ ", ".toList, c ∉ component := fun c member =>
    not_mem_of_forall worded (apart c member)
  have spaced : statement.clause = [] ++ ' ' :: (join ", ".toList statement.names ++ ' ' :: []) := rfl
  have unspaced : ' ' ∉ component := foreign ' ' (by decide)
  have nothing : ¬component <:+: [] := fun within => component_ne (List.infix_nil.mp within)
  rw [spaced, infix_append_cons_iff unspaced, infix_append_cons_iff unspaced, or_iff_right nothing,
    or_iff_left nothing, holds, List.any_eq_true]
  simp only [occurs_eq_true_iff]
  constructor
  · exact exists_infix_of_infix_join (by decide) component_ne foreign
  · rintro ⟨name, member, within⟩
    exact within.trans (piece_infix_join _ member)

theorem moduleAfterClause_origin (statement : ImportStatement) (rest : List Char) {more : List Char}
    (flat : '}' ∉ more) :
    moduleAfterClause (more ++ '}' :: (statement.origin ++ rest)) = some (statement.module, rest) := by
  have open_clause : ∀ c ∈ more, decide (c ≠ '}') = true := by
    intro c member
    rw [decide_eq_true_eq]
    rintro rfl
    exact flat member
  have body : ∀ c ∈ statement.module, (!isQuote c) = true := by
    intro c member
    rw [statement.unquoted c member]
    rfl
  have gap : IsGap " ".toList := by simp; decide
  have quote : isQuote '\x27' = true := by decide
  have quoted : quotedText ('\x27' :: (statement.module ++ '\x27' :: rest)) = some (statement.module, rest) := by
    simp only [quotedText, bind_eq_some_iff, one_eq_some_iff, run1_eq_some_iff, pure_eq_some_iff]
    refine ⟨_, _, ⟨quote, rfl⟩, _, _, ⟨statement.module_ne, rfl, body, ?_⟩, _, _, ⟨quote, rfl⟩, rfl, rfl⟩
    simp [quote]
  have spelled : statement.origin ++ rest =
      " ".toList ++ ("from".toList ++ (" ".toList ++ '\x27' :: (statement.module ++ '\x27' :: rest))) := by
    unfold origin
    simp
  simp only [moduleAfterClause, bind_eq_some_iff, run_eq_some_iff, closeBrace_eq_some_iff, blanks_eq_some_iff,
    literal_eq_some_iff]
  refine ⟨more, _, ⟨rfl, open_clause, by simp⟩, (), _, rfl, (), _, ⟨" ".toList, spelled, gap, ?_⟩, (), _, rfl,
    (), _, ⟨" ".toList, rfl, gap, ?_⟩, quoted⟩
  · exact (stops_cons ..).mpr (by decide)
  · exact (stops_cons ..).mpr (by decide)

theorem source_append (statement : ImportStatement) (rest : List Char) :
    statement.source ++ rest = "import".toList ++ (" ".toList ++ '{' ::
      (statement.clause ++ '}' :: (statement.origin ++ (";\n".toList ++ rest)))) := by
  unfold source
  simp

/-- A statement is read for a name where the name is a part of one of its own. -/
theorem importOf_source (component_ne : component ≠ []) (worded : ∀ c ∈ component, isWord c = true)
    (statement : ImportStatement) (rest : List Char) :
    importOf component (statement.source ++ rest) =
      if statement.holds component then some (statement.module, ";\n".toList ++ rest) else none := by
  have unbraced : '}' ∉ component := not_mem_of_forall worded (by decide)
  have named := moduleNaming_append_brace component_ne unbraced
    (statement.not_mem_clause (by decide) (by decide))
    (fun more flat => statement.moduleAfterClause_origin (";\n".toList ++ rest) flat)
  simp only [infix_clause_iff component_ne worded] at named
  rw [← named, source_append]
  refine Option.ext fun out => ?_
  obtain ⟨module, left⟩ := out
  rw [importOf_eq_some_iff]
  constructor
  · rintro ⟨gap, inside, split, blank, read⟩
    have single : '{' ∉ " ".toList := by decide
    have unopened : '{' ∉ gap := fun opened => absurd (blank '{' opened) (by decide)
    obtain ⟨-, same⟩ := append_cons_inj single unopened (List.append_cancel_left split)
    rwa [same]
  · intro read
    exact ⟨" ".toList, _, rfl, by simp; decide, read⟩

/-- No import starts behind the first letter of a statement. -/
theorem nowhere_source_tail (statement : ImportStatement) (rest : List Char) :
    Nowhere (importOf component).Reads statement.source.tail rest := by
  have starts (c : Char) (text : List Char) (read : (importOf component).Reads (c :: text)) : c = 'i' := by
    obtain ⟨module, left, read⟩ := read
    obtain ⟨gap, inside, split, -, -⟩ := importOf_eq_some_iff.mp read
    exact (List.cons.inj split).1
  have reaches (text : List Char) (read : (importOf component).Reads text) :
      ∃ opening more, text = opening ++ '{' :: more ∧ ';' ∉ opening := by
    obtain ⟨module, left, read⟩ := read
    obtain ⟨gap, inside, split, blank, -⟩ := importOf_eq_some_iff.mp read
    refine ⟨"import".toList ++ gap, inside, by rw [split, List.append_assoc], ?_⟩
    rw [List.mem_append, not_or]
    exact ⟨by decide, fun ended => absurd (blank ';' ended) (by decide)⟩
  have split : statement.source.tail = "mport \x7b".toList ++
      ((statement.clause ++ '}' :: statement.origin) ++ [';'] ++ "\n".toList) := by
    unfold source
    simp
  have unopened : '{' ∉ (statement.clause ++ '}' :: statement.origin) ++ [';'] := by
    have clause : '{' ∉ statement.clause := statement.not_mem_clause (by decide) (by decide)
    have origin : '{' ∉ statement.origin := by
      unfold ImportStatement.origin
      rw [List.mem_append, List.mem_append, not_or, not_or]
      exact ⟨⟨by decide, statement.unbraced.1⟩, by decide⟩
    rw [List.mem_append, List.mem_append, List.mem_cons, not_or, not_or, not_or]
    exact ⟨⟨clause, by decide, origin⟩, by decide⟩
  rw [split, nowhere_append, nowhere_append]
  exact ⟨nowhere_of_not_mem starts (by decide) _, nowhere_of_stop reaches unopened _,
    nowhere_of_not_mem starts (by decide) _⟩

theorem nowhere_source (component_ne : component ≠ []) (worded : ∀ c ∈ component, isWord c = true)
    (foreign : statement.holds component = false) (rest : List Char) :
    Nowhere (importOf component).Reads statement.source rest := by
  have unread : importOf component (statement.source ++ rest) = none := by
    rw [importOf_source component_ne worded, foreign, if_neg Bool.false_ne_true]
  have tail : Nowhere (importOf component).Reads statement.source.tail rest := nowhere_source_tail statement rest
  have head : statement.source = 'i' :: statement.source.tail := rfl
  rw [head, nowhere_cons, ← head]
  exact ⟨not_reads_iff.mpr unread, tail⟩

/-- The module is the one of the first statement that has the word as a part of one of its names. -/
theorem moduleOf?_sources (component_ne : component ≠ []) (worded : ∀ c ∈ component, isWord c = true)
    {statements : List ImportStatement} {first : ImportStatement}
    (found : statements.find? (holds component) = some first) (rest : List Char) :
    moduleOf? component (statements.flatMap source ++ rest) = some first.module := by
  induction statements with
  | nil => contradiction
  | cons statement statements ih =>
    rw [List.flatMap_cons, List.append_assoc, moduleOf?]
    cases held : statement.holds component with
    | true =>
      rw [List.find?_cons_of_pos held, Option.some.injEq] at found
      subst found
      rw [findFirst?_eq_some_iff]
      have read := importOf_source component_ne worded statement (statements.flatMap source ++ rest)
      rw [if_pos held] at read
      exact ⟨[], _, _, (List.nil_append _).symm, read, trivial⟩
    | false =>
      rw [List.find?_cons_of_neg (Bool.not_eq_true _ ▸ held)] at found
      obtain ⟨before, here, left, split, read, nowhere⟩ := findFirst?_eq_some_iff.mp (ih found)
      rw [findFirst?_eq_some_iff]
      refine ⟨statement.source ++ before, here, left, by rw [split, List.append_assoc], read, ?_⟩
      rw [nowhere_append]
      exact ⟨nowhere_source component_ne worded held _, nowhere⟩

end ImportStatement

/-! ## Extensions -/

/-- No extension ends another one. -/
theorem extension_eq_of_suffix {first second : String} (listed : first ∈ extensions) (other : second ∈ extensions)
    (ends : first.toList <:+ second.toList) : first = second := by
  have apart : ∀ first ∈ extensions, ∀ second ∈ extensions, first.toList <:+ second.toList → first = second := by
    decide
  exact apart first listed second other ends

theorem endsWith_iff {text ending : String} : text.endsWith ending = true ↔ ending.toList <:+ text.toList := by
  rw [String.endsWith, String.Slice.endsWith_string_iff, String.copy_toSlice]

/-- A text ends with one extension at most. -/
theorem extension_unique {base first second : String} (listed : first ∈ extensions) (other : second ∈ extensions)
    (ends : base.endsWith first = true) (endsToo : base.endsWith second = true) : first = second := by
  rw [endsWith_iff] at ends endsToo
  rcases List.suffix_or_suffix_of_suffix ends endsToo with shorter | longer
  · exact extension_eq_of_suffix listed other shorter
  · exact (extension_eq_of_suffix other listed longer).symm

/-- Two texts leave some extension that ends neither. -/
theorem exists_fresh_extension (base other : String) :
    ∃ extension ∈ extensions, base.endsWith extension = false ∧ other.endsWith extension = false := by
  by_contra every
  have ends (extension : String) (listed : extension ∈ extensions) :
      base.endsWith extension = true ∨ other.endsWith extension = true := by
    by_contra neither
    rw [not_or, Bool.not_eq_true, Bool.not_eq_true] at neither
    exact every ⟨extension, listed, neither⟩
  have ts : ".ts" ∈ extensions := by decide
  have tsx : ".tsx" ∈ extensions := by decide
  have js : ".js" ∈ extensions := by decide
  -- Of three extensions two end the same text, and then they are one.
  rcases ends _ ts with first | first <;> rcases ends _ tsx with second | second <;>
    rcases ends _ js with third | third
  · exact absurd (extension_unique ts tsx first second) (by decide)
  · exact absurd (extension_unique ts tsx first second) (by decide)
  · exact absurd (extension_unique ts js first third) (by decide)
  · exact absurd (extension_unique tsx js second third) (by decide)
  · exact absurd (extension_unique tsx js second third) (by decide)
  · exact absurd (extension_unique ts js first third) (by decide)
  · exact absurd (extension_unique ts tsx first second) (by decide)
  · exact absurd (extension_unique ts tsx first second) (by decide)

/-- A text with a fresh extension is a file of no other module. -/
theorem append_extension_not_mem {base other extension : String} (listed : extension ∈ extensions)
    (fresh : other.endsWith extension = false) (differ : base ≠ other) :
    base ++ extension ∉ candidates other := by
  intro member
  obtain ⟨tried, present, same⟩ := List.mem_map.mp member
  split_ifs at same with whole
  · have ends : other.endsWith extension = true := by
      rw [endsWith_iff, same, String.toList_append]
      exact List.suffix_append ..
    rw [fresh] at ends
    contradiction
  · have spelled := congrArg String.toList same
    rw [String.toList_append, String.toList_append] at spelled
    have same_extension : tried = extension := by
      rcases List.suffix_or_suffix_of_suffix (spelled ▸ List.suffix_append ..) (List.suffix_append ..) with
        shorter | longer
      · exact extension_eq_of_suffix present listed shorter
      · exact (extension_eq_of_suffix listed present longer).symm
    subst same_extension
    exact differ (String.toList_injective (List.append_cancel_right spelled).symm)

/-! ## The file of a component -/

/-- The file system with one file. -/
def fileAt (here : NormalPath) (path : String) : FileSystem where
  here
  isFile other := .ok (other == path)
  readText _ := .ok ""

theorem componentFile?_sources {statements : List ImportStatement} {first : ImportStatement}
    (component_ne : component ≠ []) (worded : ∀ c ∈ component, isWord c = true)
    (found : statements.find? (ImportStatement.holds component) = some first) (rest : List Char)
    {fs : FileSystem} {there : String → Bool} (faultless : ∀ path, fs.isFile path = .ok (there path))
    (storyPath : String) :
    componentFile? fs (statements.flatMap ImportStatement.source ++ rest) component storyPath =
      .ok ((candidates (fs.resolve storyPath (String.ofList first.module))).find? there) := by
  rw [componentFile?, ImportStatement.moduleOf?_sources component_ne worded found]
  exact firstFile?_of_isFile faultless _

/-- Two modules have the same files in all file systems exactly where they lead to the same place. -/
theorem find?_candidates_iff {base other : String} :
    (∀ path, (candidates base).find? (· == path) = (candidates other).find? (· == path)) ↔ base = other := by
  constructor
  · intro same
    by_contra differ
    obtain ⟨extension, listed, fresh, freshToo⟩ := exists_fresh_extension base other
    have candidate : base ++ extension ∈ candidates base :=
      List.mem_map.mpr ⟨extension, listed, by rw [if_neg (Bool.eq_false_iff.mp fresh)]⟩
    have missing := append_extension_not_mem listed freshToo differ
    have found : (candidates base).find? (· == base ++ extension) ≠ none := by
      rw [Ne, List.find?_eq_none]
      exact fun none => none _ candidate (beq_self_eq_true _)
    rw [same, Ne, List.find?_eq_none] at found
    refine found fun path member hit => missing ?_
    rwa [← beq_iff_eq.mp hit]
  · rintro rfl path
    rfl

/-- The file of an imported component is looked for beside the module of its own import exactly where the first
statement that has the component's name as a part of one of its names leads to the same place. -/
theorem component_of_own_import_iff (statements : List ImportStatement) (rest : List Char) {own : ImportStatement}
    (member : own ∈ statements) (imported : component ∈ own.names) (here : NormalPath) (storyPath : String) :
    (∀ fs : FileSystem, ∀ there : String → Bool, fs.here = here → (∀ path, fs.isFile path = .ok (there path)) →
      componentFile? fs (statements.flatMap ImportStatement.source ++ rest) component storyPath =
        .ok ((candidates (fs.resolve storyPath (String.ofList own.module))).find? there)) ↔
    ∀ first ∈ statements.find? (ImportStatement.holds component),
      (here.resolveBeside storyPath (String.ofList first.module)).toText =
        (here.resolveBeside storyPath (String.ofList own.module)).toText := by
  have component_ne := own.name_ne component imported
  have worded := own.name_word component imported
  have held : own.holds component = true :=
    List.any_eq_true.mpr ⟨component, imported, occurs_eq_true_iff.mpr (List.infix_refl _)⟩
  obtain ⟨first, found⟩ : ∃ first, statements.find? (ImportStatement.holds component) = some first :=
    Option.isSome_iff_exists.mp (List.find?_isSome.mpr ⟨own, member, held⟩)
  simp only [found, Option.mem_some_iff, forall_eq']
  constructor
  · intro every
    refine find?_candidates_iff.mp fun path => ?_
    have looked (other : String) : (fileAt here path).isFile other = .ok (other == path) := rfl
    have read := componentFile?_sources component_ne worded found rest looked storyPath
    rw [every (fileAt here path) (· == path) rfl looked, Except.ok.injEq] at read
    exact read.symm
  · rintro same fs there rfl looked
    rw [componentFile?_sources component_ne worded found rest looked]
    exact congrArg (fun base => Except.ok ((candidates base).find? there)) same

def buttonImport : ImportStatement where
  names := ["Button".toList]
  names_ne := by decide
  name_ne := by decide
  name_word := List.forall_mem_singleton.mpr (List.all_eq_true.mp (by decide))
  module := "./button".toList
  module_ne := by decide
  unquoted := List.all_iff_forall_prop.mp (by decide)
  unbraced := by decide

/-- An import whose only name starts with the name of another component. -/
def groupImport : ImportStatement where
  names := ["ButtonGroup".toList]
  names_ne := by decide
  name_ne := by decide
  name_word := List.forall_mem_singleton.mpr (List.all_eq_true.mp (by decide))
  module := "./group".toList
  module_ne := by decide
  unquoted := List.all_iff_forall_prop.mp (by decide)
  unbraced := by decide

def groupFiles : MemoryFiles :=
  .ofList [("/group.ts", ""), ("/button.ts", "")]

/-- The longer name does no harm behind the import of the component itself. -/
theorem component_before_group :
    componentFile? groupFiles.toFileSystem ([buttonImport, groupImport].flatMap ImportStatement.source ++ [])
      "Button".toList "/a.stories.ts" = .ok (some "/button.ts") := by
  have first : ∀ first ∈ [buttonImport, groupImport].find? (ImportStatement.holds "Button".toList),
      (NormalPath.root.resolveBeside "/a.stories.ts" (String.ofList first.module)).toText =
        (NormalPath.root.resolveBeside "/a.stories.ts" (String.ofList buttonImport.module)).toText := by
    decide +kernel
  have found := (component_of_own_import_iff [buttonImport, groupImport] [] (List.mem_cons_self ..)
    (List.mem_cons_self ..) .root "/a.stories.ts").mpr first groupFiles.toFileSystem
      (fun path => (groupFiles.get? path).isSome) rfl (fun _ => rfl)
  rw [found]
  decide +kernel

/-- In front of it the component gets the file of the other one, though its own file is there. -/
theorem component_behind_group :
    "Button".toList ∈ buttonImport.names ∧
    ([groupImport, buttonImport].flatMap ImportStatement.names).Nodup ∧
    componentFile? groupFiles.toFileSystem ([groupImport, buttonImport].flatMap ImportStatement.source)
      "Button".toList "/a.stories.ts" = .ok (some "/group.ts") ∧
    (candidates (groupFiles.toFileSystem.resolve "/a.stories.ts" (String.ofList buttonImport.module))).find?
      (fun path => (groupFiles.get? path).isSome) = some "/button.ts" := by
  decide +kernel

end Story

end StoryCatalog
