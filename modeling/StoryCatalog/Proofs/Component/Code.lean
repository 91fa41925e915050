import StoryCatalog.Proofs.Component.Properties
import StoryCatalog.Proofs.FileSystem.Memory
import StoryCatalog.Proofs.Text.Search

/-!
# The code of a component

The search for a component's code tries every decorator and every head of an export, with every end behind it. Only
the first of each counts: a head that starts later also ends later, and what ends a declaration is found from any
place in front of it. So one pass forward finds the same code, and the code of a function is shown exactly where no
decorated class is complete.
-/

namespace StoryCatalog.Component

open Text Scan Source

/-! ## Heads of exports -/

/-- The head of an export, as long as its name goes; `rest` is what follows. -/
inductive ExportHead (declares : List Char → Prop) : List Char → List Char → Prop
  | mk {first keyword second name rest : List Char} (first_ne : first ≠ []) (first_gap : IsGap first)
      (declared : declares keyword) (second_ne : second ≠ []) (second_gap : IsGap second) (name_ne : name ≠ [])
      (name_word : ∀ c ∈ name, isWord c = true) (ends : Stops isWord rest) :
      ExportHead declares ("export".toList ++ (first ++ (keyword ++ (second ++ name)))) rest

def IsClass (keyword : List Char) : Prop :=
  keyword = "class".toList

/-- The word for a function, perhaps behind the one for a default export. -/
inductive IsFunction : List Char → Prop
  | plain : IsFunction "function".toList
  | default {gap : List Char} (gap_ne : gap ≠ []) (blank : IsGap gap) :
      IsFunction ("default".toList ++ (gap ++ "function".toList))

/-- The word that starts an export, with a blank behind it. -/
def StartsExport (text : List Char) : Prop :=
  ∃ c rest, isBlank c = true ∧ text = "export".toList ++ c :: rest

theorem nowhere_startsExport {text : List Char} (absent : 'e' ∉ text) (here : List Char) :
    Nowhere StartsExport text here := by
  refine nowhere_of_not_mem (fun c rest held => ?_) absent here
  obtain ⟨_, _, -, same⟩ := held
  exact (List.cons.inj same).1

theorem ExportHead.exists_blank {declares : List Char → Prop} {head rest : List Char}
    (headed : ExportHead declares head rest) : ∃ c more, isBlank c = true ∧ head = "export".toList ++ c :: more := by
  obtain @⟨first, keyword, second, name, _, first_ne, first_gap⟩ := headed
  obtain ⟨c, more, rfl⟩ := List.exists_cons_of_ne_nil first_ne
  exact ⟨c, more ++ (keyword ++ (second ++ name)), ((isGap_cons ..).mp first_gap).1, rfl⟩

/-- A scan for the keyword of a head. -/
structure ReadsKeyword (word : Scan Unit) (declares : List Char → Prop) : Prop where
  spelled : ∀ text rest, word text = some ((), rest) ↔ ∃ keyword, declares keyword ∧ text = keyword ++ rest
  solid : ∀ keyword rest, declares keyword → Stops isBlank (keyword ++ rest)
  apart : ∀ keyword here, declares keyword → Nowhere StartsExport keyword here

def exportHead (word : Scan Unit) : Scan Unit := do
  literal "export"
  blanks1
  word
  blanks1
  let _ ← identifier

namespace ReadsKeyword

variable {word : Scan Unit} {declares : List Char → Prop}

theorem exportHead_eq_some_iff (reads : ReadsKeyword word declares) {text rest : List Char} {out : Unit} :
    exportHead word text = some (out, rest) ↔ ∃ head, text = head ++ rest ∧ ExportHead declares head rest := by
  simp only [exportHead, bind_eq_some_iff, literal_eq_some_iff, blanks1_eq_some_iff, identifier_eq_some_iff,
    pure_eq_some_iff, reads.spelled]
  constructor
  · rintro ⟨-, _, rfl, -, _, ⟨first, first_ne, rfl, first_gap, -⟩, -, _, ⟨keyword, declared, rfl⟩, -, _,
      ⟨second, second_ne, rfl, second_gap, -⟩, name, _, ⟨name_ne, rfl, name_word, ends⟩, -, rfl⟩
    refine ⟨_, ?_, .mk first_ne first_gap declared second_ne second_gap name_ne name_word ends⟩
    simp only [List.append_assoc]
  · rintro ⟨_, rfl, @⟨first, keyword, second, name, _, first_ne, first_gap, declared, second_ne, second_gap, name_ne,
      name_word, ends⟩⟩
    have letter := stops_append_of_ne_nil name_ne (fun c member => isBlank_eq_false_of_isWord (name_word c member)) rest
    simp only [List.append_assoc]
    exact ⟨(), _, rfl, (), _, ⟨first, first_ne, rfl, first_gap, reads.solid _ _ declared⟩, (), _,
      ⟨keyword, declared, rfl⟩, (), _, ⟨second, second_ne, rfl, second_gap, letter⟩, name, rest,
      ⟨name_ne, rfl, name_word, ends⟩, trivial, rfl⟩

/-- A head that starts inside another one starts in its name, and so ends behind it. -/
theorem suffix_of_later (reads : ReadsKeyword word declares) {head rest before later left : List Char} {c : Char}
    (headed : ExportHead declares head rest) (again : ExportHead declares later left)
    (same : head ++ rest = c :: before ++ (later ++ left)) : left <:+ rest := by
  obtain ⟨d, after, blank, spelled⟩ := again.exists_blank
  have starts : StartsExport (later ++ left) := ⟨d, after ++ left, blank, by rw [spelled]; rfl⟩
  obtain @⟨first, keyword, second, name, _, -, first_gap, declared, -, second_gap, -, name_word, ends⟩ := headed
  have gap {text : List Char} (blank : IsGap text) (here : List Char) : Nowhere StartsExport text here :=
    nowhere_startsExport (not_mem_of_forall blank (by decide)) here
  have passed : Nowhere StartsExport ("xport".toList ++ (first ++ (keyword ++ second))) (name ++ rest) := by
    simp only [nowhere_append]
    exact ⟨nowhere_startsExport (by decide) _, gap first_gap _, reads.apart _ _ declared, gap second_gap _⟩
  have split : ("xport".toList ++ (first ++ (keyword ++ second))) ++ (name ++ rest) = before ++ (later ++ left) := by
    have tails : "xport".toList ++ (first ++ (keyword ++ (second ++ name))) ++ rest = before ++ (later ++ left) :=
      (List.cons.inj same).2
    rw [← tails]
    simp only [List.append_assoc]
  obtain ⟨more, within⟩ := suffix_of_nowhere passed starts split
  obtain ⟨tail, rfl, there⟩ | ⟨tail, rfl, behind⟩ := List.append_eq_append_iff.mp within
  · -- The later head starts in the name, so its first word is the end of the name.
    have tail_word : ∀ e ∈ tail, isWord e = true := fun e member => name_word e (List.mem_append_right _ member)
    have edge : Stops isWord (d :: after ++ left) := (stops_cons ..).mpr (isWord_eq_false_of_isBlank blank)
    rw [spelled, List.append_assoc] at there
    obtain ⟨-, behind⟩ := append_inj_of_stops (List.all_eq_true.mp (by decide)) edge tail_word ends there
    exact behind ▸ List.suffix_append ..
  · rw [behind]
    exact (List.suffix_append later left).trans (List.suffix_append ..)

theorem endsInOrder (reads : ReadsKeyword word declares) : EndsInOrder (exportHead word) := by
  intro before text _ rest _ left read later
  cases before with
  | nil =>
    rw [List.nil_append, later] at read
    rw [(Prod.mk.inj (Option.some.inj read)).2]
  | cons c before =>
    obtain ⟨head, same, headed⟩ := reads.exportHead_eq_some_iff.mp read
    obtain ⟨other, rfl, again⟩ := reads.exportHead_eq_some_iff.mp later
    exact reads.suffix_of_later headed again same.symm

end ReadsKeyword

theorem readsKeyword_class : ReadsKeyword (literal "class") IsClass where
  spelled text rest := by simp [IsClass]
  solid keyword rest declared := by
    rw [declared]
    exact (stops_cons ..).mpr (by decide)
  apart keyword here declared := by
    rw [declared]
    exact nowhere_startsExport (by decide) here

/-- The word for a default export, with the blanks behind it. -/
def defaultMark : Scan Unit := do
  literal "default"
  blanks1

def functionWord : Scan Unit := do
  let _ ← maybe defaultMark
  literal "function"

theorem functionWord_eq_some_iff {text rest : List Char} :
    functionWord text = some ((), rest) ↔ ∃ keyword, IsFunction keyword ∧ text = keyword ++ rest := by
  simp only [functionWord, bind_eq_some_iff, maybe_eq_some_iff, literal_eq_some_iff]
  constructor
  · rintro ⟨mark, _, ⟨_, -, read⟩ | ⟨-, rfl, -⟩, rfl⟩
    · simp only [defaultMark, bind_eq_some_iff, literal_eq_some_iff, blanks1_eq_some_iff] at read
      obtain ⟨-, _, rfl, gap, gap_ne, rfl, blank, -⟩ := read
      exact ⟨_, .default gap_ne blank, by simp only [List.append_assoc]⟩
    · exact ⟨_, .plain, rfl⟩
  · rintro ⟨keyword, declared, rfl⟩
    cases declared with
    | plain => exact ⟨none, _, .inr ⟨rfl, rfl, rfl⟩, rfl⟩
    | @default gap gap_ne blank =>
      have read : defaultMark ("default".toList ++ (gap ++ "function".toList) ++ rest) =
          some ((), "function".toList ++ rest) := by
        simp only [defaultMark, bind_eq_some_iff, literal_eq_some_iff, blanks1_eq_some_iff, List.append_assoc]
        exact ⟨(), _, rfl, gap, gap_ne, rfl, blank, (stops_cons ..).mpr (by decide)⟩
      exact ⟨some (), _, .inl ⟨(), rfl, read⟩, rfl⟩

theorem readsKeyword_function : ReadsKeyword functionWord IsFunction where
  spelled text rest := functionWord_eq_some_iff
  solid keyword rest declared := by
    cases declared <;> exact (stops_cons ..).mpr (by decide)
  apart keyword here declared := by
    cases declared with
    | plain => exact nowhere_startsExport (by decide) here
    | @default gap gap_ne blank =>
      have unread (rest : List Char) : ¬StartsExport ("efault".toList ++ rest) := by
        rintro ⟨_, _, -, same⟩
        exact absurd (List.cons.inj (List.cons.inj same).2).1 (by decide)
      have absent : 'e' ∉ gap ++ "function".toList := by
        rw [List.mem_append, not_or]
        exact ⟨not_mem_of_forall blank (by decide), by decide⟩
      have word : "default".toList = ['d'] ++ 'e' :: "fault".toList := rfl
      have rest : Nowhere StartsExport "fault".toList (gap ++ "function".toList ++ here) :=
        nowhere_startsExport (by decide) _
      rw [nowhere_append, word, nowhere_append]
      exact ⟨⟨nowhere_startsExport (by decide) _, unread _, rest⟩, nowhere_startsExport absent _⟩

theorem functionHead_eq : functionHead = exportHead functionWord := by
  simp only [functionHead, exportHead, functionWord, defaultMark, bind_assoc]

/-! ## One pass forward -/

/-- A head of an export stands at the front of the text. -/
def StartsHead (declares : List Char → Prop) (text : List Char) : Prop :=
  ∃ head rest, text = head ++ rest ∧ ExportHead declares head rest

/-- A closing brace that starts a line. -/
def lineEnd : List Char :=
  "\n\x7d".toList

/-- The code of a decorated class: its decorator, what stands before the first head of a class behind it, the head, and
what follows through the first closing brace that starts a line. -/
inductive DecoratedCode : List Char → List Char → Prop
  | mk {behind between head inside body rest : List Char}
      (start : FirstAt (StartsHead IsClass) behind between (head ++ inside)) (headed : ExportHead IsClass head inside)
      (closing : FirstAt (lineEnd <+: ·) inside body (lineEnd ++ rest)) :
      DecoratedCode ("@Component".toList ++ (between ++ (head ++ (body ++ lineEnd)))) rest

/-- The code of an exported function: its head, and what follows through the first closing brace that starts a line. -/
inductive FunctionCode : List Char → List Char → Prop
  | mk {head inside body rest : List Char} (headed : ExportHead IsFunction head inside)
      (closing : FirstAt (lineEnd <+: ·) inside body (lineEnd ++ rest)) : FunctionCode (head ++ (body ++ lineEnd)) rest

abbrev DecoratedSpan : List Char → List Char → Prop :=
  SpansFrom ("@Component".toList <+: ·) DecoratedCode

abbrev FunctionSpan : List Char → List Char → Prop :=
  SpansFrom (StartsHead IsFunction) FunctionCode

/-- What one pass forward shows as the code: a decorated class, or else a function, or nothing. -/
inductive ForwardCode (content : List Char) : Option (List Char) → Prop
  | decorated {code : List Char} (span : DecoratedSpan content code) : ForwardCode content (some code)
  | function {code : List Char} (undecorated : ∀ other, ¬DecoratedSpan content other)
      (span : FunctionSpan content code) : ForwardCode content (some code)
  | absent (undecorated : ∀ other, ¬DecoratedSpan content other) (unexported : ∀ other, ¬FunctionSpan content other) :
      ForwardCode content none

theorem throughEnd_eq_some_iff {text rest : List Char} {out : Unit} :
    throughEnd text = some (out, rest) ↔ ∃ body, FirstAt (lineEnd <+: ·) text body (lineEnd ++ rest) := by
  simp only [throughEnd, bind_eq_some_iff, Prod.exists, pure_eq_some_iff,
    upTo_eq_some_iff_firstAt fun _ => literal_reads_iff, literal_eq_some_iff]
  constructor
  · rintro ⟨body, -, _, ⟨_, rfl, first⟩, -, rfl⟩
    exact ⟨body, first⟩
  · rintro ⟨body, first⟩
    exact ⟨body, (), rest, ⟨_, rfl, first⟩, trivial, rfl⟩

theorem throughEnd_looksAhead : LooksAhead throughEnd :=
  .bind_upTo (EndsInOrder.literal _) fun before text _ => ⟨(), before ++ text, rfl⟩

theorem ReadsKeyword.reads_iff {word : Scan Unit} {declares : List Char → Prop} (reads : ReadsKeyword word declares)
    (text : List Char) : (exportHead word).Reads text ↔ StartsHead declares text := by
  constructor
  · rintro ⟨_, rest, read⟩
    obtain ⟨head, same, headed⟩ := reads.exportHead_eq_some_iff.mp read
    exact ⟨head, rest, same, headed⟩
  · rintro ⟨head, rest, same, headed⟩
    exact ⟨(), rest, reads.exportHead_eq_some_iff.mpr ⟨head, same, headed⟩⟩

theorem findFirst?_decoratedClass_iff {content code : List Char} :
    findFirst? (withText decoratedClass) content = some ((), code) ↔ DecoratedSpan content code := by
  refine findFirst?_withText_iff_spansFrom (fun _ => literal_reads_iff) (EndsInOrder.literal _)
    (.bind_upTo readsKeyword_class.endsInOrder throughEnd_looksAhead) fun text rest => ?_
  simp only [bind_eq_some_iff, literal_eq_some_iff, Prod.exists, upTo_eq_some_iff_firstAt readsKeyword_class.reads_iff,
    readsKeyword_class.exportHead_eq_some_iff, throughEnd_eq_some_iff]
  constructor
  · rintro ⟨-, behind, rfl, between, -, inside, ⟨_, ⟨head, rfl, headed⟩, start⟩, body, closing⟩
    refine ⟨_, ?_, .mk start headed closing⟩
    rw [start.split, closing.split]
    simp only [List.append_assoc]
  · rintro ⟨_, rfl, @⟨behind, between, head, inside, body, _, start, headed, closing⟩⟩
    refine ⟨(), behind, ?_, between, (), inside, ⟨_, ⟨head, rfl, headed⟩, start⟩, body, closing⟩
    rw [start.split, closing.split]
    simp only [List.append_assoc]

theorem findFirst?_exportedFunction_iff {content code : List Char} :
    findFirst? (withText exportedFunction) content = some ((), code) ↔ FunctionSpan content code := by
  have head : exportedFunction = (exportHead functionWord >>= fun _ => throughEnd) := by
    rw [← functionHead_eq]
    rfl
  rw [head]
  refine findFirst?_withText_iff_spansFrom readsKeyword_function.reads_iff readsKeyword_function.endsInOrder
    throughEnd_looksAhead fun text rest => ?_
  simp only [bind_eq_some_iff, readsKeyword_function.exportHead_eq_some_iff, throughEnd_eq_some_iff]
  constructor
  · rintro ⟨-, inside, ⟨head, rfl, headed⟩, body, closing⟩
    refine ⟨_, ?_, .mk headed closing⟩
    rw [closing.split]
    simp only [List.append_assoc]
  · rintro ⟨_, rfl, @⟨head, inside, body, _, headed, closing⟩⟩
    refine ⟨(), inside, ⟨head, ?_, headed⟩, body, closing⟩
    rw [closing.split]
    simp only [List.append_assoc]

theorem code?_eq_iff {content : List Char} {code : Option (List Char)} :
    code? content = code ↔ ForwardCode content code := by
  have undecorated := findFirst?_withText_eq_none_iff fun code => @findFirst?_decoratedClass_iff content code
  have unexported := findFirst?_withText_eq_none_iff fun code => @findFirst?_exportedFunction_iff content code
  unfold code?
  constructor
  · rintro rfl
    cases first : findFirst? (withText decoratedClass) content with
    | some found => exact .decorated (findFirst?_decoratedClass_iff.mp first)
    | none =>
      cases second : findFirst? (withText exportedFunction) content with
      | some found => exact .function (undecorated.mp first) (findFirst?_exportedFunction_iff.mp second)
      | none => exact .absent (undecorated.mp first) (unexported.mp second)
  · intro forward
    cases forward with
    | decorated span => rw [findFirst?_decoratedClass_iff.mpr span, Option.orElse_some, Option.map_some]
    | function missing span =>
      rw [undecorated.mpr missing, findFirst?_exportedFunction_iff.mpr span, Option.orElse_none, Option.map_some]
    | absent missing nothing =>
      rw [undecorated.mpr missing, unexported.mpr nothing, Option.orElse_none, Option.map_none]

theorem code_of_extractDocs {fs : FileSystem} {path content : String} {docs : ComponentDocs}
    (read : fs.readFile? path = .ok (some content)) (extracted : extractDocs fs path = some docs) :
    docs.code = (code? content.toList).map String.ofList := by
  rw [docs_eq_of_extractDocs read extracted]
  rfl

/-- The code of a component is what one pass forward shows: from the first decorator over the first class behind it, or,
where no such class is complete, from the first exported function, each through the first closing brace behind it that
starts a line. -/
theorem code_iff_forward {fs : FileSystem} {path content : String} (read : fs.readFile? path = .ok (some content)) :
    (∀ docs, extractDocs fs path = some docs →
      ∀ code : Option String, docs.code = code ↔ ForwardCode content.toList (code.map String.toList)) ∧
    ((∀ reference, ∃ found, fs.readFile? reference = .ok found) → ∃ docs, extractDocs fs path = some docs) := by
  refine ⟨fun docs extracted code => ?_, exists_extractDocs read⟩
  rw [code_of_extractDocs read extracted, ← code?_eq_iff]
  constructor
  · rintro rfl
    simp [Option.map_map, Function.comp_def]
  · intro found
    rw [found, Option.map_map]
    simp [Function.comp_def]

/-- A class whose closing brace does not start a line, behind a function. -/
def unclosedSource : String :=
  "@Component(\x7b\x7d)\nexport default function icon() \x7b\n\x7d\nexport class Icon \x7b\x7d\n"

theorem unclosedSource_shows_function :
    (MemoryFiles.write {} "/icon.ts" unclosedSource).toFileSystem.readFile? "/icon.ts" = .ok (some unclosedSource) ∧
      ∃ docs, extractDocs (MemoryFiles.write {} "/icon.ts" unclosedSource).toFileSystem "/icon.ts" = some docs ∧
        docs.code = some "export default function icon() \x7b\n\x7d" ∧
        ForwardCode unclosedSource.toList (some "export default function icon() \x7b\n\x7d".toList) := by
  have read := MemoryFiles.readFile?_write {} "/icon.ts" unclosedSource
  obtain ⟨shown, found⟩ := code_iff_forward read
  obtain ⟨docs, extracted⟩ := found fun reference => ⟨_, MemoryFiles.readFile? ..⟩
  have code : docs.code = some "export default function icon() \x7b\n\x7d" := by
    rw [code_of_extractDocs read extracted]
    decide +kernel
  exact ⟨read, docs, extracted, code, (shown docs extracted _).mp code⟩

end StoryCatalog.Component
