import StoryCatalog.Proofs.Story.Blocks
import StoryCatalog.Proofs.Text.Search

/-!
# The imports of a story file

An import is read from the start of a line, and the blanks behind its first word may run over lines. Where
no line is that word and blanks only, they never do: what is read is then a whole line, and the imports
are the lines of one form.
-/

namespace StoryCatalog.Story

open Text Scan Source

/-- A line that begins with the word and a blank, and ends with a semicolon. -/
def isImportLine (line : List Char) : Bool :=
  "import".toList.isPrefixOf line && (line.drop "import".length).head?.any isBlank && line.getLast? = some ';'

/-- A line that is the word with nothing but blanks behind it. -/
def isBareImport (line : List Char) : Bool :=
  "import".toList.isPrefixOf line && (line.drop "import".length).all isBlank

theorem isBareImport_append (behind : List Char) :
    isBareImport ("import".toList ++ behind) = behind.all isBlank := by
  have starts : "import".toList.isPrefixOf ("import".toList ++ behind) = true :=
    List.isPrefixOf_iff_prefix.mpr (List.prefix_append ..)
  rw [isBareImport, starts, Bool.true_and]
  rfl

/-- What the form asks for, behind the word and a gap. -/
theorem isImportLine_append_gap {gap : List Char} {c : Char} (blank : IsGap gap) (solid : isBlank c = false)
    (more : List Char) :
    isImportLine ("import".toList ++ (gap ++ c :: more)) = true ↔ gap ≠ [] ∧ (c :: more).getLast? = some ';' := by
  have starts : "import".toList.isPrefixOf ("import".toList ++ (gap ++ c :: more)) = true :=
    List.isPrefixOf_iff_prefix.mpr (List.prefix_append ..)
  have dropped : ("import".toList ++ (gap ++ c :: more)).drop "import".length = gap ++ c :: more := rfl
  have last : ("import".toList ++ (gap ++ c :: more)).getLast? = (c :: more).getLast? := by
    rw [← List.append_assoc, List.getLast?_append_of_ne_nil _ (List.cons_ne_nil c more)]
  have front : (gap ++ c :: more).head?.any isBlank = true ↔ gap ≠ [] := by
    cases gap with
    | nil => simp [solid]
    | cons d gap => simp [((isGap_cons ..).mp blank).1]
  rw [isImportLine, starts, dropped, last, Bool.true_and, Bool.and_eq_true, decide_eq_true_eq, front]

theorem importStatement_eq_some_iff {text rest : List Char} {out : Unit} :
    importStatement text = some (out, rest) ↔
      ∃ gap code, gap ≠ [] ∧ text = "import".toList ++ (gap ++ (code ++ rest)) ∧ IsGap gap ∧
        Stops isBlank (code ++ rest) ∧ (∀ c ∈ code, c ≠ '\n') ∧ Stops (· ≠ '\n') rest ∧
        code.getLast? = some ';' := by
  simp only [importStatement, ↓bind_eq_some_iff, literal_eq_some_iff, blanks1_eq_some_iff, run_eq_some_iff,
    ↓guard_eq_some_iff, decide_eq_true_eq]
  constructor
  · rintro ⟨-, _, rfl, -, _, ⟨gap, nonempty, rfl, blank, solid⟩, code, _, ⟨rfl, one_line, ended⟩, last, rfl⟩
    exact ⟨gap, code, nonempty, rfl, blank, solid, one_line, ended, last⟩
  · rintro ⟨gap, code, nonempty, rfl, blank, solid, one_line, ended, last⟩
    exact ⟨(), _, rfl, (), _, ⟨gap, nonempty, rfl, blank, solid⟩, code, rest, ⟨rfl, one_line, ended⟩, last, rfl⟩

theorem exists_gap_of_not_all {behind : List Char} (mixed : behind.all isBlank = false) :
    ∃ gap c more, behind = gap ++ c :: more ∧ IsGap gap ∧ isBlank c = false := by
  obtain ⟨gap, rest, rfl, blank, stops⟩ := exists_run isBlank behind
  cases rest with
  | nil =>
    rw [List.append_nil, List.all_eq_true.mpr blank] at mixed
    contradiction
  | cons c more => exact ⟨gap, c, more, rfl, blank, (stops_cons ..).mp stops⟩

/-- A line that does not begin with the word is not read. -/
theorem importStatement_eq_none {line tail : List Char} (other : ¬"import".toList <+: line)
    (ended : Stops (· ≠ '\n') tail) : importStatement (line ++ tail) = none := by
  rw [Option.eq_none_iff_forall_ne_some]
  rintro ⟨_, rest⟩ read
  obtain ⟨gap, code, -, split, -⟩ := importStatement_eq_some_iff.mp read
  cases tail with
  | nil =>
    rw [List.append_nil] at split
    exact other ⟨_, split.symm⟩
  | cons c tail =>
    obtain rfl : c = '\n' := by simpa using ended
    have unread : dropWord? "import".toList (line ++ '\n' :: tail) = none :=
      dropWord?_append_cons_eq_none (by decide) other
    rw [split, dropWord?_append] at unread
    contradiction

/-- A line that is not the bare word is read whole, if it has the form, or not at all. -/
theorem importStatement_line {line : List Char} (spelled : isBareImport line = false) (one_line : '\n' ∉ line)
    {tail : List Char} (ended : Stops (· ≠ '\n') tail) :
    importStatement (line ++ tail) = if isImportLine line then some ((), tail) else none := by
  by_cases starts : "import".toList <+: line
  · obtain ⟨behind, rfl⟩ := starts
    rw [isBareImport_append] at spelled
    obtain ⟨gap, c, more, rfl, blank, solid⟩ := exists_gap_of_not_all spelled
    have stops : Stops isBlank (c :: more ++ tail) := (stops_cons ..).mpr solid
    have within : ∀ d ∈ c :: more, decide (d ≠ '\n') = true := by
      intro d member
      refine decide_eq_true ?_
      rintro rfl
      exact one_line (List.mem_append_right _ (List.mem_append_right _ member))
    have form := isImportLine_append_gap blank solid more
    rw [List.append_assoc, List.append_assoc]
    split_ifs with held
    · obtain ⟨gap_ne, ended_so⟩ := form.mp held
      exact importStatement_eq_some_iff.mpr
        ⟨gap, c :: more, gap_ne, rfl, blank, stops, by simpa using within, ended, ended_so⟩
    · rw [Option.eq_none_iff_forall_ne_some]
      rintro ⟨_, rest⟩ read
      obtain ⟨other, code, other_ne, split, otherBlank, otherSolid, otherWithin, otherEnded, otherLast⟩ :=
        importStatement_eq_some_iff.mp read
      have behind := List.append_cancel_left split
      obtain ⟨rfl, rest_eq⟩ := append_inj_of_stops blank stops otherBlank otherSolid behind
      obtain ⟨rfl, -⟩ := append_inj_of_stops within ended (by simpa using otherWithin) otherEnded rest_eq
      exact held (form.mpr ⟨other_ne, otherLast⟩)
  · have other : isImportLine line = false := by
      rw [← List.isPrefixOf_iff_prefix, Bool.not_eq_true] at starts
      rw [isImportLine, starts, Bool.false_and, Bool.false_and]
    rw [importStatement_eq_none starts ended, other]
    rfl

/-- What is read of a whole line. -/
def importLine? (line : List Char) : Option (Unit × List Char) :=
  if isImportLine line then some ((), line) else none

theorem withText_importStatement_line {line : List Char} (spelled : isBareImport line = false)
    (one_line : '\n' ∉ line) {tail : List Char} (ended : Stops (· ≠ '\n') tail) :
    withText importStatement (line ++ tail) = (importLine? line).map (·, tail) := by
  have read := importStatement_line spelled one_line ended
  rw [importLine?]
  split_ifs at read ⊢ with form
  · exact withText_of_some read
  · rw [withText, read]
    rfl

/-! ## The imports -/

theorem importsOf_eq_map (content : List Char) :
    importsOf content =
      ((atLineStarts (withText importStatement) content).filterMap Sum.getRight?).map fun read =>
        String.ofList read.2 := by
  rw [importsOf, List.map_filterMap]
  refine List.filterMap_congr fun piece _ => ?_
  cases piece with
  | inl c => rfl
  | inr read => rfl

theorem importsOf_eq_filter {content : List Char}
    (spelled : ∀ line ∈ split '\n' content, isBareImport line = false) :
    importsOf content = ((split '\n' content).filter isImportLine).map String.ofList := by
  have read : (atLineStarts (withText importStatement) content).filterMap Sum.getRight? =
      (split '\n' content).filterMap importLine? := by
    refine atLineStarts_lines rfl fun line member tail ended => ?_
    exact withText_importStatement_line (spelled line member) (not_mem_of_mem_split member) ended
  rw [importsOf_eq_map, read, List.map_filterMap, ← List.filterMap_eq_filter, List.map_filterMap]
  refine List.filterMap_congr fun line _ => ?_
  rw [importLine?, Option.guard]
  split_ifs <;> rfl

/-- A bare import takes the next line with it. -/
example : importsOf "import\nbutton;".toList = ["import\nbutton;"] := by decide +kernel

variable {fs : FileSystem} {path content : String}

/-- The imports are the lines of their form, in order. -/
theorem imports_eq_importLines (read : fs.readFile? path = .ok (some content))
    (spelled : ∀ line ∈ split '\n' content.toList, isBareImport line = false) :
    ∃ examples, extractExamples fs path = some examples ∧
      examples.imports = ((split '\n' content.toList).filter isImportLine).map String.ofList :=
  ⟨_, extractExamples_of_read read, importsOf_eq_filter spelled⟩

/-- Two statements on a line, a semicolon within one, a carriage return behind one, one over three lines, and wide
blanks up to the file's end. -/
def mixedImportsFile : String :=
  "import a; import b;\nimport  \"c;\" ;\n import d;\nimport e;\r\nimport \x7b\n  f,\n\x7d;\nimportg;\nimport\u3000h;"

theorem imports_of_mixedImportsFile :
    ∃ examples,
      extractExamples (MemoryFiles.write {} "/a.stories.ts" mixedImportsFile).toFileSystem "/a.stories.ts" =
        some examples ∧
      examples.imports = ["import a; import b;", "import  \"c;\" ;", "import\u3000h;"] := by
  obtain ⟨examples, shown, imports⟩ :=
    imports_eq_importLines (MemoryFiles.readFile?_write {} "/a.stories.ts" mixedImportsFile) (by decide +kernel)
  have lines : ((split '\n' mixedImportsFile.toList).filter isImportLine).map String.ofList =
      ["import a; import b;", "import  \"c;\" ;", "import\u3000h;"] := by decide +kernel
  exact ⟨examples, shown, imports.trans lines⟩

end StoryCatalog.Story
