import StoryCatalog.Proofs.Story.Args
import StoryCatalog.Proofs.Story.Declaration
import StoryCatalog.Proofs.Story.Record

/-!
# Whether a story's record has the args that its code shows

The code of a story shows the first args block of the declaration's body. Its record reads the last block
that opens before anything in the body closes, and looks for another declaration of the name where there
is none. The two agree exactly when the blocks they pick stand for the same values, so any object or
function that closes before the args makes them differ.
-/

namespace StoryCatalog.Story

open Text Scan Source

/-- The raw args that a story's code shows, from the body of its declaration. -/
inductive ShownArgs (body : List Char) : Fields String → Prop
  | block {block : List Char} (first : FirstArgs body block) : ShownArgs body (rawArgs block)
  | nothing (absent : ∀ block, ¬FirstArgs body block) : ShownArgs body {}

/-- The raw args that a record reads under a name, from the leftmost declaration that has any. -/
inductive RecordedArgs (name content : List Char) : Fields String → Prop
  | block {before here inside block : List Char} (split : content = before ++ here)
      (declared : Declaration name here inside) (last : LastArgs inside block)
      (leftmost : Nowhere (fun other => ∃ inside block, Declaration name other inside ∧ LastArgs inside block)
        before here) : RecordedArgs name content (rawArgs block)
  | nothing (absent : ∀ before here inside block, content = before ++ here → Declaration name here inside →
      ¬LastArgs inside block) : RecordedArgs name content {}

/-- What is shown is determined by the body. -/
theorem ShownArgs.unique {body : List Char} {raw other : Fields String} (shown : ShownArgs body raw)
    (also : ShownArgs body other) : raw = other := by
  cases shown with
  | block first =>
    cases also with
    | block second => rw [first.unique second]
    | nothing absent => exact absurd first (absent _)
  | nothing absent =>
    cases also with
    | block second => exact absurd second (absent _)
    | nothing => rfl

theorem shownArgs_storyExample (name body : List Char) : ShownArgs body (storyExample name body).args := by
  unfold storyExample
  cases found : findFirst? argsBlock body with
  | none => exact .nothing (findFirst?_argsBlock_eq_none.mp found)
  | some block => exact .block (findFirst?_argsBlock.mp found)

variable {name : List Char}

theorem namedArgs_reads_iff (name_ne : name ≠ []) (name_word : ∀ c ∈ name, isWord c = true)
    {text block : List Char} :
    (∃ rest, namedArgs name text = some (block, rest)) ↔
      ∃ inside, Declaration name text inside ∧ LastArgs inside block := by
  simp only [namedArgs_eq_some_iff name_ne name_word, ← innerArgs_reads_iff]
  constructor
  · rintro ⟨rest, inside, declared, read⟩
    exact ⟨inside, declared, rest, read⟩
  · rintro ⟨inside, declared, rest, read⟩
    exact ⟨rest, inside, declared, read⟩

/-- What is recorded is read from the block that the search for the name finds. -/
theorem recordedArgs_iff (name_ne : name ≠ []) (name_word : ∀ c ∈ name, isWord c = true)
    {content : List Char} {raw : Fields String} :
    RecordedArgs name content raw ↔
      raw = ((findFirst? (namedArgs name) content).map rawArgs).getD {} := by
  have reads (text : List Char) : (namedArgs name).Reads text ↔
      ∃ inside block, Declaration name text inside ∧ LastArgs inside block := by
    rw [exists_comm]
    exact exists_congr fun _ => namedArgs_reads_iff name_ne name_word
  constructor
  · intro recorded
    cases recorded with
    | block split declared last leftmost =>
      obtain ⟨rest, read⟩ := (namedArgs_reads_iff name_ne name_word).mpr ⟨_, declared, last⟩
      have found := findFirst?_eq_some_iff.mpr
        ⟨_, _, rest, split, read, (nowhere_congr reads _ _).mpr leftmost⟩
      rw [found, Option.map_some, Option.getD_some]
    | nothing absent =>
      have found : findFirst? (namedArgs name) content = none := by
        refine findFirst?_eq_none_iff.mpr fun before here split => not_reads_iff.mp fun read => ?_
        obtain ⟨inside, block, declared, last⟩ := (reads here).mp read
        exact absent before here inside block split declared last
      rw [found, Option.map_none, Option.getD_none]
  · rintro rfl
    cases found : findFirst? (namedArgs name) content with
    | none =>
      refine .nothing fun before here inside block split declared last => ?_
      have unread := findFirst?_eq_none_iff.mp found before here split
      exact not_reads_iff.mpr unread ((reads here).mpr ⟨inside, block, declared, last⟩)
    | some block =>
      obtain ⟨before, here, rest, split, atHere, nowhere⟩ := findFirst?_eq_some_iff.mp found
      obtain ⟨inside, declared, last⟩ := (namedArgs_reads_iff name_ne name_word).mp ⟨rest, atHere⟩
      exact .block split declared last ((nowhere_congr reads before here).mp nowhere)

/-- What is recorded is determined by the name and the content. -/
theorem RecordedArgs.unique (name_ne : name ≠ []) (name_word : ∀ c ∈ name, isWord c = true)
    {content : List Char} {raw other : Fields String} (recorded : RecordedArgs name content raw)
    (also : RecordedArgs name content other) : raw = other := by
  rw [(recordedArgs_iff name_ne name_word).mp recorded, (recordedArgs_iff name_ne name_word).mp also]

/-- The values of a record are those of the raw args it reads. -/
theorem exists_recordedArgs (name_ne : name ≠ []) (name_word : ∀ c ∈ name, isWord c = true)
    {content : List Char} {values : Fields Literal} (read : argsOf content name = .ok values) :
    ∃ raw, RecordedArgs name content raw ∧ CoercedTo raw values := by
  refine ⟨_, (recordedArgs_iff name_ne name_word).mpr rfl, ?_⟩
  rw [argsOf_eq] at read
  cases found : findFirst? (namedArgs name) content with
  | none =>
    rw [found, Except.ok.injEq] at read
    exact read ▸ .nil
  | some block =>
    rw [found] at read
    exact coercedTo_of_coercedArgs read

/-- A listed story's example is made from the last declaration of its name. -/
theorem last_block_of_listed {content name : List Char} {shown : StoryExample}
    (listed : (examplesOfSource content).stories.get? (String.ofList name) = some shown) :
    ∃ earlier body later, storyBlocks content = earlier ++ (name, body) :: later ∧
      (∀ other ∈ later, other.1 ≠ name) ∧ storyExample name body = shown := by
  simp only [examplesOfSource, Fields.get?_ofList] at listed
  obtain ⟨last, first, split, differ⟩ := List.lookup_eq_some_iff.mp listed
  rw [List.reverse_eq_iff, List.reverse_append, List.reverse_cons, List.append_assoc, List.singleton_append,
    List.map_eq_append_iff] at split
  obtain ⟨earlier, found, blocks, -, split⟩ := split
  obtain ⟨⟨declared, body⟩, later, rfl, same, rest⟩ := List.map_eq_cons_iff.mp split
  obtain ⟨names, rfl⟩ := Prod.mk.inj same
  obtain rfl := String.ofList_injective names
  refine ⟨earlier, body, later, blocks, ?_, rfl⟩
  rintro other member rfl
  have present : (String.ofList other.1, storyExample other.1 other.2) ∈ last := by
    rw [← List.mem_reverse, ← rest]
    exact List.mem_map_of_mem member
  simpa using differ _ present

/-- A block of a file starts with the declaration of its name. -/
theorem declared_of_mem_storyBlocks {content name body : List Char}
    (member : (name, body) ∈ storyBlocks content) :
    ∃ before here rest, content = before ++ here ∧
      PlainDeclaration name here (body ++ "\x7d;".toList ++ rest) := by
  obtain ⟨before, here, rest, split, read⟩ := exists_of_mem_findAll member
  exact ⟨before, here, rest, split, (storyBlock_eq_some_iff.mp read).1⟩

/-- Two raw values stand for the same literal, or neither for any and for the same cause. -/
def SameLiteral (text other : String) : Prop :=
  coerce text.toList = coerce other.toList

/-- Against values that are read from some raw args, other raw args stand for them exactly when the two
agree key by key. -/
theorem coercedTo_iff_of_coercedTo {shown raw : Fields String} {values : Fields Literal}
    (coerced : CoercedTo raw values) : CoercedTo shown values ↔ shown.Rel SameLiteral raw := by
  constructor
  · intro also
    refine Fields.Rel.trans ?_ also (Fields.Rel.flip coerced)
    intro text literal other first second
    exact first.trans second.symm
  · intro same
    refine Fields.Rel.trans ?_ same coerced
    intro text other literal first second
    exact first.trans second

theorem exists_recordedArgs_of_made {fs : FileSystem} {path id content : String} {record : StoryRecord}
    (named : exportName? id.toList = some name) (name_ne : name ≠ [])
    (name_word : ∀ c ∈ name, isWord c = true)
    (read : fs.readFile? path = .ok (some content)) (made : extractRecord fs path id = some record) :
    ∃ raw, RecordedArgs name content.toList raw ∧ CoercedTo raw record.args := by
  obtain ⟨_, docs, values, readAgain, -, valued, rfl⟩ := extractRecord_eq_some_iff.mp made
  rw [read, Except.ok.injEq, Option.some.injEq] at readAgain
  subst readAgain
  exact exists_recordedArgs name_ne name_word ((argsOfId_eq_ok_iff named).mp valued)

/-- The values of a record are what the shown args stand for exactly when the args block that the record
reads and the one that the code shows agree key by key. -/
theorem args_agree_iff {fs : FileSystem} {path id : String} {examples : StoryExamples}
    {shown : StoryExample} {record : StoryRecord} (named : exportName? id.toList = some name)
    (extracted : extractExamples fs path = some examples)
    (listed : examples.stories.get? (String.ofList name) = some shown)
    (made : extractRecord fs path id = some record) :
    ∃ content earlier body later raw, fs.readText path = .ok content ∧
      storyBlocks content.toList = earlier ++ (name, body) :: later ∧ (∀ other ∈ later, other.1 ≠ name) ∧
      ShownArgs body shown.args ∧ RecordedArgs name content.toList raw ∧
      (CoercedTo shown.args record.args ↔ shown.args.Rel SameLiteral raw) := by
  obtain ⟨content, read, rfl⟩ := extractExamples_eq_some_iff.mp extracted
  obtain ⟨earlier, body, later, blocks, last, rfl⟩ := last_block_of_listed listed
  obtain ⟨before, here, rest, -, declared⟩ :=
    declared_of_mem_storyBlocks (blocks ▸ List.mem_append_right _ (List.mem_cons_self ..))
  obtain ⟨name_ne, name_word⟩ := declared.name_word
  obtain ⟨raw, recorded, coerced⟩ := exists_recordedArgs_of_made named name_ne name_word read made
  exact ⟨content, earlier, body, later, raw, (FileSystem.readFile?_eq_some_iff.mp read).2, blocks, last,
    shownArgs_storyExample name body, recorded, coercedTo_iff_of_coercedTo coerced⟩

/-- A file in which nothing closes before the args of its story. -/
def flatFile : String :=
  "export const Primary = \x7b\n  args: \x7b label: 'Go' \x7d,\n\x7d;\n"

theorem args_agree_iff_flatFile :
    ∃ content earlier body later raw,
      (MemoryFiles.write {} "/a.stories.ts" flatFile).toFileSystem.readText "/a.stories.ts" = .ok content ∧
      storyBlocks content.toList = earlier ++ ("Primary".toList, body) :: later ∧
      (∀ other ∈ later, other.1 ≠ "Primary".toList) ∧ ShownArgs body ⟨[("label", "'Go'")]⟩ ∧
      RecordedArgs "Primary".toList content.toList raw ∧
      (CoercedTo ⟨[("label", "'Go'")]⟩ ⟨[("label", .text "Go")]⟩ ↔
        Fields.Rel SameLiteral ⟨[("label", "'Go'")]⟩ raw) := by
  have extracted :
      extractExamples (MemoryFiles.write {} "/a.stories.ts" flatFile).toFileSystem "/a.stories.ts" =
        some (examplesOfSource flatFile.toList) :=
    extractExamples_eq_some_iff.mpr ⟨flatFile, by rw [MemoryFiles.readFile?, MemoryFiles.get?_write], rfl⟩
  have listed : (examplesOfSource flatFile.toList).stories.get? (String.ofList "Primary".toList) =
      some ⟨"export const Primary = \x7b\n  args: \x7b label: 'Go' \x7d,\n\x7d;", ⟨[("label", "'Go'")]⟩⟩ := by
    decide +kernel
  have made :
      extractRecord (MemoryFiles.write {} "/a.stories.ts" flatFile).toFileSystem "/a.stories.ts" "a--primary" =
        some { id := "a--primary", filePath := "/a.stories.ts", args := ⟨[("label", .text "Go")]⟩ } := by
    decide +kernel
  exact args_agree_iff (by decide +kernel) extracted listed made

/-- A file in which an object closes before the args of its story. -/
def nestedFile : String :=
  "export const Primary = \x7b\n  parameters: \x7b layout: 'centered' \x7d,\n  args: \x7b label: 'Go' \x7d,\n\x7d;\n"

theorem args_disagree_nestedFile :
    ∃ examples shown record,
      exportName? "a--primary".toList = some "Primary".toList ∧
      extractExamples (MemoryFiles.write {} "/a.stories.ts" nestedFile).toFileSystem "/a.stories.ts" =
        some examples ∧
      examples.stories.get? "Primary" = some shown ∧
      extractRecord (MemoryFiles.write {} "/a.stories.ts" nestedFile).toFileSystem "/a.stories.ts"
        "a--primary" = some record ∧
      shown.args = ⟨[("label", "'Go'")]⟩ ∧ record.args = {} ∧ ¬CoercedTo shown.args record.args := by
  refine ⟨examplesOfSource nestedFile.toList,
    ⟨String.ofList (nestedFile.toList.dropLast), ⟨[("label", "'Go'")]⟩⟩,
    { id := "a--primary", filePath := "/a.stories.ts" }, by decide +kernel, ?_, by decide +kernel,
    by decide +kernel, rfl, rfl, ?_⟩
  · exact extractExamples_eq_some_iff.mpr
      ⟨nestedFile, by rw [MemoryFiles.readFile?, MemoryFiles.get?_write], rfl⟩
  · intro coerced
    cases coerced

/-! ## A name that is declared once -/

section Once

variable {content before here inside : List Char} {raw : Fields String}

/-- The name is declared after `before` and nowhere else. -/
def DeclaredOnce (name content before : List Char) : Prop :=
  ∀ front here inside, content = front ++ here → Declaration name here inside → front = before

theorem recordedArgs_of_once (recorded : RecordedArgs name content raw) (split : content = before ++ here)
    (declared : PlainDeclaration name here inside) (once : DeclaredOnce name content before) :
    (∃ block, LastArgs inside block ∧ raw = rawArgs block) ∨
      ((∀ block, ¬LastArgs inside block) ∧ raw = {}) := by
  obtain ⟨name_ne, name_word⟩ := declared.name_word
  cases recorded with
  | @block front other later block found declaredThere last _ =>
    obtain rfl := once front other later found declaredThere
    obtain rfl := List.append_cancel_left (split.symm.trans found)
    obtain ⟨-, rfl⟩ := declared.declaration.unique declaredThere name_ne name_word name_ne name_word
    exact .inl ⟨block, last, rfl⟩
  | nothing absent =>
    exact .inr ⟨fun block => absent before here inside block split declared.declaration, rfl⟩

/-- No args block is read from an object in which something closes before the first. -/
theorem not_lastArgs_of_nested {lead tail : List Char} (closes : '}' ∈ lead)
    (nowhere : Nowhere (fun text => ∃ block, OpensArgs text block) lead tail) (rest block : List Char) :
    ¬LastArgs (lead ++ tail ++ rest) block := by
  rintro ⟨passed, opening, parts, unclosed, opened, -⟩
  obtain ⟨first, second, rfl, absent⟩ := List.eq_append_cons_of_mem closes
  have starts : dropWord? passed (first ++ '}' :: (second ++ (tail ++ rest))) = some opening := by
    rw [dropWord?_eq_some_iff, ← parts]
    simp only [List.append_assoc, List.cons_append]
  obtain ⟨more, rfl, rfl⟩ := dropWord?_append_cons unclosed starts
  rw [List.mem_append, not_or] at absent
  have inBody := opened.congr_after absent.2 (second ++ tail)
  rw [nowhere_iff] at nowhere
  refine nowhere passed (more ++ '}' :: second) (by simp) (by simp) ⟨block, ?_⟩
  simpa using inBody

end Once

section Record

variable {fs : FileSystem} {path id content : String} {record : StoryRecord} {before here : List Char}

/-- A record has the values of the last block that opens before anything closes. -/
theorem record_args_of_lastArgs (named : exportName? id.toList = some name)
    (read : fs.readFile? path = .ok (some content)) (made : extractRecord fs path id = some record)
    {inside block : List Char} (split : content.toList = before ++ here)
    (declared : PlainDeclaration name here inside)
    (once : DeclaredOnce name content.toList before) (last : LastArgs inside block) :
    CoercedTo (rawArgs block) record.args := by
  obtain ⟨name_ne, name_word⟩ := declared.name_word
  obtain ⟨raw, recorded, coerced⟩ := exists_recordedArgs_of_made named name_ne name_word read made
  rcases recordedArgs_of_once recorded split declared once with ⟨other, found, rfl⟩ | ⟨absent, -⟩
  · rwa [found.unique last] at coerced
  · exact absurd last (absent block)

/-- Where an object or a function closes before the first args block of a story, its record has no args,
whatever its code shows. -/
theorem record_args_of_nested (named : exportName? id.toList = some name)
    (read : fs.readFile? path = .ok (some content)) (made : extractRecord fs path id = some record)
    {lead tail rest : List Char} (split : content.toList = before ++ here)
    (declared : PlainDeclaration name here (lead ++ tail ++ rest))
    (once : DeclaredOnce name content.toList before) (closes : '}' ∈ lead)
    (nowhere : Nowhere (fun text => ∃ block, OpensArgs text block) lead tail) :
    record.args = {} := by
  obtain ⟨name_ne, name_word⟩ := declared.name_word
  obtain ⟨raw, recorded, coerced⟩ := exists_recordedArgs_of_made named name_ne name_word read made
  rcases recordedArgs_of_once recorded split declared once with ⟨block, last, -⟩ | ⟨-, rfl⟩
  · exact absurd last (not_lastArgs_of_nested closes nowhere rest block)
  · exact coerced.unique .nil

end Record

end StoryCatalog.Story
