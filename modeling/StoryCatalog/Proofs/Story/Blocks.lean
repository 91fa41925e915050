import StoryCatalog.Proofs.Fields
import StoryCatalog.Proofs.Story.Declaration
import StoryCatalog.Proofs.Story.Record
import StoryCatalog.Proofs.Text.Split
import Mathlib.Data.Set.List

/-!
# The stories that are shown

A story is a piece of its file that does not depend on what follows: its object ends at the first closing
brace with a semicolon. So the code that is shown of the stories of a file is itself a file of these stories,
and text that is added behind a file adds stories behind its stories. Neither asks anything of the file.
-/

namespace StoryCatalog

open Text Scan Source Story

/-- A story as it is shown. -/
structure ShownStory where
  name : List Char
  body : List Char
  name_ne : name ≠ []
  name_word : ∀ c ∈ name, isWord c = true
  /-- The object ends behind the body, and not before. -/
  unended : Nowhere (literal "\x7d;").Reads body "\x7d;".toList

namespace ShownStory

def block (story : ShownStory) : List Char × List Char :=
  (story.name, story.body)

/-- The code that is shown of the story. -/
def code (story : ShownStory) : List Char :=
  "export const ".toList ++ story.name ++ " = ".toList ++ '{' :: story.body ++ "\x7d;".toList

def entry (story : ShownStory) : String × StoryExample :=
  (String.ofList story.name, storyExample story.name story.body)

theorem code_entry (story : ShownStory) : story.entry.2.code = String.ofList story.code := rfl

theorem code_ne_nil (story : ShownStory) : story.code ≠ [] :=
  List.append_ne_nil_of_right_ne_nil _ (by decide)

/-- The code of a story is read as the story, whatever follows it. -/
theorem storyBlock_code (story : ShownStory) (rest : List Char) :
    storyBlock (story.code ++ rest) = some (story.block, rest) := by
  have split : story.code ++ rest =
      "export const ".toList ++ story.name ++ " = ".toList ++ '{' :: (story.body ++ "\x7d;".toList ++ rest) := by
    unfold code
    simp only [List.append_assoc, List.cons_append]
  rw [split]
  refine storyBlock_eq_some_iff.mpr ⟨plainDeclaration_canonical story.name_ne story.name_word _, ?_⟩
  exact (nowhere_literal_append ..).mpr story.unended

theorem storyBlocks_join_code (stories : List ShownStory) :
    storyBlocks (join ['\n'] (stories.map code)) = stories.map block := by
  induction stories with
  | nil => rfl
  | cons story stories ih =>
    cases stories with
    | nil =>
      have read := story.storyBlock_code []
      have shown : findAll storyBlock (story.code ++ []) = [story.block] :=
        findAll_append_of_some story.code_ne_nil read
      rw [List.append_nil] at shown
      exact shown
    | cons next stories =>
      have read := story.storyBlock_code ('\n' :: join ['\n'] ((next :: stories).map code))
      have shown := findAll_append_of_some story.code_ne_nil read
      rw [findAll_cons_of_none (storyBlock_eq_none_of_ne (by decide) _)] at shown
      rw [storyBlocks] at ih ⊢
      rw [List.map_cons, List.map_cons, join, List.append_assoc, List.singleton_append, ← List.map_cons, shown,
        ih, ← List.map_cons]
      simp

end ShownStory

namespace Story

/-! ## What is shown of a file -/

/-- A story block is its head, its body and its end, and nothing that follows them matters. -/
theorem storyBlock_eq_some_iff_spelled {text name body rest : List Char} :
    storyBlock text = some ((name, body), rest) ↔
      Nowhere (literal "\x7d;").Reads body "\x7d;".toList ∧
        ∃ head, head ≠ [] ∧ '}' ∉ head ∧ (∀ inside, PlainDeclaration name (head ++ inside) inside) ∧
          text = head ++ (body ++ ("\x7d;".toList ++ rest)) := by
  rw [storyBlock_eq_some_iff, nowhere_literal_append, List.append_assoc]
  constructor
  · rintro ⟨plain, unended⟩
    obtain ⟨head, nonempty, rfl, unclosed, declares⟩ := plain.exists_head
    exact ⟨unended, head, nonempty, unclosed, declares, rfl⟩
  · rintro ⟨unended, head, -, -, declares, rfl⟩
    exact ⟨declares _, unended⟩

theorem exists_shownStory {text : List Char} {block : List Char × List Char} {rest : List Char}
    (read : storyBlock text = some (block, rest)) : ∃ story : ShownStory, story.block = block := by
  obtain ⟨name, body⟩ := block
  obtain ⟨unended, head, -, -, declares, -⟩ := storyBlock_eq_some_iff_spelled.mp read
  obtain ⟨name_ne, name_word⟩ := (declares []).name_word
  exact ⟨⟨name, body, name_ne, name_word, unended⟩, rfl⟩

theorem exists_shownStories (content : List Char) :
    ∃ stories : List ShownStory, stories.map ShownStory.block = storyBlocks content := by
  have shown : storyBlocks content ∈ Set.range (List.map ShownStory.block) := by
    rw [Set.range_list_map]
    intro block found
    obtain ⟨before, here, rest, -, read⟩ := exists_of_mem_findAll found
    exact exists_shownStory read
  exact shown

theorem stories_of_storyBlocks {content : List Char} {stories : List ShownStory}
    (found : storyBlocks content = stories.map ShownStory.block) :
    (examplesOfSource content).stories = Fields.ofList (stories.map ShownStory.entry) := by
  simp only [examplesOfSource, found, List.map_map]
  rfl

/-- The examples are stories whose names differ. -/
theorem exists_shownEntries (content : List Char) :
    ∃ stories : List ShownStory, (examplesOfSource content).stories = ⟨stories.map ShownStory.entry⟩ ∧
      ((stories.map ShownStory.entry).map (·.1)).Nodup := by
  obtain ⟨all, found⟩ := exists_shownStories content
  have written := stories_of_storyBlocks found.symm
  have shown : (examplesOfSource content).stories.entries ∈ Set.range (List.map ShownStory.entry) := by
    rw [Set.range_list_map]
    intro entry member
    rw [written] at member
    obtain ⟨story, -, same⟩ := List.mem_map.mp (Fields.mem_of_mem_ofList member)
    exact ⟨story, same⟩
  obtain ⟨stories, entries⟩ := shown
  refine ⟨stories, by rw [entries], ?_⟩
  rw [entries, written]
  exact Fields.nodup_keys_ofList _

/-! ## Showing the shown code -/

/-- The file that the code of all examples makes, a line feed between each two. -/
def shownFile (examples : StoryExamples) : String :=
  "\n".intercalate (examples.stories.values.map StoryExample.code)

theorem toList_shownFile {examples : StoryExamples} {stories : List ShownStory}
    (shown : examples.stories = ⟨stories.map ShownStory.entry⟩) :
    (shownFile examples).toList = join ['\n'] (stories.map ShownStory.code) := by
  have codes : (stories.map ShownStory.entry).map (fun entry => entry.2.code.toList) =
      stories.map ShownStory.code := by
    rw [List.map_map]
    refine List.map_congr_left fun story _ => ?_
    rw [Function.comp_apply, story.code_entry, String.toList_ofList]
  rw [shownFile, shown, String.toList_intercalate, join_eq_intercalate, ← codes]
  simp only [Fields.values, List.map_map]
  rfl

theorem stories_shownFile (content : List Char) :
    (examplesOfSource (shownFile (examplesOfSource content)).toList).stories =
      (examplesOfSource content).stories := by
  obtain ⟨stories, shown, distinct⟩ := exists_shownEntries content
  have blocks := ShownStory.storyBlocks_join_code stories
  rw [← toList_shownFile shown] at blocks
  rw [stories_of_storyBlocks blocks, Fields.ofList_of_nodup distinct, shown]

variable {fs other : FileSystem} {path otherPath : String}

/-- The file of the shown code shows the same stories. -/
theorem shown_code_shows_stories {content : String} (read : fs.readFile? path = .ok (some content)) :
    ∃ examples, extractExamples fs path = some examples ∧
      ∀ other otherPath, FileSystem.readFile? other otherPath = .ok (some (shownFile examples)) →
        ∃ again, extractExamples other otherPath = some again ∧ again.stories = examples.stories := by
  refine ⟨_, extractExamples_of_read read, fun other otherPath reread => ?_⟩
  exact ⟨_, extractExamples_of_read reread, stories_shownFile content.toList⟩

/-- Three blocks with two names, a type, and braces inside. -/
def repeatedFile : String :=
  "export const A: Story = \x7b\n  args: \x7b a: 1 \x7d,\n\x7d;\n" ++
    "export const B=\x7bf() \x7b\x7d\x7d;\nexport const A = \x7b b \x7d;"

theorem shown_code_of_repeatedFile :
    ∃ examples again,
      extractExamples (MemoryFiles.write {} "/a.stories.ts" repeatedFile).toFileSystem "/a.stories.ts" =
        some examples ∧
      extractExamples (MemoryFiles.write {} "/b.stories.ts" (shownFile examples)).toFileSystem "/b.stories.ts" =
        some again ∧
      again.stories = examples.stories ∧ again.stories.keys = ["A", "B"] := by
  obtain ⟨examples, shown, reread⟩ :=
    shown_code_shows_stories (MemoryFiles.readFile?_write {} "/a.stories.ts" repeatedFile)
  obtain ⟨again, shownAgain, same⟩ :=
    reread _ _ (MemoryFiles.readFile?_write {} "/b.stories.ts" (shownFile examples))
  have keys : examples.stories.keys = ["A", "B"] := by
    have computed : (extractExamples (MemoryFiles.write {} "/a.stories.ts" repeatedFile).toFileSystem
        "/a.stories.ts").map (·.stories.keys) = some ["A", "B"] := by decide +kernel
    rw [shown] at computed
    exact Option.some.inj computed
  exact ⟨examples, again, shown, shownAgain, same, by rw [same, keys]⟩

/-! ## Text behind a file -/

theorem storyBlock_stable (text : List Char) (block : List Char × List Char) (rest more : List Char)
    (read : storyBlock text = some (block, rest)) : storyBlock (text ++ more) = some (block, rest ++ more) := by
  obtain ⟨name, body⟩ := block
  obtain ⟨unended, head, nonempty, unclosed, declares, rfl⟩ := storyBlock_eq_some_iff_spelled.mp read
  refine storyBlock_eq_some_iff_spelled.mpr ⟨unended, head, nonempty, unclosed, declares, ?_⟩
  simp only [List.append_assoc]

theorem storyBlock_consumes (text : List Char) (block : List Char × List Char) (rest : List Char)
    (read : storyBlock text = some (block, rest)) : ∃ taken, taken ≠ [] ∧ text = taken ++ rest := by
  obtain ⟨name, body⟩ := block
  obtain ⟨-, head, nonempty, -, -, rfl⟩ := storyBlock_eq_some_iff_spelled.mp read
  refine ⟨head ++ (body ++ "\x7d;".toList), by simp [nonempty], ?_⟩
  simp only [List.append_assoc]

theorem infix_of_storyBlock {text : List Char} {block : List Char × List Char} {rest : List Char}
    (read : storyBlock text = some (block, rest)) : "\x7d;".toList <:+: text := by
  obtain ⟨name, body⟩ := block
  obtain ⟨-, head, -, -, -, rfl⟩ := storyBlock_eq_some_iff_spelled.mp read
  exact ⟨head ++ body, rest, by simp only [List.append_assoc]⟩

/-- Where a story begins that only more text can end, no other story ends. -/
theorem storyBlock_unfinished (text more : List Char) (unread : storyBlock text = none)
    (reads : storyBlock.Reads (text ++ more)) (before here : List Char) (split : text = before ++ here) :
    storyBlock here = none := by
  obtain ⟨⟨name, body⟩, rest, read⟩ := reads
  obtain ⟨unended, head, nonempty, unclosed, declares, same⟩ := storyBlock_eq_some_iff_spelled.mp read
  rw [Option.eq_none_iff_forall_ne_some]
  rintro ⟨other, otherRest⟩ otherRead
  have held : "\x7d;".toList <:+: text := by
    rw [split]
    exact (infix_of_storyBlock otherRead).trans (List.suffix_append before here).isInfix
  -- The head closes nothing, so the longer text's first end is the one behind the body. The text holds an end,
  -- so it holds this one, and the story was read in it.
  have first : Nowhere (literal "\x7d;").Reads (head ++ body) ("\x7d;".toList ++ rest) := by
    rw [nowhere_append]
    exact ⟨nowhere_literal_of_not_mem '}' (by decide) unclosed _, (nowhere_literal_append ..).mpr unended⟩
  have ends : (head ++ body) ++ ("\x7d;".toList ++ rest) = text ++ more := by
    rw [same, List.append_assoc]
  obtain ⟨left, whole⟩ := append_word_prefix_of_infix first ends held
  have finished : storyBlock text = some ((name, body), left) := by
    refine storyBlock_eq_some_iff_spelled.mpr ⟨unended, head, nonempty, unclosed, declares, ?_⟩
    rw [← whole]
    simp only [List.append_assoc]
  rw [unread] at finished
  contradiction

theorem storyBlocks_prefix_append (first second : List Char) :
    storyBlocks first <+: storyBlocks (first ++ second) :=
  findAll_prefix_append storyBlock_stable storyBlock_consumes storyBlock_unfinished first second

/-- Text behind a file leaves the stories of the file before all others, and each whose name does not come
again in its place with its code and its args. -/
theorem stories_stay_before_appended_text {first second : String}
    (read : fs.readFile? path = .ok (some first))
    (longer : other.readFile? otherPath = .ok (some (first ++ second))) :
    ∃ (examples more : StoryExamples) (later : List (List Char × List Char)),
      extractExamples fs path = some examples ∧ extractExamples other otherPath = some more ∧
      storyBlocks (first ++ second).toList = storyBlocks first.toList ++ later ∧
      ∀ (i : ℕ) (name : String) (shown : StoryExample), examples.stories.entries[i]? = some (name, shown) →
        (∀ block ∈ later, String.ofList block.1 ≠ name) →
        more.stories.entries[i]? = some (name, shown) := by
  obtain ⟨later, split⟩ := storyBlocks_prefix_append first.toList second.toList
  rw [← String.toList_append] at split
  refine ⟨_, _, later, extractExamples_of_read read, extractExamples_of_read longer, split.symm, ?_⟩
  intro i name shown there fresh
  simp only [examplesOfSource, ← split, List.map_append, Fields.ofList_append] at there ⊢
  refine Fields.getElem?_putAll there fun pair member => ?_
  obtain ⟨block, found, rfl⟩ := List.mem_map.mp member
  exact fresh block found

/-- A story, and the start of one. -/
def startedFile : String :=
  "export const A = \x7b a \x7d;\nexport const B = \x7b"

/-- The end of a story, and another one. -/
def startedRest : String :=
  " b \x7d;\nexport const C = \x7b\x7d;"

/-- The end of the second story makes it one of the file, behind the first. -/
theorem first_story_of_startedFile_stays :
    ∃ examples more : StoryExamples,
      extractExamples (MemoryFiles.write {} "/a.stories.ts" startedFile).toFileSystem "/a.stories.ts" =
        some examples ∧
      extractExamples (MemoryFiles.write {} "/a.stories.ts" (startedFile ++ startedRest)).toFileSystem
        "/a.stories.ts" = some more ∧
      examples.stories.keys = ["A"] ∧ more.stories.keys = ["A", "B", "C"] ∧
      more.stories.entries[0]? = some ("A", storyExample ['A'] " a ".toList) := by
  have written := MemoryFiles.readFile?_write {} "/a.stories.ts"
  have keys (content : String) (names : List String)
      (computed : (examplesOfSource content.toList).stories.keys = names) {examples : StoryExamples}
      (shown : extractExamples (MemoryFiles.write {} "/a.stories.ts" content).toFileSystem "/a.stories.ts" =
        some examples) : examples.stories.keys = names := by
    rw [extractExamples_of_read (written content)] at shown
    rw [← Option.some.inj shown, computed]
  obtain ⟨examples, more, later, shown, shownMore, blocks, stay⟩ :=
    stories_stay_before_appended_text (written startedFile) (written (startedFile ++ startedRest))
  have first : examples.stories.entries[0]? = some ("A", storyExample ['A'] " a ".toList) := by
    rw [extractExamples_of_read (written startedFile)] at shown
    rw [← Option.some.inj shown]
    decide +kernel
  have others : later = [(['B'], " b ".toList), (['C'], [])] := by
    have computed : storyBlocks (startedFile ++ startedRest).toList =
        storyBlocks startedFile.toList ++ [(['B'], " b ".toList), (['C'], [])] := by decide +kernel
    exact List.append_cancel_left (blocks.symm.trans computed)
  refine ⟨examples, more, shown, shownMore, keys startedFile _ (by decide +kernel) shown,
    keys (startedFile ++ startedRest) _ (by decide +kernel) shownMore, stay 0 _ _ first ?_⟩
  rw [others]
  decide

end Story

end StoryCatalog
