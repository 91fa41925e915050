import StoryCatalog.Proofs.Story.Blocks

/-!
# Stories shown whole

A file that exports one story after another shows each with its whole block exactly where no body holds a closing
brace with a semicolon behind it. The first such brace ends the story, whatever braces are open there, so a story
with balanced braces that is cut is shown with a brace left open.
-/

namespace StoryCatalog

open Text Scan Source Story

/-! ## Balanced braces -/

/-- How many braces are open behind a text that starts with some open, if it closes none that is not open. -/
def openBraces? : ℕ → List Char → Option ℕ
  | depth, [] => some depth
  | depth, c :: rest =>
    if c = '{' then openBraces? (depth + 1) rest
    else if c = '}' then
      match depth with
      | 0 => none
      | depth + 1 => openBraces? depth rest
    else openBraces? depth rest

/-- Every brace is closed, and none is closed that was not opened. -/
def Balanced (text : List Char) : Prop :=
  openBraces? 0 text = some 0

instance (text : List Char) : Decidable (Balanced text) :=
  inferInstanceAs (Decidable (openBraces? 0 text = some 0))

theorem openBraces?_append (depth : ℕ) (first second : List Char) :
    openBraces? depth (first ++ second) = (openBraces? depth first).bind fun left => openBraces? left second := by
  induction first generalizing depth with
  | nil => rfl
  | cons c first ih =>
    rw [List.cons_append, openBraces?.eq_def, openBraces?.eq_def depth]
    dsimp only
    split_ifs
    · exact ih (depth + 1)
    · cases depth with
      | zero => rfl
      | succ depth => exact ih depth
    · exact ih depth

/-- What stands before a closing brace of balanced text leaves a brace open. -/
theorem not_balanced_of_balanced_append {front back : List Char} (balanced : Balanced (front ++ '}' :: back)) :
    ¬Balanced front := by
  intro inner
  have reached : openBraces? 0 (front ++ '}' :: back) = openBraces? 0 ('}' :: back) := by
    rw [openBraces?_append, show openBraces? 0 front = some 0 from inner, Option.bind_some]
  have closed : openBraces? 0 ('}' :: back) = none := rfl
  rw [closed, show openBraces? 0 (front ++ '}' :: back) = some 0 from balanced] at reached
  contradiction

/-! ## Written stories -/

theorem ShownStory.code_eq (story : ShownStory) : story.code =
    "export const ".toList ++ story.name ++ " = ".toList ++ '{' :: story.body ++ "\x7d;".toList := rfl

/-- A story as it is written, whatever its body. -/
structure WrittenStory where
  name : List Char
  body : List Char
  name_ne : name ≠ []
  name_word : ∀ c ∈ name, isWord c = true

namespace WrittenStory

def block (story : WrittenStory) : List Char × List Char :=
  (story.name, story.body)

def code (story : WrittenStory) : List Char :=
  "export const ".toList ++ story.name ++ " = ".toList ++ '{' :: story.body ++ "\x7d;".toList

theorem code_eq (story : WrittenStory) : story.code =
    "export const ".toList ++ story.name ++ " = ".toList ++ '{' :: story.body ++ "\x7d;".toList := rfl

def line (story : WrittenStory) : List Char :=
  story.code ++ ['\n']

/-- The first end in the story is the one behind its body. -/
def Whole (story : WrittenStory) : Prop :=
  ¬"\x7d;".toList <:+: story.body

/-- The story up to an end, where its first one is. -/
def shownAt (story : WrittenStory) {front : List Char} (first : ¬"\x7d;".toList <:+: front) : ShownStory where
  name := story.name
  body := front
  name_ne := story.name_ne
  name_word := story.name_word
  unended := by
    have ended : Stops (· = ';') "\x7d;".toList := (stops_cons ..).mpr (by decide)
    exact (nowhere_pair first fun _ => ended).mono fun text => literal_reads_iff.mp

theorem storyBlocks_lines {stories : List WrittenStory} (whole : ∀ story ∈ stories, story.Whole)
    (rest : List Char) :
    storyBlocks (stories.flatMap line ++ rest) = stories.map block ++ storyBlocks rest := by
  induction stories with
  | nil => rfl
  | cons story stories ih =>
    rw [List.forall_mem_cons] at whole
    have shown := findAll_append_of_some (story.shownAt whole.1).code_ne_nil
      ((story.shownAt whole.1).storyBlock_code ('\n' :: (stories.flatMap line ++ rest)))
    rw [findAll_cons_of_none (storyBlock_eq_none_of_ne (by decide) _)] at shown
    have spelled : (story :: stories).flatMap line ++ rest =
        (story.shownAt whole.1).code ++ '\n' :: (stories.flatMap line ++ rest) := by
      rw [List.flatMap_cons, List.append_assoc, line, List.append_assoc, List.singleton_append]
      rfl
    rw [spelled, storyBlocks, shown, List.map_cons, List.cons_append]
    exact congrArg _ (ih whole.2)

/-- A story goes to its first end, and what its body holds behind that end is searched for stories. -/
theorem storyBlocks_cut {stories : List WrittenStory} (whole : ∀ story ∈ stories, story.Whole)
    {story : WrittenStory} {front back : List Char} (split : story.body = front ++ ("\x7d;".toList ++ back))
    (first : ¬"\x7d;".toList <:+: front) (rest : List Char) :
    storyBlocks (stories.flatMap line ++ (story.code ++ rest)) =
      stories.map block ++ (story.name, front) :: storyBlocks (back ++ ("\x7d;".toList ++ rest)) := by
  have spelled : story.code ++ rest = (story.shownAt first).code ++ (back ++ ("\x7d;".toList ++ rest)) := by
    rw [code_eq, ShownStory.code_eq, split]
    simp only [shownAt, List.append_assoc, List.cons_append]
  rw [storyBlocks_lines whole, spelled]
  exact congrArg _ (findAll_append_of_some (story.shownAt first).code_ne_nil
    ((story.shownAt first).storyBlock_code _))

end WrittenStory

namespace Story

variable {fs : FileSystem} {path : String}

/-- A story that is shown with its whole code has no end before the last. -/
theorem whole_of_shown_code {story : WrittenStory} {shown : ShownStory} (name : shown.name = story.name)
    (code : shown.code = story.code) : story.Whole := by
  have body : shown.body = story.body := by
    rw [ShownStory.code_eq, WrittenStory.code_eq, name] at code
    have object := List.append_cancel_left (List.append_cancel_right code)
    exact (List.cons.inj object).2
  rintro ⟨front, back, ended⟩
  have place : story.body = front ++ ("\x7d;".toList ++ back) := by
    rw [← ended, List.append_assoc]
  refine (nowhere_iff ..).mp shown.unended front ("\x7d;".toList ++ back) (body.trans place)
    (List.append_ne_nil_of_left_ne_nil (by decide) back) ?_
  rw [literal_reads_iff, List.append_assoc]
  exact List.prefix_append ..

theorem entries_of_whole {stories : List WrittenStory} (distinct : (stories.map WrittenStory.name).Nodup)
    (whole : ∀ story ∈ stories, story.Whole) :
    (examplesOfSource (stories.flatMap WrittenStory.line)).stories.entries =
      stories.map fun story => (String.ofList story.name, storyExample story.name story.body) := by
  have blocks : storyBlocks (stories.flatMap WrittenStory.line) = stories.map WrittenStory.block := by
    have found := WrittenStory.storyBlocks_lines whole []
    rwa [List.append_nil, show storyBlocks [] = [] from rfl, List.append_nil] at found
  have keys : (stories.map fun story => String.ofList story.name).Nodup := by
    have renamed := distinct.map fun _ _ => String.ofList_injective
    rwa [List.map_map] at renamed
  rw [examplesOfSource, blocks, List.map_map, Fields.ofList_of_nodup]
  · rfl
  · rw [List.map_map]
    exact keys

/-- Stories are shown one by one with their whole code exactly where no body holds a closing brace with a
semicolon. Where one does, the first that does is cut there, and so shown with a brace open if it had none
open. -/
theorem shown_whole_iff {stories : List WrittenStory} (distinct : (stories.map WrittenStory.name).Nodup)
    (read : fs.readFile? path = .ok (some (String.ofList (stories.flatMap WrittenStory.line)))) :
    ((∃ examples, extractExamples fs path = some examples ∧
        examples.stories.entries.map (fun entry => (entry.1, entry.2.code)) =
          stories.map fun story => (String.ofList story.name, String.ofList story.code)) ↔
      ∀ story ∈ stories, ¬"\x7d;".toList <:+: story.body) ∧
    ∀ earlier story later front back, stories = earlier ++ story :: later →
      (∀ other ∈ earlier, ¬"\x7d;".toList <:+: other.body) →
      story.body = front ++ ("\x7d;".toList ++ back) → ¬"\x7d;".toList <:+: front →
      (∃ more, storyBlocks (stories.flatMap WrittenStory.line) =
        earlier.map (fun other => (other.name, other.body)) ++ (story.name, front) :: more) ∧
      (Balanced story.body → ¬Balanced front) := by
  refine ⟨?_, ?_⟩
  · have shown := extractExamples_of_read read
    rw [String.toList_ofList] at shown
    constructor
    · rintro ⟨examples, found, same⟩ story member
      obtain ⟨written, entries, -⟩ := exists_shownEntries (stories.flatMap WrittenStory.line)
      obtain rfl : _ = examples := Option.some.inj (shown.symm.trans found)
      have there : (String.ofList story.name, String.ofList story.code) ∈
          stories.map fun story => (String.ofList story.name, String.ofList story.code) :=
        List.mem_map_of_mem member
      rw [← same, entries] at there
      obtain ⟨entry, listed, pair⟩ := List.mem_map.mp there
      obtain ⟨one, -, rfl⟩ := List.mem_map.mp listed
      obtain ⟨name, code⟩ := Prod.mk.inj pair
      rw [one.code_entry] at code
      exact whole_of_shown_code (String.ofList_injective name) (String.ofList_injective code)
    · intro whole
      refine ⟨_, shown, ?_⟩
      rw [entries_of_whole distinct whole, List.map_map]
      rfl
  · rintro earlier story later front back rfl whole split first
    refine ⟨⟨storyBlocks (back ++ ("\x7d;".toList ++ ('\n' :: later.flatMap WrittenStory.line))), ?_⟩, ?_⟩
    · have cut := WrittenStory.storyBlocks_cut whole split first ('\n' :: later.flatMap WrittenStory.line)
      rw [List.flatMap_append, List.flatMap_cons, WrittenStory.line, List.append_assoc]
      exact cut
    · intro balanced
      rw [split] at balanced
      exact not_balanced_of_balanced_append balanced

/-- A story whose function holds another block. -/
def nestedStory : WrittenStory where
  name := "Nested".toList
  body := "\n  play() \x7b if (ready) \x7b run() \x7d \x7d,\n  args: \x7b size: 1 \x7d,\n".toList
  name_ne := by simp
  name_word := List.all_eq_true.mp (by decide)

/-- A story whose function holds an object with a semicolon behind it. -/
def optionsStory : WrittenStory where
  name := "Primary".toList
  body := "\n  play() \x7b const options = \x7b\x7d; return options; \x7d,\n  args: \x7b size: 2 \x7d,\n".toList
  name_ne := by simp
  name_word := List.all_eq_true.mp (by decide)

/-- What is shown of the second story, up to the end. -/
def optionsFront : List Char :=
  "\n  play() \x7b const options = \x7b".toList

def writtenFile (stories : List WrittenStory) : FileSystem :=
  (MemoryFiles.write {} "/a.stories.ts" (String.ofList (stories.flatMap WrittenStory.line))).toFileSystem

theorem nestedStory_whole : ¬"\x7d;".toList <:+: nestedStory.body := by
  rw [← cut?_eq_none_iff]
  decide +kernel

theorem optionsFront_first : ¬"\x7d;".toList <:+: optionsFront := by
  rw [← cut?_eq_none_iff]
  decide +kernel

/-- A story with nested blocks is shown whole, and one behind it is cut at the end of its inner object. -/
theorem nestedStory_shown_whole :
    (∃ examples, extractExamples (writtenFile [nestedStory]) "/a.stories.ts" = some examples ∧
      examples.stories.entries.map (fun entry => (entry.1, entry.2.code)) =
        [("Nested", String.ofList nestedStory.code)]) ∧
    (∃ more, storyBlocks ([nestedStory, optionsStory].flatMap WrittenStory.line) =
      ("Nested".toList, nestedStory.body) :: ("Primary".toList, optionsFront) :: more) ∧
    Balanced optionsStory.body ∧ ¬Balanced optionsFront := by
  have read (stories : List WrittenStory) := MemoryFiles.readFile?_write {} "/a.stories.ts"
    (String.ofList (stories.flatMap WrittenStory.line))
  have one := @shown_whole_iff _ _ [nestedStory] (List.nodup_singleton _) (read _)
  have two := @shown_whole_iff _ _ [nestedStory, optionsStory] (by decide) (read _)
  have balanced : Balanced optionsStory.body := by decide +kernel
  obtain ⟨blocks, opened⟩ := two.2 [nestedStory] optionsStory [] optionsFront
    " return options; \x7d,\n  args: \x7b size: 2 \x7d,\n".toList rfl (by simpa using nestedStory_whole)
    (by decide +kernel) optionsFront_first
  exact ⟨one.1.mpr (by simpa using nestedStory_whole), blocks, balanced, opened balanced⟩

/-- Braces balance in the story, and yet it is cut inside its function, and its args are lost. -/
theorem optionsStory_cut :
    Balanced optionsStory.body ∧ optionsStory.body.all (fun c => !"'\"\x60/".toList.contains c) = true ∧
    ∃ examples, extractExamples (writtenFile [optionsStory]) "/a.stories.ts" = some examples ∧
      examples.stories.entries =
        [("Primary", ⟨"export const Primary = \x7b\n  play() \x7b const options = \x7b\x7d;", {}⟩)] ∧
      examples.stories.entries.map (·.2.code) ≠ [String.ofList optionsStory.code] := by
  have shown := extractExamples_of_read (MemoryFiles.readFile?_write {} "/a.stories.ts"
    (String.ofList ([optionsStory].flatMap WrittenStory.line)))
  refine ⟨by decide +kernel, by decide +kernel, _, shown, by decide +kernel, by decide +kernel⟩

end Story

end StoryCatalog
