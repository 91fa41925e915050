import StoryCatalog.Proofs.Story.Args
import StoryCatalog.Proofs.Story.Declaration
import StoryCatalog.Proofs.Story.Name
import StoryCatalog.Proofs.Story.Record

/-!
# Canonical story files

A canonical file declares one story after another, each with one args block and an arg on each line. Both
readings of such a file give back what it was written from: the examples in the order of the stories, and
for every story the record with the values of its args. Nothing is said of files in other layouts.
-/

namespace StoryCatalog

open Text Scan Source Story

/-- A story that can be written down and read back. -/
structure CanonicalStory where
  slug : Slug
  slug_ne : slug.text ≠ docsSlug
  args : List CanonicalArg

namespace CanonicalStory

def name (story : CanonicalStory) : List Char :=
  pascalCase story.slug.text

def pairs (story : CanonicalStory) : List (String × String) :=
  story.args.map CanonicalArg.pair

/-- The declaration of the story, through its line feed. -/
def block (story : CanonicalStory) : List Char :=
  "export const ".toList ++ story.name ++ " = \x7b\n  args: \x7b\n".toList ++
    story.args.flatMap CanonicalArg.line ++ "  \x7d,\n\x7d;\n".toList

/-- The inside of the story's object. -/
def body (story : CanonicalStory) : List Char :=
  "\n  ".toList ++ ("args:".toList ++ (" ".toList ++ '{' :: (argsBody story.args ++ '}' :: ",\n".toList)))

/-- The declarations of the stories, one after the other. -/
def file (stories : List CanonicalStory) : List Char :=
  stories.flatMap block

theorem name_ne_nil (story : CanonicalStory) : story.name ≠ [] :=
  pascalCase_text_ne_nil story.slug

theorem isWord_of_mem_name (story : CanonicalStory) : ∀ c ∈ story.name, isWord c = true :=
  fun _ member => isWord_of_isAlphanum (isAlphanum_of_mem_pascalCase member)

/-! ## One block -/

/-- A block is the code that is shown of it and a line feed. -/
theorem block_eq_code (story : CanonicalStory) :
    story.block =
      ("export const ".toList ++ story.name ++ " = ".toList ++ '{' :: story.body ++ ['}', ';']) ++
        ['\n'] := by
  have inner : " = \x7b\n  args: \x7b\n".toList =
      " = ".toList ++ '{' :: ("\n  ".toList ++ ("args:".toList ++ (" ".toList ++ ['{', '\n']))) := rfl
  have last : "  \x7d,\n\x7d;\n".toList =
      "  ".toList ++ '}' :: (",\n".toList ++ (['}', ';'] ++ ['\n'])) := rfl
  unfold block body argsBody
  rw [inner, last]
  simp only [List.append_assoc, List.cons_append, List.nil_append]

theorem block_declaration (story : CanonicalStory) (rest : List Char) :
    PlainDeclaration story.name (story.block ++ rest) (story.body ++ "\x7d;".toList ++ '\n' :: rest) := by
  have split : story.block ++ rest = "export const ".toList ++ story.name ++ " = ".toList ++
      '{' :: (story.body ++ "\x7d;".toList ++ '\n' :: rest) := by
    have last : ['}', ';'] = "\x7d;".toList := rfl
    rw [block_eq_code, last]
    simp only [List.append_assoc, List.cons_append, List.nil_append]
  rw [split]
  exact plainDeclaration_canonical story.name_ne_nil story.isWord_of_mem_name _

/-- The object of a canonical story ends where its block does. -/
theorem nowhere_body_end (story : CanonicalStory) (rest : List Char) :
    Nowhere (literal "\x7d;").Reads story.body ("\x7d;".toList ++ rest) := by
  have opened : '}' ∉ "\n  args: \x7b".toList ++ argsBody story.args := by
    simp [(brace_not_mem_argsBody story.args).2]
  have split : story.body = ("\n  args: \x7b".toList ++ argsBody story.args) ++ '}' :: ",\n".toList := by
    simp [body]
  rw [split, nowhere_append, nowhere_cons]
  refine ⟨nowhere_literal_of_not_mem '}' (by decide) opened _, ?_,
    nowhere_literal_of_not_mem '}' (by decide) (by decide) _⟩
  rintro ⟨_, left, read⟩
  simp at read

theorem storyBlock_block (story : CanonicalStory) (rest : List Char) :
    storyBlock (story.block ++ rest) = some ((story.name, story.body), '\n' :: rest) :=
  storyBlock_eq_some_iff.mpr ⟨story.block_declaration rest, story.nowhere_body_end _⟩

theorem firstArgs_body (story : CanonicalStory) : FirstArgs story.body (argsBody story.args) :=
  .of_not_mem (by decide) (by simp; decide) (brace_not_mem_argsBody story.args).2 _

theorem lastArgs_inside (story : CanonicalStory) (rest : List Char) :
    LastArgs (story.body ++ rest) (argsBody story.args) := by
  have braces := brace_not_mem_argsBody story.args
  have opened : '}' ∉ "\n  ".toList := by decide
  have blank : IsGap " ".toList := by simp; decide
  have last := LastArgs.of_flat opened blank braces.2 braces.1 (List.cons_ne_nil _ _) (",\n".toList ++ rest)
  simpa [body] using last

/-! ## The examples of a file -/

theorem storyCode_body (story : CanonicalStory) :
    storyCode story.name story.body = String.ofList story.block.dropLast := by
  unfold storyCode
  rw [block_eq_code, List.dropLast_concat]

theorem storyExample_body (story : CanonicalStory) :
    storyExample story.name story.body = ⟨String.ofList story.block.dropLast, Fields.ofList story.pairs⟩ := by
  have found := findFirst?_argsBlock.mpr story.firstArgs_body
  rw [storyExample, storyCode_body, found]
  simp only [rawArgs, splitArgs_argsBody, pairs]

theorem storyBlocks_file (stories : List CanonicalStory) :
    storyBlocks (file stories) = stories.map fun story => (story.name, story.body) := by
  induction stories with
  | nil => rfl
  | cons story stories ih =>
    have read := story.storyBlock_block (file stories)
    rw [storyBlocks, file, List.flatMap_cons]
    change findAll storyBlock (story.block ++ file stories) = _
    rw [block_eq_code, List.append_assoc] at read ⊢
    rw [List.singleton_append] at read ⊢
    rw [findAll_append_of_some (by simp) read, findAll_cons_of_none (storyBlock_eq_none_of_ne (by decide) _),
      List.map_cons]
    exact congrArg _ ih

/-- Stories with different slugs are exported under different names. -/
theorem nodup_names {stories : List CanonicalStory} (distinct : (stories.map (·.slug.text)).Nodup) :
    (stories.map fun story => String.ofList story.name).Nodup := by
  simp only [List.Nodup, List.pairwise_map] at distinct ⊢
  refine distinct.imp fun differ same => differ ?_
  rw [pascalCase_text_injective (String.ofList_injective same)]

theorem stories_file {stories : List CanonicalStory} (distinct : (stories.map (·.slug.text)).Nodup) :
    (examplesOfSource (file stories)).stories.entries =
      stories.map fun story =>
        (String.ofList story.name, ⟨String.ofList story.block.dropLast, Fields.ofList story.pairs⟩) := by
  simp only [examplesOfSource, storyBlocks_file, List.map_map]
  rw [Fields.ofList_of_nodup]
  · exact List.map_congr_left fun story _ => congrArg _ story.storyExample_body
  · simpa [Function.comp_def] using nodup_names distinct

/-! ## The record of a story -/

/-- Where the word `export` is followed by the word `const`. -/
def AtConstant (text : List Char) : Prop :=
  ∃ gap rest, gap ≠ [] ∧ IsGap gap ∧ text = "export".toList ++ (gap ++ ("const".toList ++ rest))

theorem atConstant_of_declaration {name text inside : List Char} (declared : Declaration name text inside) :
    AtConstant text := by
  cases declared with
  | mk first_ne first_gap => exact ⟨_, _, first_ne, first_gap, rfl⟩

theorem nowhere_of_no_e {before : List Char} (absent : 'e' ∉ before) (here : List Char) :
    Nowhere AtConstant before here := by
  refine nowhere_of_not_mem ?_ absent here
  rintro c text ⟨gap, rest, -, -, split⟩
  exact (List.cons.inj split).1

/-- A name or a key does not hold the start of a declaration, whatever its letters. -/
theorem nowhere_word {word gap : List Char} {c : Char} (all : ∀ d ∈ word, isWord d = true) (blank : IsGap gap)
    (solid : isBlank c = false) (foreign : isWord c = false) (rest : List Char) :
    Nowhere AtConstant word (gap ++ c :: rest) := by
  rw [nowhere_iff]
  -- The word `export` would be the whole end of this word, and `const` would start with the foreign character.
  rintro front back rfl - ⟨otherGap, otherRest, otherGap_ne, otherGap_blank, split⟩
  have backAll : ∀ d ∈ back, isWord d = true := fun d member => all d (List.mem_append_right _ member)
  have ended : Stops isWord (gap ++ c :: rest) :=
    stops_append (gap_not_word blank) ((stops_cons ..).mpr foreign)
  obtain ⟨-, tail⟩ := append_inj_of_stops backAll ended (by simp; decide)
    (stops_append_of_ne_nil otherGap_ne (gap_not_word otherGap_blank) _) split
  obtain ⟨-, const⟩ := append_inj_of_stops blank ((stops_cons ..).mpr solid) otherGap_blank
    ((stops_cons ..).mpr (by decide)) tail
  rw [(List.cons.inj const).1] at foreign
  exact absurd foreign (by decide)

theorem nowhere_value {value : List Char} (no_export : ¬"export".toList <:+: value) (rest : List Char) :
    Nowhere AtConstant value (',' :: rest) := by
  refine (nowhere_prefix_append_cons (by decide) no_export rest).mono ?_
  rintro text ⟨gap, after, -, -, split⟩
  exact ⟨_, split.symm⟩

theorem nowhere_line (arg : CanonicalArg) (rest : List Char) : Nowhere AtConstant arg.line rest := by
  have split : arg.line = "    ".toList ++ (arg.key ++ (": ".toList ++ (arg.value ++ ",\n".toList))) := by
    unfold CanonicalArg.line
    simp only [List.append_assoc]
  rw [split]
  simp only [nowhere_append]
  refine ⟨nowhere_of_no_e (by decide) _, ?_, nowhere_of_no_e (by decide) _, ?_, nowhere_of_no_e (by decide) _⟩
  · exact nowhere_word arg.key_word isGap_nil (by decide) (by decide) _
  · exact nowhere_value arg.no_export _

theorem nowhere_lines (args : List CanonicalArg) (rest : List Char) :
    Nowhere AtConstant (args.flatMap CanonicalArg.line) rest := by
  induction args with
  | nil => exact nowhere_nil ..
  | cons arg args ih =>
    rw [List.flatMap_cons, nowhere_append]
    exact ⟨nowhere_line arg _, ih⟩

/-- After its first letter a block holds no start of a declaration. -/
theorem nowhere_block_tail (story : CanonicalStory) (rest : List Char) :
    Nowhere AtConstant story.block.tail rest := by
  have split : story.block.tail = "xport const ".toList ++ (story.name ++ (" = \x7b\n  args: \x7b\n".toList ++
      (story.args.flatMap CanonicalArg.line ++ "  \x7d,\n\x7d;\n".toList))) := by
    have head : "export const ".toList = 'e' :: "xport const ".toList := rfl
    unfold block
    rw [head]
    simp only [List.append_assoc, List.cons_append, List.tail_cons]
  have blank : IsGap " ".toList := by simp; decide
  rw [split]
  simp only [nowhere_append]
  refine ⟨nowhere_of_no_e (by decide) _, ?_, nowhere_of_no_e (by decide) _, nowhere_lines _ _,
    nowhere_of_no_e (by decide) _⟩
  exact nowhere_word story.isWord_of_mem_name blank (by decide) (by decide) _

/-- Another story's block does not declare this name, also where one name starts with the other. -/
theorem nowhere_block {story : CanonicalStory} {name : List Char} (name_ne : name ≠ [])
    (name_word : ∀ c ∈ name, isWord c = true) (differ : name ≠ story.name) (rest : List Char) :
    Nowhere (namedArgs name).Reads story.block rest := by
  have declares (text : List Char) (read : (namedArgs name).Reads text) :
      ∃ inside, Declaration name text inside := by
    obtain ⟨block, left, read⟩ := read
    obtain ⟨inside, declared, -⟩ := (namedArgs_eq_some_iff name_ne name_word).mp read
    exact ⟨inside, declared⟩
  obtain ⟨first, tail, split⟩ := List.exists_cons_of_ne_nil (show story.block ≠ [] by simp [block_eq_code])
  have later := story.nowhere_block_tail rest
  rw [split] at later ⊢
  -- A block declares something only at its first letter, and there its own name.
  refine ⟨?_, later.mono fun text read => ?_⟩
  · intro read
    obtain ⟨inside, declared⟩ := declares _ read
    rw [← split] at declared
    have own := (story.block_declaration rest).declaration
    exact differ (declared.unique own name_ne name_word story.name_ne_nil story.isWord_of_mem_name).1
  · obtain ⟨inside, declared⟩ := declares _ read
    exact atConstant_of_declaration declared

theorem nowhere_file {stories : List CanonicalStory} {name : List Char} (name_ne : name ≠ [])
    (name_word : ∀ c ∈ name, isWord c = true) (differ : ∀ story ∈ stories, name ≠ story.name)
    (rest : List Char) :
    Nowhere (namedArgs name).Reads (file stories) rest := by
  induction stories with
  | nil => exact nowhere_nil ..
  | cons story stories ih =>
    rw [file, List.flatMap_cons, nowhere_append]
    exact ⟨nowhere_block name_ne name_word (differ story (List.mem_cons_self ..)) _,
      ih fun other member => differ other (List.mem_cons_of_mem _ member)⟩

/-- The record of a story reads the story's own args block. -/
theorem findFirst?_namedArgs_file {stories : List CanonicalStory}
    (distinct : (stories.map (·.slug.text)).Nodup) {story : CanonicalStory} (member : story ∈ stories) :
    findFirst? (namedArgs story.name) (file stories) = some (argsBody story.args) := by
  obtain ⟨earlier, later, rfl⟩ := List.append_of_mem member
  have differ : ∀ other ∈ earlier, story.name ≠ other.name := by
    intro other present same
    have repeated := pascalCase_text_injective same
    simp only [List.map_append, List.map_cons, List.nodup_append, List.mem_map, List.mem_cons] at distinct
    exact distinct.2.2 _ ⟨other, present, rfl⟩ _ (.inl rfl) (by rw [repeated])
  have split : file (earlier ++ story :: later) = file earlier ++ (story.block ++ file later) := by
    simp [file]
  obtain ⟨rest, read⟩ :=
    innerArgs_reads_iff.mpr (story.lastArgs_inside ("\x7d;".toList ++ '\n' :: file later))
  have declared := (story.block_declaration (file later)).declaration
  rw [List.append_assoc] at declared
  rw [split, findFirst?_eq_some_iff]
  exact ⟨file earlier, story.block ++ file later, rest, rfl,
    (namedArgs_eq_some_iff story.name_ne_nil story.isWord_of_mem_name).mpr ⟨_, declared, read⟩,
    nowhere_file story.name_ne_nil story.isWord_of_mem_name differ _⟩

/-- The record of a story under any kind is made, with the values of the story's args. -/
theorem record_file {stories : List CanonicalStory} (distinct : (stories.map (·.slug.text)).Nodup)
    {files : MemoryFiles} {path : String} (held : files.get? path = some (String.ofList (file stories)))
    {story : CanonicalStory} (member : story ∈ stories) {kind : List Char} (single : ¬['-', '-'] <:+: kind)
    (unended : kind.getLast? ≠ some '-') :
    ∃ record, extractRecord files.toFileSystem path (String.ofList (idOf kind story.slug)) = some record ∧
      CoercedTo (Fields.ofList story.pairs) record.args := by
  obtain ⟨docs, documented⟩ : ∃ docs, storyDocs? files.toFileSystem (file stories) path = .ok docs :=
    ⟨_, storyDocs?_memory files (file stories) path⟩
  obtain ⟨values, valued, coerced⟩ := coercedArgs_argsBody story.args
  have named : exportName? (String.ofList (idOf kind story.slug)).toList = some story.name := by
    rw [String.toList_ofList]
    exact exportName?_idOf single unended story.slug_ne
  have read : argsOfId (file stories) (String.ofList (idOf kind story.slug)) = .ok values := by
    rw [argsOfId_eq_ok_iff named, argsOf_eq, findFirst?_namedArgs_file distinct member]
    exact valued
  refine ⟨recordWith files.toFileSystem path _ (String.ofList (file stories)).toList values docs,
    extractRecord_eq_some_iff.mpr ⟨_, docs, values, ?_, ?_, ?_, rfl⟩, coerced⟩
  · rw [MemoryFiles.readFile?, held]
  · rwa [String.toList_ofList]
  · rwa [String.toList_ofList]

/-- Both readings of a canonical file give back what it was written from: every story in its place with
its code and its raw args, of which a repeated key keeps its first place and its last value, and the
record of every story with the values of those args. -/
theorem round_trip {stories : List CanonicalStory} (distinct : (stories.map (·.slug.text)).Nodup)
    {files : MemoryFiles} {path : String} (held : files.get? path = some (String.ofList (file stories))) :
    (∃ examples, extractExamples files.toFileSystem path = some examples ∧
      examples.stories.entries = stories.map fun story =>
        (String.ofList story.name, ⟨String.ofList story.block.dropLast, Fields.ofList story.pairs⟩)) ∧
    ∀ story ∈ stories,
      (Fields.ofList story.pairs).keys = (story.pairs.map (·.1)).eraseDups ∧
      (∀ key, (Fields.ofList story.pairs).get? key = story.pairs.reverse.lookup key) ∧
      ∀ kind : List Char, ¬['-', '-'] <:+: kind → kind.getLast? ≠ some '-' →
        ∃ record, extractRecord files.toFileSystem path (String.ofList (idOf kind story.slug)) = some record ∧
          CoercedTo (Fields.ofList story.pairs) record.args := by
  constructor
  · refine ⟨_, extractExamples_eq_some_iff.mpr ⟨String.ofList (file stories), ?_, rfl⟩, ?_⟩
    · rw [MemoryFiles.readFile?, held]
    · rw [String.toList_ofList]
      exact stories_file distinct
  · intro story member
    refine ⟨Fields.keys_ofList _, Fields.get?_ofList _, ?_⟩
    intro kind single unended
    exact record_file distinct held member single unended

theorem label_ne_nil : "label".toList ≠ [] := by decide

theorem label_isWord : ∀ c ∈ "label".toList, isWord c = true :=
  List.all_eq_true.mp (by decide)

/-- A story with one key written twice. -/
def primary : CanonicalStory where
  slug := ⟨['p' :: "rimary".toList], by decide,
    by simpa using .mk (by decide) (List.all_eq_true.mp (by decide))⟩
  slug_ne := by decide
  args :=
    [⟨"label".toList, "'Go'".toList, label_ne_nil, label_isWord, rfl, by decide,
        by decide, by decide, by decide, by decide⟩,
      ⟨"size".toList, "2".toList, by decide, List.all_eq_true.mp (by decide), rfl, by decide,
        by decide, by decide, by decide, by decide⟩,
      ⟨"label".toList, "'On'".toList, label_ne_nil, label_isWord, rfl, by decide,
        by decide, by decide, by decide, by decide⟩]

/-- A story without args whose name starts with the name of `primary`. -/
def primaryLarge : CanonicalStory where
  slug := ⟨['p' :: "rimary".toList, 'l' :: "arge".toList], by decide, by
    simp only [List.forall_mem_cons]
    refine ⟨.mk (by decide) (List.all_eq_true.mp (by decide)), ?_, by simp⟩
    exact .mk (by decide) (List.all_eq_true.mp (by decide))⟩
  slug_ne := by decide
  args := []

theorem round_trip_two_stories :
    ∃ examples record,
      extractExamples (MemoryFiles.write {} "/Button.stories.ts"
        (String.ofList (file [primaryLarge, primary]))).toFileSystem "/Button.stories.ts" = some examples ∧
      examples.stories.keys = ["PrimaryLarge", "Primary"] ∧
      extractRecord (MemoryFiles.write {} "/Button.stories.ts"
        (String.ofList (file [primaryLarge, primary]))).toFileSystem "/Button.stories.ts" "button--primary" =
        some record ∧
      CoercedTo ⟨[("label", "'On'"), ("size", "2")]⟩ record.args := by
  have distinct : ([primaryLarge, primary].map (·.slug.text)).Nodup := by decide
  obtain ⟨⟨examples, shown, entries⟩, records⟩ :=
    round_trip distinct (MemoryFiles.get?_write {} "/Button.stories.ts"
      (String.ofList (file [primaryLarge, primary])))
  obtain ⟨-, -, made⟩ := records primary (by simp)
  obtain ⟨record, made, coerced⟩ := made "button".toList (by decide +kernel) (by decide +kernel)
  refine ⟨examples, record, shown, ?_, made, coerced⟩
  rw [Fields.keys, entries]
  rfl

end CanonicalStory

end StoryCatalog
