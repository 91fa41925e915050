import StoryCatalog.Proofs.Component.Properties
import StoryCatalog.Proofs.Fields
import StoryCatalog.Proofs.FileSystem.Memory
import StoryCatalog.Text.Case

/-!
# Documented members

A class whose members are documented one after the other has exactly these members as its properties. Each
comment stays with the member behind it, and its lines are the description; the token that marks a member as
required is a line of its own and is taken out. Nothing is said of members in other layouts.
-/

namespace StoryCatalog.Component

open Text Scan Source

inductive Decorator where
  | input
  | output

def Decorator.word : Decorator → List Char
  | .input => "Input".toList
  | .output => "Output".toList

def Decorator.kind : Decorator → PropertyKind
  | .input => .input
  | .output => .output

theorem Decorator.name_kind (decorator : Decorator) :
    decorator.kind.name = String.ofList (lower decorator.word) := by
  cases decorator <;> decide +kernel

theorem decorator_word (written : Decorator) (rest : List Char) :
    decorator (written.word ++ rest) = some (written.kind, rest) := by
  cases written with
  | input => rfl
  | output => rfl

/-- A member that can be written down and read back. -/
structure Member where
  name : List Char
  name_ne : name ≠ []
  name_word : ∀ c ∈ name, isWord c = true
  decorator : Decorator
  lines : List CommentLine
  unmarked : ∀ line ∈ lines, ¬requiredToken <:+: line.text
  required : Bool
  tail : List Char
  tail_slash : '/' ∉ tail
  tail_stops : Stops isWord tail

namespace Member

/-- The member with its comment, through its line feed. -/
def source (member : Member) : List Char :=
  "  /**\n".toList ++ member.lines.flatMap (fun line => "   * ".toList ++ line.text ++ "\n".toList) ++
    (if member.required then "   * @required\n".toList else []) ++ "   */\n  @".toList ++ member.decorator.word ++
    "() ".toList ++ member.name ++ member.tail ++ ";\n".toList

/-- The property that the member is read as. -/
def entry (member : Member) : String × Property :=
  (String.ofList member.name,
    { description := String.ofList (commentText member.lines)
      kind := member.decorator.kind
      required := member.required })

/-! ## The comment of a member -/

/-- The line that marks a member as required. -/
def requiredLine : CommentLine where
  text := requiredToken
  text_ne := by decide
  trimmed := by decide
  one_line := by decide
  no_star := by decide

/-- All lines of the member's comment. -/
def commentLines (member : Member) : List CommentLine :=
  member.lines ++ if member.required then [requiredLine] else []

/-- What stands behind the decorator's name in a file. -/
def afterWord (member : Member) (rest : List Char) : List Char :=
  "()".toList ++ ([' '] ++ (member.name ++ rest))

/-- What stands behind the comment in a file. -/
def afterComment (member : Member) (rest : List Char) : List Char :=
  "\n  ".toList ++ '@' :: (member.decorator.word ++ member.afterWord rest)

/-- The comment and the member, through its name. -/
def commented (member : Member) (rest : List Char) : List Char :=
  "/**".toList ++ (commentBody member.commentLines ++ ("*/".toList ++ member.afterComment rest))

theorem commentBody_commentLines (member : Member) :
    commentBody member.commentLines = '\n' :: (member.lines.flatMap (fun line =>
      "   * ".toList ++ line.text ++ "\n".toList) ++
      ((if member.required then "   * @required\n".toList else []) ++ "   ".toList)) := by
  have feeds (lines : List CommentLine) (rest : List Char) :
      lines.flatMap CommentLine.starred ++ '\n' :: rest =
        '\n' :: (lines.flatMap (fun line => "   * ".toList ++ line.text ++ "\n".toList) ++ rest) := by
    induction lines with
    | nil => rfl
    | cons line lines ih =>
      rw [List.flatMap_cons, List.flatMap_cons, List.append_assoc, ih]
      simp [CommentLine.starred_eq]
  have marked : (if member.required then [requiredLine] else []).flatMap CommentLine.starred ++ "\n   ".toList =
      '\n' :: ((if member.required then "   * @required\n".toList else []) ++ "   ".toList) := by
    cases member.required <;> rfl
  rw [commentBody, commentLines, List.flatMap_append, List.append_assoc, marked, feeds]

theorem source_append (member : Member) (rest : List Char) :
    member.source ++ rest =
      "  ".toList ++ member.commented (member.tail ++ ";\n".toList ++ rest) := by
  have opened : "  /**\n".toList = "  ".toList ++ ("/**".toList ++ ['\n']) := rfl
  have closed : "   */\n  @".toList = "   ".toList ++ ("*/".toList ++ ("\n  ".toList ++ ['@'])) := rfl
  have called : "() ".toList = "()".toList ++ [' '] := rfl
  unfold source commented afterComment afterWord
  rw [commentBody_commentLines, opened, closed, called]
  simp only [List.append_assoc, List.cons_append, List.nil_append]

theorem token_not_infix (member : Member) : ¬requiredToken <:+: commentText member.lines := by
  intro found
  have separated : ∀ c ∈ ['\n'], c ∉ requiredToken := List.forall_mem_singleton.mpr (by decide)
  obtain ⟨text, listed, held⟩ := exists_infix_of_infix_join (by decide) (by decide) separated found
  obtain ⟨line, present, rfl⟩ := List.mem_map.mp listed
  exact member.unmarked line present held

/-- The token is a line of its own behind the others. -/
theorem commentText_marked (lines : List CommentLine) :
    commentText (lines ++ [requiredLine]) =
      if lines = [] then requiredToken else commentText lines ++ '\n' :: requiredToken := by
  cases lines with
  | nil => rfl
  | cons line lines =>
    rw [if_neg (List.cons_ne_nil line lines)]
    simp [commentText, join_cons, requiredLine]

theorem decoratedProperty_commentLines (member : Member) :
    decoratedProperty (trim (commentBody member.commentLines)) member.decorator.kind = member.entry.2 := by
  unfold decoratedProperty entry
  rw [stripComment_commentBody, commentLines]
  cases flag : member.required with
  | false =>
    have absent : occurs requiredToken (commentText member.lines) = false :=
      Bool.eq_false_iff.mpr fun held => member.token_not_infix (occurs_eq_true_iff.mp held)
    simp only [Bool.false_eq_true, ↓reduceIte, List.append_nil, absent, erase_eq_self member.token_not_infix,
      trim_commentText]
  | true =>
    simp only [↓reduceIte, commentText_marked]
    split_ifs with empty
    · have erased : trim (erase requiredToken requiredToken) = [] := by decide
      have present : occurs requiredToken requiredToken = true := by decide
      rw [empty, erased, present]
      rfl
    · have present : occurs requiredToken (commentText member.lines ++ '\n' :: requiredToken) = true :=
        occurs_eq_true_iff.mpr ⟨commentText member.lines ++ ['\n'], [], by simp⟩
      have erased : erase requiredToken (commentText member.lines ++ '\n' :: requiredToken) =
          commentText member.lines ++ ['\n'] :=
        erase_append_of_nowhere (nowhere_prefix_append_cons (by decide) member.token_not_infix requiredToken)
      rw [present, erased, trim_append_gap (by simp; decide), trim_commentText]

/-! ## One member -/

theorem docComment_commented (member : Member) (rest : List Char) :
    docComment (member.commented rest) =
      some (trim (commentBody member.commentLines), member.afterComment rest) :=
  docComment_commentBody member.commentLines _

theorem decoratedMember_commented (member : Member) {rest : List Char} (stops : Stops isWord rest) :
    decoratedMember (member.commented rest) = some (member.entry, rest) := by
  have read := decoratedMember_of_docComment (member.docComment_commented rest) (by simp; decide)
    (decorator_word member.decorator _) (by simp; decide) member.name_ne member.name_word stops
  rwa [member.decoratedProperty_commentLines] at read

theorem stops_tail (member : Member) (rest : List Char) : Stops isWord (member.tail ++ ";\n".toList ++ rest) := by
  rw [List.append_assoc]
  have ended : Stops isWord (";\n".toList ++ rest) := (stops_cons ..).mpr (by decide)
  cases split : member.tail with
  | nil => exact ended
  | cons c tail =>
    have stops := member.tail_stops
    rw [split, stops_cons] at stops
    exact (stops_cons ..).mpr stops

theorem findAll_source (member : Member) (rest : List Char) :
    findAll decoratedMember (member.source ++ rest) = member.entry :: findAll decoratedMember rest := by
  have passed : '/' ∉ member.tail ++ ";\n".toList := by
    rw [List.mem_append, not_or]
    exact ⟨member.tail_slash, by decide⟩
  have split (more : List Char) : member.commented more = member.commented [] ++ more := by
    unfold commented afterComment afterWord
    simp only [List.append_assoc, List.cons_append, List.nil_append]
  have nonempty : member.commented [] ≠ [] := List.cons_ne_nil _ _
  have read := member.decoratedMember_commented (member.stops_tail rest)
  rw [split] at read
  rw [source_append, findAll_append_of_nowhere (nowhere_decoratedMember (by decide) _), split,
    findAll_append_of_some nonempty read, findAll_append_of_nowhere (nowhere_decoratedMember passed _)]

/-! ## No fields of an interface -/

theorem nowhere_opened_commentBody (lines : List CommentLine) (here : List Char) :
    Nowhere WordAfterComment (commentBody lines) here := by
  induction lines with
  | nil => exact nowhere_wordAfterComment (by decide) here
  | cons line lines ih =>
    have split : commentBody (line :: lines) = "\n   * ".toList ++ (line.text ++ commentBody lines) := by
      simp only [commentBody, CommentLine.starred_eq, List.flatMap_cons, List.append_assoc]
    have feed : ∃ rest, commentBody lines = '\n' :: rest := by
      cases lines with
      | nil => exact ⟨_, rfl⟩
      | cons => exact ⟨_, rfl⟩
    have unopened : ¬"/*".toList <:+: line.text := by
      intro held
      exact line.no_star (held.mem (by decide))
    obtain ⟨rest, feed⟩ := feed
    rw [split, nowhere_append, nowhere_append]
    refine ⟨nowhere_wordAfterComment (by decide) _, ?_, ih⟩
    -- A slash in a line opens nothing, since the line holds no star and a line feed follows it.
    rw [feed, List.cons_append]
    exact (nowhere_prefix_append_cons (by decide) unopened _).mono fun _ => WordAfterComment.opens

/-- Behind the comment of a member stands its decorator. -/
theorem not_wordAfterComment_commented (member : Member) (rest : List Char) :
    ¬WordAfterComment (member.commented rest) := by
  have indent : IsGap "\n  ".toList := by simp; decide
  exact not_wordAfterComment_of_sign (member.docComment_commented rest) indent (by decide) (by decide)

theorem nowhere_source (member : Member) (here : List Char) : Nowhere WordAfterComment member.source here := by
  let behind := member.afterComment (member.tail ++ ";\n".toList)
  have split : member.source = "  ".toList ++ ('/' :: ("**".toList ++ (commentBody member.commentLines ++
      ('*' :: '/' :: behind)))) := by
    have whole := member.source_append []
    rw [List.append_nil, List.append_nil] at whole
    exact whole
  have unslashed : '/' ∉ behind := by
    have named : '/' ∉ member.name := not_mem_of_forall member.name_word (by decide)
    have decorated : '/' ∉ member.decorator.word := by
      cases member.decorator <;> decide
    unfold behind afterComment afterWord
    simp only [List.mem_append, List.mem_cons, not_or]
    exact ⟨by decide, by decide, decorated, by decide, ⟨by decide, List.not_mem_nil⟩, named, member.tail_slash,
      by decide⟩
  have first : ¬WordAfterComment ('/' :: ("**".toList ++ (commentBody member.commentLines ++
      ('*' :: '/' :: behind))) ++ here) := by
    have whole := member.source_append here
    rw [split, List.append_assoc, List.append_cancel_left_eq] at whole
    rw [whole]
    exact member.not_wordAfterComment_commented _
  rw [split]
  simp only [nowhere_append, nowhere_cons]
  refine ⟨nowhere_wordAfterComment (by decide) _, first, nowhere_wordAfterComment (by decide) _,
    nowhere_opened_commentBody .., ?_, ?_, nowhere_wordAfterComment unslashed _⟩
  · intro worded
    exact absurd (List.cons_prefix_cons.mp worded.opens).1 (by decide)
  · intro worded
    obtain ⟨-, second⟩ := List.cons_prefix_cons.mp worded.opens
    exact absurd (List.cons_prefix_cons.mp second).1 (by decide)

end Member

/-! ## A whole file -/

/-- A decorator with its selector, and the head of a class. -/
def memberHead (selector className : List Char) : List Char :=
  "@Component(\x7b selector: '".toList ++ selector ++ "' \x7d)\nexport class ".toList ++ className ++
    " \x7b\n".toList

/-- A class with these members. -/
def memberFile (selector className : List Char) (members : List Member) : List Char :=
  memberHead selector className ++ members.flatMap Member.source ++ "\x7d\n".toList

/-- The properties of a class whose pieces are each found as one member and hold no field of an interface. -/
theorem properties_memberHead {α : Type} {source : α → List Char} {entry : α → String × Property}
    {selector className : List Char}
    (found : ∀ item rest,
      findAll decoratedMember (source item ++ rest) = entry item :: findAll decoratedMember rest)
    (fieldless : ∀ item here, Nowhere WordAfterComment (source item) here) (selector_plain : '/' ∉ selector)
    (class_word : ∀ c ∈ className, isWord c = true) {items : List α}
    (distinct : (items.map fun item => (entry item).1).Nodup) :
    properties (memberHead selector className ++ items.flatMap source ++ "\x7d\n".toList) =
      withDeclarations ⟨items.map entry⟩
        (findAll fieldDeclaration (memberHead selector className ++ items.flatMap source ++ "\x7d\n".toList)) := by
  have closed : '/' ∉ "\x7d\n".toList := by decide
  have plain : '/' ∉ memberHead selector className := by
    have named : '/' ∉ className := not_mem_of_forall class_word (by decide)
    unfold memberHead
    simp only [List.mem_append, not_or]
    exact ⟨⟨⟨⟨by decide, selector_plain⟩, by decide⟩, named⟩, by decide⟩
  have nothing : findAll decoratedMember "\x7d\n".toList = [] :=
    findAll_eq_nil_of_nowhere (nowhere_decoratedMember closed [])
  have members : decoratedMembers (memberHead selector className ++ items.flatMap source ++ "\x7d\n".toList) =
      items.map entry := by
    rw [decoratedMembers, List.append_assoc, findAll_append_of_nowhere (nowhere_decoratedMember plain _),
      findAll_flatMap found, nothing, List.append_nil]
  have fields :
      interfaceFields (memberHead selector className ++ items.flatMap source ++ "\x7d\n".toList) = [] := by
    refine interfaceFields_eq_nil ?_
    rw [nowhere_append, nowhere_append]
    exact ⟨⟨nowhere_wordAfterComment plain _, nowhere_flatMap fieldless ..⟩, nowhere_wordAfterComment closed _⟩
  rw [properties, members, fields, List.append_nil, Fields.ofList_of_nodup (by rwa [List.map_map])]

theorem nodup_ofList {names : List (List Char)} (distinct : names.Nodup) : (names.map String.ofList).Nodup :=
  distinct.map fun _ _ => String.ofList_injective

variable {selector className : List Char} {members : List Member}

theorem documented_properties (selector_plain : '/' ∉ selector) (class_word : ∀ c ∈ className, isWord c = true)
    (distinct : (members.map Member.name).Nodup) :
    documented (properties (memberFile selector className members)) = documented ⟨members.map Member.entry⟩ := by
  have names := nodup_ofList distinct
  rw [List.map_map] at names
  rw [memberFile, properties_memberHead Member.findAll_source Member.nowhere_source selector_plain class_word
    names, documented_withDeclarations]

/-- Where no reading fails, the documentation of a file has the properties of its text. -/
theorem properties_extractDocs {fs : FileSystem} {path content : String}
    (read : fs.readFile? path = .ok (some content))
    (readable : ∀ reference, ∃ found, fs.readFile? reference = .ok found) :
    ∃ docs, extractDocs fs path = some docs ∧ docs.properties = properties content.toList := by
  obtain ⟨docs, extracted⟩ := exists_extractDocs read readable
  refine ⟨docs, extracted, ?_⟩
  rw [docs_eq_of_extractDocs read extracted]
  rfl

/-- The documented members of a class are read back, in their order, with what their comments say. -/
theorem members_round_trip {fs : FileSystem} {path : String} (selector_plain : '/' ∉ selector)
    (class_word : ∀ c ∈ className, isWord c = true) (distinct : (members.map Member.name).Nodup)
    (read : fs.readFile? path = .ok (some (String.ofList (memberFile selector className members))))
    (readable : ∀ reference, ∃ found, fs.readFile? reference = .ok found) :
    ∃ docs, extractDocs fs path = some docs ∧
      documented docs.properties = members.map fun member =>
        (String.ofList member.name, String.ofList (lower member.decorator.word),
          String.ofList (join ['\n'] (member.lines.map CommentLine.text)), member.required) := by
  obtain ⟨docs, extracted, found⟩ := properties_extractDocs read readable
  refine ⟨docs, extracted, ?_⟩
  rw [found, String.toList_ofList, documented_properties selector_plain class_word distinct, documented,
    List.map_map]
  refine List.map_congr_left fun member _ => ?_
  rw [← member.decorator.name_kind]
  rfl

/-- A required input with two lines of comment. -/
def labelMember : Member where
  name := "label".toList
  name_ne := by decide
  name_word := by simp; decide
  decorator := .input
  lines := [⟨"The text.".toList, by decide, by decide, by decide, by decide⟩,
    ⟨"Markdown and/or HTML".toList, by decide, by decide, by decide, by decide⟩]
  unmarked := by decide
  required := true
  tail := ": string".toList
  tail_slash := by decide
  tail_stops := (stops_cons ..).mpr (by decide)

/-- An output without a line of comment. -/
def clickedMember : Member where
  name := "clicked".toList
  name_ne := by decide
  name_word := by simp; decide
  decorator := .output
  lines := []
  unmarked := by decide
  required := false
  tail := " = new EventEmitter<void>()".toList
  tail_slash := by decide
  tail_stops := (stops_cons ..).mpr (by decide)

theorem members_of_button :
    ∃ docs, extractDocs (MemoryFiles.write {} "/button.ts"
        (String.ofList (memberFile "my-button".toList "Button".toList [labelMember, clickedMember]))).toFileSystem
        "/button.ts" = some docs ∧
      documented docs.properties =
        [("label", "input", "The text.\nMarkdown and/or HTML", true), ("clicked", "output", "", false)] := by
  have read := MemoryFiles.readFile?_write {} "/button.ts"
    (String.ofList (memberFile "my-button".toList "Button".toList [labelMember, clickedMember]))
  have word : ∀ c ∈ "Button".toList, isWord c = true := by simp; decide
  obtain ⟨docs, extracted, found⟩ := members_round_trip (by decide) word (by decide) read
    fun reference => ⟨_, MemoryFiles.readFile? ..⟩
  refine ⟨docs, extracted, ?_⟩
  rw [found]
  rfl

end StoryCatalog.Component
