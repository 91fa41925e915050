import StoryCatalog.Proofs.Component.Declarations
import StoryCatalog.Proofs.Component.Members
import Mathlib.Data.Bool.AllAny

/-!
# Members with types and defaults

Members that are written with a type and a default, in one line behind their comments. The pass over declarations
gives each of them both, except that the selector above the class may have left a declaration open. That one takes
the first member with it, and the first member alone.
-/

namespace StoryCatalog.Component

open Text Scan Source

/-- A text in one line, without the signs that a member is written with. -/
structure PlainText where
  text : List Char
  text_ne : text ≠ []
  trimmed : trim text = text
  plain : ∀ c ∈ text, c ∉ "\n:=;*/'\"\x7b\x7d".toList

theorem PlainText.not_mem (written : PlainText) {c : Char} (sign : c ∈ "\n:=;*/'\"\x7b\x7d".toList) :
    c ∉ written.text :=
  fun member => written.plain c member sign

structure TypedMember where
  name : List Char
  name_ne : name ≠ []
  name_word : ∀ c ∈ name, isWord c = true
  comment : PlainText
  type : PlainText
  default : PlainText

namespace TypedMember

/-- The comment of a member and its decorator. -/
def opening (member : TypedMember) : List Char :=
  "  /** ".toList ++ member.comment.text ++ " */\n  @Input() ".toList

/-- What stands between the colon of a member and its semicolon. -/
def body (member : TypedMember) : List Char :=
  ' ' :: member.type.text ++ " = ".toList ++ member.default.text

def source (member : TypedMember) : List Char :=
  member.opening ++ member.name ++ ':' :: member.body ++ ";\n".toList

/-- The property that the comment and the decorator make. -/
def entry (member : TypedMember) : String × Property :=
  (String.ofList member.name, decoratedProperty member.comment.text .input)

def declaration (member : TypedMember) : FieldDeclaration :=
  ⟨String.ofList member.name, String.ofList member.type.text, some (String.ofList member.default.text)⟩

/-- The property of the member has its type and its default. -/
def TypedIn (member : TypedMember) (properties : Fields Property) : Prop :=
  ∃ property, properties.get? (String.ofList member.name) = some property ∧
    property.declaredType = some (String.ofList member.type.text) ∧
    property.default = some (String.ofList member.default.text)

variable (member : TypedMember)

/-! ## One member -/

theorem fieldDeclaration_body (rest : List Char) :
    fieldDeclaration (member.name ++ ':' :: (member.body ++ ';' :: rest)) = some (member.declaration, rest) := by
  have headed : DeclarationHead member.name (member.name ++ [':']) :=
    ⟨member.name_ne, member.name_word, [], .inl rfl, rfl⟩
  have declared : Declares member.name (' ' :: member.type.text ++ [' ']) (some (' ' :: member.default.text))
      (member.name ++ ':' :: (member.body ++ ';' :: rest)) rest := by
    refine ⟨⟨_, headed, by simp [body, defaultText]⟩, List.cons_ne_nil _ _, ?_, ?_⟩
    · have equals : '=' ∉ member.type.text := member.type.not_mem (by decide)
      have semicolon : ';' ∉ member.type.text := member.type.not_mem (by decide)
      rintro c within
      simp only [List.cons_append, List.mem_cons, List.mem_append, List.not_mem_nil, or_false] at within
      rcases within with rfl | within | rfl
      · decide
      · exact ⟨fun same => equals (same ▸ within), fun same => semicolon (same ▸ within)⟩
      · decide
    · have semicolon : ';' ∉ member.default.text := member.default.not_mem (by decide)
      simpa using semicolon
  refine fieldDeclaration_eq_some_iff.mpr ⟨_, _, _, declared, ?_⟩
  rw [declaration, Option.map_some, trim_spaced member.type.trimmed, trim_indented member.default.trimmed]

theorem findAll_fieldDeclaration_source (rest : List Char) :
    findAll fieldDeclaration (member.source ++ rest) = member.declaration :: findAll fieldDeclaration rest := by
  have spaced : member.opening =
      ("  /** ".toList ++ member.comment.text ++ " */\n  @Input()".toList) ++ [' '] := by
    unfold opening
    simp
  have absent : ':' ∉ ("  /** ".toList ++ member.comment.text ++ " */\n  @Input()".toList) ++ [' '] := by
    have comment : ':' ∉ member.comment.text := member.comment.not_mem (by decide)
    rw [List.mem_append, List.mem_append, List.mem_append, not_or, not_or, not_or]
    exact ⟨⟨⟨by decide, comment⟩, by decide⟩, by decide⟩
  have passed := nowhere_fieldDeclaration absent (by decide) (by decide)
    (member.name ++ ':' :: (member.body ++ ';' :: ('\n' :: rest)))
  have ended : fieldDeclaration ('\n' :: rest) = none := by
    have alone : ':' ∉ [] ++ ['\n'] := by decide
    exact not_reads_iff.mp (nowhere_fieldDeclaration alone (by decide) (by decide) rest).1
  have whole : member.name ++ ':' :: (member.body ++ ';' :: ('\n' :: rest)) =
      (member.name ++ ':' :: (member.body ++ [';'])) ++ '\n' :: rest := by
    simp
  have read := member.fieldDeclaration_body ('\n' :: rest)
  have split : member.source ++ rest =
      member.opening ++ (member.name ++ ':' :: (member.body ++ ';' :: ('\n' :: rest))) := by
    unfold source
    simp
  rw [split, spaced, findAll_append_of_nowhere passed]
  rw [whole] at read ⊢
  rw [findAll_append_of_some (by simp) read, findAll_cons_of_none ended]

/-- The member from its comment to its name. -/
def commented (member : TypedMember) : List Char :=
  "/**".toList ++ ((' ' :: member.comment.text ++ [' ']) ++ ("*/".toList ++ ("\n  ".toList ++
    '@' :: ("Input".toList ++ ("()".toList ++ (" ".toList ++ member.name))))))

theorem source_append (rest : List Char) :
    member.source ++ rest = "  ".toList ++ (member.commented ++ (':' :: member.body ++ ";\n".toList) ++ rest) := by
  unfold source opening commented
  simp

theorem docComment_commented (rest : List Char) :
    docComment (member.commented ++ rest) = some (member.comment.text, "\n  ".toList ++ '@' :: ("Input".toList ++
      ("()".toList ++ (" ".toList ++ (member.name ++ rest))))) := by
  have starless : '*' ∉ member.comment.text := member.comment.not_mem (by decide)
  have split : member.commented ++ rest = "/**".toList ++ ((' ' :: member.comment.text ++ [' ']) ++ ("*/".toList ++
      ("\n  ".toList ++ '@' :: ("Input".toList ++ ("()".toList ++ (" ".toList ++ (member.name ++ rest))))))) := by
    unfold commented
    simp only [List.append_assoc, List.cons_append]
  rw [split]
  exact docComment_spaced starless member.comment.trimmed _

theorem decoratedMember_commented {rest : List Char} (stops : Stops isWord rest) :
    decoratedMember (member.commented ++ rest) = some (member.entry, rest) :=
  decoratedMember_of_docComment (member.docComment_commented rest) (by simp; decide) (decorator_word .input _)
    (by simp; decide) member.name_ne member.name_word stops

/-- Behind the name of a member no comment starts. -/
theorem slash_not_mem_tail : '/' ∉ ':' :: member.body ++ ";\n".toList := by
  have type : '/' ∉ member.type.text := member.type.not_mem (by decide)
  have default : '/' ∉ member.default.text := member.default.not_mem (by decide)
  unfold body
  rw [List.mem_append, List.mem_cons, List.mem_append, List.mem_append, List.mem_cons, not_or, not_or, not_or,
    not_or, not_or]
  exact ⟨⟨by decide, ⟨⟨by decide, type⟩, by decide⟩, default⟩, by decide⟩

theorem findAll_decoratedMember_source (rest : List Char) :
    findAll decoratedMember (member.source ++ rest) = member.entry :: findAll decoratedMember rest := by
  have nonempty : member.commented ≠ [] := List.cons_ne_nil _ _
  have stops : Stops isWord (':' :: member.body ++ ";\n".toList ++ rest) := (stops_cons ..).mpr (by decide)
  have read := member.decoratedMember_commented stops
  rw [source_append, findAll_append_of_nowhere (nowhere_decoratedMember (by decide) _), List.append_assoc,
    findAll_append_of_some nonempty read,
    findAll_append_of_nowhere (nowhere_decoratedMember member.slash_not_mem_tail _)]

/-- Behind the comment of a member stands its decorator. -/
theorem not_wordAfterComment_commented (rest : List Char) : ¬WordAfterComment (member.commented ++ rest) := by
  have indent : IsGap "\n  ".toList := by simp; decide
  exact not_wordAfterComment_of_sign (member.docComment_commented rest) indent (by decide) (by decide)

theorem nowhere_wordAfterComment_source (here : List Char) : Nowhere WordAfterComment member.source here := by
  let inside := "**".toList ++ ((' ' :: member.comment.text ++ [' ']) ++ ['*'])
  let decorated := "\n  ".toList ++ '@' :: ("Input".toList ++ ("()".toList ++ (" ".toList ++ member.name)))
  let behind := decorated ++ (':' :: member.body ++ ";\n".toList)
  have spelled : member.commented ++ (':' :: member.body ++ ";\n".toList) = '/' :: (inside ++ '/' :: behind) := by
    simp [inside, behind, decorated, commented]
  have unslashed : '/' ∉ inside := by
    have comment : '/' ∉ member.comment.text := member.comment.not_mem (by decide)
    simp only [inside, List.mem_append, List.mem_cons, not_or]
    exact ⟨by decide, ⟨⟨by decide, comment⟩, by decide, List.not_mem_nil⟩, by decide, List.not_mem_nil⟩
  have unslashedToo : '/' ∉ behind := by
    have named : '/' ∉ member.name := not_mem_of_forall member.name_word (by decide)
    have before : '/' ∉ decorated := by
      simp only [decorated, List.mem_append, List.mem_cons, not_or]
      exact ⟨by decide, by decide, by decide, by decide, by decide, named⟩
    rw [List.mem_append, not_or]
    exact ⟨before, member.slash_not_mem_tail⟩
  have split : member.source = "  ".toList ++ ('/' :: (inside ++ '/' :: behind)) := by
    have whole := member.source_append []
    rwa [List.append_nil, List.append_nil, spelled] at whole
  rw [split]
  simp only [nowhere_append, nowhere_cons]
  refine ⟨nowhere_wordAfterComment (by decide) _, ?_, nowhere_wordAfterComment unslashed _, ?_,
    nowhere_wordAfterComment unslashedToo _⟩
  · rw [← spelled, List.append_assoc]
    exact member.not_wordAfterComment_commented _
  · intro worded
    exact absurd (List.cons_prefix_cons.mp (List.cons_prefix_cons.mp worded.opens).2).1 (by decide)

end TypedMember

/-! ## A whole file -/

/-- The text up to the end of the selector. -/
def selectorText (selector : List Char) : List Char :=
  "@Component(\x7b selector: '".toList ++ selector

/-- What stands between the selector and the first member. -/
def classOpening (className : List Char) : List Char :=
  "' \x7d)\nexport class ".toList ++ className ++ " \x7b\n".toList

/-- A class with these members. -/
def typedFile (selector className : List Char) (members : List TypedMember) : List Char :=
  memberHead selector className ++ members.flatMap TypedMember.source ++ "\x7d\n".toList

variable {selector className : List Char} {members : List TypedMember}

theorem properties_typedFile (selector_plain : '/' ∉ selector) (class_word : ∀ c ∈ className, isWord c = true)
    (distinct : (members.map TypedMember.name).Nodup) :
    properties (typedFile selector className members) =
      withDeclarations ⟨members.map TypedMember.entry⟩
        (findAll fieldDeclaration (typedFile selector className members)) := by
  have names := nodup_ofList distinct
  rw [List.map_map] at names
  exact properties_memberHead TypedMember.findAll_decoratedMember_source
    TypedMember.nowhere_wordAfterComment_source selector_plain class_word names

theorem findAll_fieldDeclaration_members (members : List TypedMember) :
    findAll fieldDeclaration (members.flatMap TypedMember.source ++ "\x7d\n".toList) =
      members.map TypedMember.declaration := by
  have absent : ':' ∉ ['\x7d'] ++ ['\n'] := by decide
  have nothing : findAll fieldDeclaration "\x7d\n".toList = [] :=
    findAll_eq_nil_of_nowhere (nowhere_fieldDeclaration absent (by decide) (by decide) [])
  rw [findAll_flatMap TypedMember.findAll_fieldDeclaration_source, nothing, List.append_nil]

theorem not_mem_classOpening (class_word : ∀ c ∈ className, isWord c = true) {c : Char}
    (foreign : isWord c = false)
    (other : c ∉ "' \x7d)\nexport class ".toList ∧ c ∉ " \x7b\n".toList) : c ∉ classOpening className := by
  have named : c ∉ className := not_mem_of_forall class_word foreign
  unfold classOpening
  rw [List.mem_append, List.mem_append, not_or, not_or]
  exact ⟨⟨other.1, named⟩, other.2⟩

theorem findAll_fieldDeclaration_classOpening (class_word : ∀ c ∈ className, isWord c = true) (rest : List Char) :
    findAll fieldDeclaration (classOpening className ++ rest) = findAll fieldDeclaration rest := by
  have split : classOpening className =
      ("' \x7d)\nexport class ".toList ++ className ++ " \x7b".toList) ++ ['\n'] := by
    unfold classOpening
    simp
  have absent := not_mem_classOpening class_word (show isWord ':' = false by decide) (by decide)
  rw [split] at absent ⊢
  exact findAll_append_of_nowhere (nowhere_fieldDeclaration absent (by decide) (by decide) _)

namespace TypedMember

variable (member : TypedMember)

theorem semicolon_not_mem : ';' ∉ member.opening ++ member.name ++ ':' :: member.body := by
  have comment : ';' ∉ member.comment.text := member.comment.not_mem (by decide)
  have named : ';' ∉ member.name := not_mem_of_forall member.name_word (by decide)
  have type : ';' ∉ member.type.text := member.type.not_mem (by decide)
  have default : ';' ∉ member.default.text := member.default.not_mem (by decide)
  unfold opening body
  simp only [List.mem_append, List.mem_cons, not_or]
  exact ⟨⟨⟨⟨by decide, comment⟩, by decide⟩, named⟩, by decide, ⟨⟨by decide, type⟩, by decide⟩, default⟩

theorem body_ne : member.body ≠ [] := List.cons_ne_nil _ _

theorem getLast?_body : member.body.getLast? ≠ some '=' := by
  intro last
  rw [body, List.getLast?_append_of_ne_nil _ member.default.text_ne] at last
  exact member.default.plain '=' (List.mem_of_getLast? last) (by decide)

end TypedMember

/-- The declarations of a file: some that start in front of the selector's end, and those of the members, of which
the first one is missing where the selector leaves a declaration open. -/
theorem declarations_typedFile (selector : List Char) (class_word : ∀ c ∈ className, isWord c = true)
    (first : TypedMember) (later : List TypedMember) :
    ∃ found, (∀ declaration ∈ found, declaration.name.toList <:+: selectorText selector) ∧
      (LeavesOpen (selectorText selector) →
        findAll fieldDeclaration (typedFile selector className (first :: later)) =
          found ++ later.map TypedMember.declaration) ∧
      (¬LeavesOpen (selectorText selector) →
        findAll fieldDeclaration (typedFile selector className (first :: later)) =
          found ++ (first :: later).map TypedMember.declaration) := by
  let more := (classOpening className).tail ++ (first.opening ++ first.name ++ ':' :: first.body)
  let rest := '\n' :: (later.flatMap TypedMember.source ++ "\x7d\n".toList)
  have opened : classOpening className ++ ((first :: later).flatMap TypedMember.source ++ "\x7d\n".toList) =
      '\x27' :: (more ++ ';' :: rest) := by
    have quoted : classOpening className = '\x27' :: (classOpening className).tail := rfl
    rw [quoted]
    simp [more, rest, TypedMember.source]
  have split : typedFile selector className (first :: later) =
      selectorText selector ++ '\x27' :: (more ++ ';' :: rest) := by
    refine Eq.trans ?_ (congrArg (selectorText selector ++ ·) opened)
    unfold typedFile memberHead selectorText classOpening
    simp only [List.append_assoc]
  have one : ';' ∉ more := by
    have opening := not_mem_classOpening class_word (show isWord ';' = false by decide) (by decide)
    rw [List.mem_append, not_or]
    exact ⟨fun member => opening (List.mem_of_mem_tail member), first.semicolon_not_mem⟩
  have valued : more.getLast? ≠ some '=' := by
    have spelled :
        more = (classOpening className).tail ++ (first.opening ++ first.name ++ [':']) ++ first.body := by
      simp [more]
    rw [spelled, List.getLast?_append_of_ne_nil _ first.body_ne]
    exact first.getLast?_body
  have behind : findAll fieldDeclaration rest = later.map TypedMember.declaration := by
    have alone : ':' ∉ [] ++ ['\n'] := by decide
    have unread := not_reads_iff.mp (nowhere_fieldDeclaration alone (by decide) (by decide)
      (later.flatMap TypedMember.source ++ "\x7d\n".toList)).1
    rw [← findAll_fieldDeclaration_members]
    exact findAll_cons_of_none unread
  have whole : findAll fieldDeclaration ('\x27' :: (more ++ ';' :: rest)) =
      (first :: later).map TypedMember.declaration := by
    rw [← opened, findAll_fieldDeclaration_classOpening class_word, findAll_fieldDeclaration_members]
  obtain ⟨found, named, opens, closes⟩ := findAll_append_quote (selectorText selector) one valued rest
  rw [behind] at opens
  rw [whole] at closes
  rw [split]
  exact ⟨found, named, opens, closes⟩

/-! ## Types and defaults -/

/-- Wherever the text is the file of a component and no reading fails, its documentation has such properties. -/
def Documents (content : List Char) (shown : Fields Property → Prop) : Prop :=
  ∀ fs path, fs.readFile? path = .ok (some (String.ofList content)) →
    (∀ reference, ∃ found, fs.readFile? reference = .ok found) →
      ∃ docs, extractDocs fs path = some docs ∧ shown docs.properties

theorem documents_iff {content : List Char} {shown : Fields Property → Prop} :
    Documents content shown ↔ shown (properties content) := by
  constructor
  · intro every
    have read := MemoryFiles.readFile?_write {} "/component.ts" (String.ofList content)
    have readable (reference : String) :
        ∃ found, (MemoryFiles.write {} "/component.ts" (String.ofList content)).toFileSystem.readFile? reference =
          .ok found := ⟨_, MemoryFiles.readFile? ..⟩
    obtain ⟨docs, extracted, held⟩ := every _ _ read readable
    obtain ⟨same, extractedToo, found⟩ := properties_extractDocs read readable
    rw [extracted, Option.some.injEq] at extractedToo
    subst extractedToo
    rwa [found, String.toList_ofList] at held
  · intro held fs path read readable
    obtain ⟨docs, extracted, found⟩ := properties_extractDocs read readable
    refine ⟨docs, extracted, ?_⟩
    rwa [found, String.toList_ofList]

/-- Members whose declarations come last have their types and defaults. -/
theorem typedIn_withDeclarations (found : List FieldDeclaration) {shown : List TypedMember}
    (distinct : (shown.map TypedMember.name).Nodup) {properties : Fields Property}
    (there : ∀ member ∈ shown, (properties.get? (String.ofList member.name)).isSome = true) :
    ∀ member ∈ shown,
      member.TypedIn (withDeclarations properties (found ++ shown.map TypedMember.declaration)) := by
  intro member listed
  have held := there member listed
  obtain ⟨earlier, later, rfl⟩ := List.append_of_mem listed
  have last : ∀ other ∈ later.map TypedMember.declaration, other.name ≠ member.declaration.name := by
    intro other among same
    obtain ⟨another, present, rfl⟩ := List.mem_map.mp among
    rw [List.map_append, List.map_cons, List.nodup_append, List.nodup_cons] at distinct
    exact distinct.2.1.1 (List.mem_map.mpr ⟨another, present, String.ofList_injective same⟩)
  have settled := @get?_withDeclarations_of_last properties (found ++ earlier.map TypedMember.declaration) _ _ last
  rw [← isSome_get?_withDeclarations properties (found ++ earlier.map TypedMember.declaration)] at held
  obtain ⟨property, before⟩ := Option.isSome_iff_exists.mp held
  have named : member.declaration.name = String.ofList member.name := rfl
  rw [named, before, Option.map_some] at settled
  refine ⟨member.declaration.applyTo property, ?_, rfl, rfl⟩
  rw [List.map_append, List.map_cons, ← List.append_assoc, settled]

theorem isSome_get?_entry {member : TypedMember} (listed : member ∈ members) :
    ((⟨members.map TypedMember.entry⟩ : Fields Property).get? (String.ofList member.name)).isSome = true := by
  rw [Option.isSome_iff_ne_none, Fields.get?, Ne, List.lookup_eq_none_iff]
  intro missing
  have other := missing member.entry (List.mem_map_of_mem listed)
  exact bne_iff_ne.mp other rfl

def shortText : PlainText where
  text := ['x']
  text_ne := by decide
  trimmed := by decide
  plain := List.all_iff_forall_prop.mp (by decide)

/-- A member with a name that is longer than a text of the given length. -/
def longMember (length : ℕ) : TypedMember where
  name := List.replicate (length + 1) 'a'
  name_ne := by simp
  name_word := by
    intro c member
    rw [List.eq_of_mem_replicate member]
    decide
  comment := shortText
  type := shortText
  default := shortText

/-- A first member whose name is nowhere in the selector is left without a type where a declaration is open. -/
theorem not_typedIn_of_leavesOpen (selector_plain : '/' ∉ selector) (class_word : ∀ c ∈ className, isWord c = true)
    (opened : LeavesOpen (selectorText selector)) {first : TypedMember} {later : List TypedMember}
    (distinct : ((first :: later).map TypedMember.name).Nodup)
    (fresh : ¬first.name <:+: selectorText selector) :
    ¬first.TypedIn (properties (typedFile selector className (first :: later))) := by
  rintro ⟨property, found, typed, -⟩
  obtain ⟨declarations, named, opens, -⟩ := declarations_typedFile selector class_word first later
  have others : ∀ declaration ∈ declarations ++ later.map TypedMember.declaration,
      declaration.name ≠ String.ofList first.name := by
    rw [List.forall_mem_append]
    constructor
    · intro declaration listed same
      have within := named declaration listed
      rw [same, String.toList_ofList] at within
      exact fresh within
    · intro declaration listed same
      obtain ⟨member, present, rfl⟩ := List.mem_map.mp listed
      exact (List.nodup_cons.mp distinct).1
        (List.mem_map.mpr ⟨member, present, String.ofList_injective same⟩)
  rw [properties_typedFile selector_plain class_word distinct, opens opened,
    get?_withDeclarations_of_ne others] at found
  have untyped : property = first.entry.2 := by
    rw [Fields.get?, List.map_cons, TypedMember.entry, List.lookup_cons_self, Option.some.injEq] at found
    exact found.symm
  rw [untyped] at typed
  exact Option.some_ne_none _ typed.symm

/-- A selector without a semicolon leaves open the declaration that its own key starts. -/
theorem leavesOpen_selectorText (unended : ';' ∉ selector) : LeavesOpen (selectorText selector) := by
  have word : ∀ c ∈ "selector".toList, isWord c = true := List.all_eq_true.mp (by decide)
  have headed : DeclarationHead "selector".toList ("selector".toList ++ ([] ++ [':'])) :=
    ⟨by decide, word, [], .inl rfl, rfl⟩
  refine ⟨"@Component(\x7b ".toList, _, _, " '".toList ++ selector, ?_, headed,
    (stops_cons ..).mpr (by decide), ?_⟩
  · have key : "@Component(\x7b selector: '".toList =
        "@Component(\x7b ".toList ++ (("selector".toList ++ ([] ++ [':'])) ++ " '".toList) := by decide
    unfold selectorText
    rw [key, List.append_assoc, List.append_assoc]
  · rw [List.mem_append, not_or]
    exact ⟨by decide, unended⟩

/-- All members of a class have their types and defaults, whatever the members are, exactly where the selector
leaves no declaration open, which takes a semicolon in it. All but the first have them in any case; and the first
has not where a declaration is open, unless its name stands in front of the selector's end too. -/
theorem members_typed_iff (selector_plain : '/' ∉ selector) (class_word : ∀ c ∈ className, isWord c = true) :
    ((∀ members : List TypedMember, (members.map TypedMember.name).Nodup →
        Documents (typedFile selector className members) fun properties =>
          ∀ member ∈ members, member.TypedIn properties) ↔ ¬LeavesOpen (selectorText selector)) ∧
    (';' ∉ selector → LeavesOpen (selectorText selector)) ∧
    ∀ first later, ((first :: later).map TypedMember.name).Nodup →
      Documents (typedFile selector className (first :: later)) fun properties =>
        (∀ member ∈ later, member.TypedIn properties) ∧
          (LeavesOpen (selectorText selector) → ¬first.name <:+: selectorText selector →
            ¬first.TypedIn properties) := by
  have closed (members : List TypedMember) (distinct : (members.map TypedMember.name).Nodup)
      (ends : ¬LeavesOpen (selectorText selector)) :
      ∀ member ∈ members, member.TypedIn (properties (typedFile selector className members)) := by
    cases members with
    | nil => simp
    | cons first later =>
      obtain ⟨found, -, -, closes⟩ := declarations_typedFile selector class_word first later
      rw [properties_typedFile selector_plain class_word distinct, closes ends]
      exact typedIn_withDeclarations found distinct fun member listed => isSome_get?_entry listed
  refine ⟨⟨fun every opened => ?_, fun ends members distinct => ?_⟩, leavesOpen_selectorText,
    fun first later distinct => ?_⟩
  · have distinct : ([longMember (selectorText selector).length].map TypedMember.name).Nodup :=
      List.nodup_singleton _
    have typed := documents_iff.mp (every _ distinct) _ (List.mem_singleton.mpr rfl)
    -- Its name is too long to stand in the text before, so nothing there can have given it a type by chance.
    refine not_typedIn_of_leavesOpen selector_plain class_word opened distinct (fun within => ?_) typed
    have long := within.length_le
    rw [longMember, List.length_replicate] at long
    omega
  · exact documents_iff.mpr (closed members distinct ends)
  · rw [documents_iff]
    refine ⟨?_, fun opened fresh => not_typedIn_of_leavesOpen selector_plain class_word opened distinct fresh⟩
    by_cases opened : LeavesOpen (selectorText selector)
    · obtain ⟨found, -, opens, -⟩ := declarations_typedFile selector class_word first later
      rw [properties_typedFile selector_plain class_word distinct, opens opened]
      exact typedIn_withDeclarations found (List.nodup_cons.mp distinct).2 fun member listed =>
        isSome_get?_entry (List.mem_cons_of_mem _ listed)
    · exact fun member listed => closed _ distinct opened member (List.mem_cons_of_mem _ listed)

def captionText : TypedMember where
  name := "caption".toList
  name_ne := by decide
  name_word := List.all_eq_true.mp (by decide)
  comment := ⟨"The caption.".toList, by decide, by decide, List.all_iff_forall_prop.mp (by decide)⟩
  type := ⟨"string".toList, by decide, by decide, List.all_iff_forall_prop.mp (by decide)⟩
  default := ⟨"Go".toList, by decide, by decide, List.all_iff_forall_prop.mp (by decide)⟩

def widthNumber : TypedMember where
  name := "width".toList
  name_ne := by decide
  name_word := List.all_eq_true.mp (by decide)
  comment := ⟨"The width.".toList, by decide, by decide, List.all_iff_forall_prop.mp (by decide)⟩
  type := ⟨"number".toList, by decide, by decide, List.all_iff_forall_prop.mp (by decide)⟩
  default := ⟨"2".toList, by decide, by decide, List.all_iff_forall_prop.mp (by decide)⟩

/-- A class with some members under a selector, in memory. -/
def typedButton (selector : String) (members : List TypedMember) : MemoryFiles :=
  .write {} "/button.ts" (String.ofList (typedFile selector.toList "Button".toList members))

/-- A semicolon in the selector ends the declaration that the selector starts. -/
theorem typed_behind_semicolon :
    ∃ docs,
      extractDocs (typedButton "my;button" [captionText, widthNumber]).toFileSystem "/button.ts" = some docs ∧
        ∀ member ∈ [captionText, widthNumber], member.TypedIn docs.properties := by
  have closed : ¬LeavesOpen (selectorText "my;button".toList) := by
    have ended : selectorText "my;button".toList = selectorText "my".toList ++ ';' :: "button".toList := by decide
    rw [ended, leavesOpen_append_semicolon]
    exact not_leavesOpen_of_no_colon (by decide)
  have word : ∀ c ∈ "Button".toList, isWord c = true := List.all_eq_true.mp (by decide)
  have typed := (members_typed_iff (by decide) word).1.mpr closed [captionText, widthNumber] (by decide)
  exact typed (typedButton "my;button" _).toFileSystem "/button.ts" (MemoryFiles.readFile?_write ..)
    fun reference => ⟨_, MemoryFiles.readFile? ..⟩

/-- Without one the first member has neither its type nor its default. -/
theorem untyped_behind_selector :
    (extractDocs (typedButton "my-button" [captionText]).toFileSystem "/button.ts").map (fun docs =>
      docs.properties.entries.map fun entry => (entry.1, entry.2.declaredType, entry.2.default)) =
      some [("caption", none, none)] := by
  decide +kernel

end StoryCatalog.Component
