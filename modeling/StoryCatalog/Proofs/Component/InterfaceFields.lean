import StoryCatalog.Proofs.Component.TypedMembers

/-!
# Documented fields of a props interface

Fields that are written one behind the other, each in a line below its comment. The pass over the interface reads
them all if no comment closes the interface before its end. The pass over declarations then goes over the same
lines, where it takes an equals sign in a type for the start of a default, and a word with a colon in a comment for
a field. What it gives to a field replaces what the field has.
-/

namespace StoryCatalog.Component

open Text Scan Source

/-! ## One field -/

/-- A field in a line below its comment. -/
structure WrittenField where
  name : List Char
  name_ne : name ≠ []
  name_word : ∀ c ∈ name, isWord c = true
  optional : Bool
  comment : List Char
  comment_trimmed : trim comment = comment
  comment_plain : ∀ c ∈ comment, c ∉ "\n*".toList
  type : List Char
  type_trimmed : trim type = type
  type_plain : ∀ c ∈ type, c ∉ "\n;\x7b\x7d*:".toList

namespace WrittenField

def mark (field : WrittenField) : List Char :=
  if field.optional then ['?'] else []

/-- What stands before the name of a field. -/
def opening (field : WrittenField) : List Char :=
  "  /** ".toList ++ field.comment ++ " */\n  ".toList

def source (field : WrittenField) : List Char :=
  field.opening ++ field.name ++ field.mark ++ ": ".toList ++ field.type ++ ";\n".toList

/-- The property that the field is written as. -/
def entry (field : WrittenField) : String × Property :=
  (String.ofList field.name,
    { description := String.ofList field.comment
      kind := .prop
      required := !field.optional
      declaredType := some (String.ofList field.type) })

variable (field : WrittenField)

theorem comment_not_mem {c : Char} (sign : c ∈ "\n*".toList) : c ∉ field.comment :=
  fun member => field.comment_plain c member sign

theorem type_not_mem {c : Char} (sign : c ∈ "\n;\x7b\x7d*:".toList) : c ∉ field.type :=
  fun member => field.type_plain c member sign

theorem mark_not_mem {c : Char} (other : c ≠ '?') : c ∉ field.mark := by
  unfold mark
  split
  · exact List.mem_singleton.not.mpr other
  · exact List.not_mem_nil

/-! ### In the pass over the interface -/

/-- The field from its comment to its type. -/
def commented (field : WrittenField) : List Char :=
  "/**".toList ++ ((' ' :: field.comment ++ [' ']) ++ ("*/".toList ++ ("\n  ".toList ++ (field.name ++
    (field.mark ++ ':' :: (' ' :: field.type))))))

theorem source_append (rest : List Char) :
    field.source ++ rest = "  ".toList ++ (field.commented ++ (";\n".toList ++ rest)) := by
  unfold source opening commented
  simp

theorem docComment_commented (rest : List Char) :
    docComment (field.commented ++ rest) =
      some (field.comment, "\n  ".toList ++ (field.name ++ (field.mark ++ ':' :: (' ' :: (field.type ++ rest))))) := by
  have starless : '*' ∉ field.comment := field.comment_not_mem (by decide)
  have split : field.commented ++ rest = "/**".toList ++ ((' ' :: field.comment ++ [' ']) ++ ("*/".toList ++
      ("\n  ".toList ++ (field.name ++ (field.mark ++ ':' :: (' ' :: (field.type ++ rest))))))) := by
    unfold commented
    simp only [List.append_assoc, List.cons_append]
  rw [split]
  exact docComment_spaced starless field.comment_trimmed _

theorem stops_mark (rest : List Char) : Stops isWord (field.mark ++ ':' :: rest) := by
  unfold mark
  split <;> exact (stops_cons ..).mpr (by decide)

theorem maybe_mark (rest : List Char) :
    ∃ out, maybe (char '?') (field.mark ++ ':' :: rest) = some (out, ':' :: rest) ∧
      Option.isNone out = !field.optional := by
  cases flag : field.optional with
  | false =>
    have unmarked : char '?' (':' :: rest) = none := rfl
    have spelled : field.mark = [] := by simp [mark, flag]
    rw [spelled]
    exact ⟨none, maybe_eq_some_iff.mpr (.inr ⟨rfl, rfl, unmarked⟩), rfl⟩
  | true =>
    have spelled : field.mark = ['?'] := by simp [mark, flag]
    rw [spelled]
    exact ⟨some (), maybe_eq_some_iff.mpr (.inl ⟨(), rfl, rfl⟩), rfl⟩

theorem interfaceField_commented (rest : List Char) :
    interfaceField (field.commented ++ (";\n".toList ++ rest)) = some (field.entry, ";\n".toList ++ rest) := by
  have letter := stops_append_of_ne_nil field.name_ne
    (fun c member => isBlank_eq_false_of_isWord (field.name_word c member))
    (field.mark ++ ':' :: (' ' :: (field.type ++ (";\n".toList ++ rest))))
  have indent : IsGap "\n  ".toList := by simp; decide
  have unended : ∀ c ∈ ' ' :: field.type, decide (c ≠ ';') = true := by
    have absent : ';' ∉ ' ' :: field.type := by
      simpa using field.type_not_mem (c := ';') (by decide)
    rintro c member
    exact decide_eq_true fun same => absent (same ▸ member)
  obtain ⟨out, marked, flag⟩ := field.maybe_mark (' ' :: (field.type ++ (";\n".toList ++ rest)))
  simp only [interfaceField, bind_eq_some_iff, blanks_eq_some_iff, identifier_eq_some_iff, char_eq_some_iff,
    run1_eq_some_iff, pure_eq_some_iff]
  refine ⟨_, _, field.docComment_commented _, (), _, ⟨"\n  ".toList, rfl, indent, letter⟩, field.name, _,
    ⟨field.name_ne, rfl, field.name_word, field.stops_mark _⟩, out, _, marked, (), _, rfl, ' ' :: field.type, _,
    ⟨List.cons_ne_nil _ _, rfl, unended, (stops_cons ..).mpr (by decide)⟩, ?_, rfl⟩
  have starless := field.comment_not_mem (c := '*') (by decide)
  rw [stripComment_of_no_star starless, field.comment_trimmed, trim_indented field.type_trimmed, flag]
  rfl

/-- What stands between the comment of a field and its type. -/
def naming (field : WrittenField) : List Char :=
  "\n  ".toList ++ (field.name ++ (field.mark ++ ": ".toList))

theorem slash_not_mem_naming : '/' ∉ field.naming := by
  have word : '/' ∉ field.name := not_mem_of_forall field.name_word (by decide)
  have marked : '/' ∉ field.mark := field.mark_not_mem (by decide)
  rw [naming, List.mem_append, List.mem_append, List.mem_append, not_or, not_or, not_or]
  exact ⟨by decide, word, marked, by decide⟩

/-- Behind the start of its comment no comment starts in a field. -/
theorem nowhere_docComment_tail (here : List Char) :
    Nowhere docComment.Reads (field.commented.tail ++ ";\n".toList) here := by
  have spelled : field.commented.tail ++ ";\n".toList =
      "** ".toList ++ (field.comment ++ (" *".toList ++ (['/'] ++ (field.naming ++ (field.type ++
        ";\n".toList))))) := by
    unfold commented naming
    simp
  have unopened (rest : List Char) : ¬docComment.Reads ('/' :: '\n' :: rest) := by
    intro read
    have second := (List.cons_prefix_cons.mp (starred_of_docComment read)).2
    exact absurd (List.cons_prefix_cons.mp second).1 (by decide)
  rw [spelled, nowhere_append, nowhere_append, nowhere_append, nowhere_append, nowhere_append, nowhere_append]
  exact ⟨nowhere_docComment_of_no_slash (by decide) _,
    nowhere_docComment_of_no_star (field.comment_not_mem (by decide)) ((stops_cons ..).mpr (by decide)),
    nowhere_docComment_of_no_slash (by decide) _, ⟨unopened _, trivial⟩,
    nowhere_docComment_of_no_slash field.slash_not_mem_naming _,
    nowhere_docComment_of_no_star (field.type_not_mem (by decide)) ((stops_cons ..).mpr (by decide)),
    nowhere_docComment_of_no_slash (by decide) _⟩

theorem findAll_interfaceField_source (rest : List Char) :
    findAll interfaceField (field.source ++ rest) = field.entry :: findAll interfaceField rest := by
  have indent : Nowhere interfaceField.Reads "  ".toList (field.commented ++ (";\n".toList ++ rest)) :=
    (nowhere_docComment_of_no_slash (by decide) _).mono fun _ => commented_of_interfaceField
  have ended : Nowhere interfaceField.Reads ";\n".toList rest :=
    (nowhere_docComment_of_no_slash (by decide) _).mono fun _ => commented_of_interfaceField
  have nonempty : field.commented ≠ [] := List.cons_ne_nil _ _
  rw [source_append, findAll_append_of_nowhere indent,
    findAll_append_of_some nonempty (field.interfaceField_commented rest),
    findAll_append_of_nowhere ended]

/-- Behind the comment of a field stands its name, and no decorator. -/
theorem nowhere_decoratedMember_source (here : List Char) : Nowhere decoratedMember.Reads field.source here := by
  have undecorated : ¬decoratedMember.Reads (field.commented ++ (";\n".toList ++ here)) := by
    rintro ⟨member, rest, read⟩
    simp only [decoratedMember, bind_eq_some_iff, docComment_commented, blanks_eq_some_iff, char_eq_some_iff] at read
    obtain ⟨_, _, same, -, _, ⟨gap, split, blank, -⟩, -, _, rfl, -⟩ := read
    obtain ⟨-, rfl⟩ := Prod.mk.inj (Option.some.inj same)
    have indent : IsGap "\n  ".toList := by simp; decide
    have letter := stops_append_of_ne_nil field.name_ne
      (fun c member => isBlank_eq_false_of_isWord (field.name_word c member))
    obtain ⟨-, behind⟩ := append_inj_of_stops indent (letter _) blank ((stops_cons ..).mpr (by decide)) split
    obtain ⟨c, name, spelled⟩ := List.exists_cons_of_ne_nil field.name_ne
    have word := field.name_word c (spelled ▸ List.mem_cons_self ..)
    rw [spelled, List.cons_append] at behind
    rw [(List.cons.inj behind).1] at word
    exact absurd word (by decide)
  have split : field.source = "  ".toList ++ ('/' :: (field.commented.tail ++ ";\n".toList)) := by
    have whole := field.source_append []
    rw [List.append_nil, List.append_nil] at whole
    exact whole
  rw [split, nowhere_append, nowhere_cons]
  refine ⟨(nowhere_docComment_of_no_slash (by decide) _).mono fun _ => commented_of_decoratedMember, ?_,
    (field.nowhere_docComment_tail _).mono fun _ => commented_of_decoratedMember⟩
  have spelled : '/' :: (field.commented.tail ++ ";\n".toList) ++ here = field.commented ++ (";\n".toList ++ here) := by
    rw [← List.append_assoc]
    rfl
  rwa [spelled]

/-- No brace of the field's comment closes the interface. -/
def Unclosed : Prop :=
  '}' ∉ field.comment

instance : DecidablePred Unclosed :=
  fun field => inferInstanceAs (Decidable ('}' ∉ field.comment))

theorem brace_not_mem_source {field : WrittenField} (unclosed : field.Unclosed) : '}' ∉ field.source := by
  have word : '}' ∉ field.name := not_mem_of_forall field.name_word (by decide)
  have marked : '}' ∉ field.mark := field.mark_not_mem (by decide)
  have typed : '}' ∉ field.type := field.type_not_mem (by decide)
  unfold source opening
  simp only [List.mem_append, not_or]
  exact ⟨⟨⟨⟨⟨⟨⟨by decide, unclosed⟩, by decide⟩, word⟩, marked⟩, by decide⟩, typed⟩, by decide⟩

end WrittenField

/-! ## A whole interface -/

def interfaceHead (title : List Char) : List Char :=
  "interface ".toList ++ title ++ "Props \x7b\n".toList

/-- An interface with these fields. -/
def interfaceFile (title : List Char) (fields : List WrittenField) : List Char :=
  interfaceHead title ++ fields.flatMap WrittenField.source ++ "\x7d\n".toList

/-- The fields in front of the first that closes the interface. -/
def fieldsBeforeBrace (fields : List WrittenField) : List WrittenField :=
  fields.takeWhile fun field => field.Unclosed

/-- The interface ends behind the fields before the first brace, or in the comment that follows them. -/
theorem exists_end_of_fields (fields : List WrittenField) :
    ∃ cut rest, fields.flatMap WrittenField.source ++ "\x7d\n".toList =
        (fieldsBeforeBrace fields).flatMap WrittenField.source ++ (cut ++ '}' :: rest) ∧
      '}' ∉ (fieldsBeforeBrace fields).flatMap WrittenField.source ++ cut ∧ Nowhere docComment.Reads cut [] := by
  induction fields with
  | nil => exact ⟨[], "\n".toList, by decide, List.not_mem_nil, trivial⟩
  | cons field fields ih =>
    by_cases unclosed : field.Unclosed
    · obtain ⟨cut, rest, split, absent, nowhere⟩ := ih
      have taken : fieldsBeforeBrace (field :: fields) = field :: fieldsBeforeBrace fields :=
        List.takeWhile_cons_of_pos (decide_eq_true unclosed)
      refine ⟨cut, rest, ?_, ?_, nowhere⟩
      · rw [taken, List.flatMap_cons, List.flatMap_cons, List.append_assoc, split, List.append_assoc]
      · rw [taken, List.flatMap_cons, List.append_assoc, List.mem_append, not_or]
        exact ⟨WrittenField.brace_not_mem_source unclosed, absent⟩
    · have taken : fieldsBeforeBrace (field :: fields) = [] :=
        List.takeWhile_cons_of_neg (by simpa using unclosed)
      obtain ⟨front, back, same, first⟩ := List.eq_append_cons_of_mem (not_not.mp unclosed)
      refine ⟨"  /** ".toList ++ front, back ++ (" */\n  ".toList ++ (field.name ++ (field.mark ++ (": ".toList ++
        (field.type ++ (";\n".toList ++ (fields.flatMap WrittenField.source ++ "\x7d\n".toList))))))), ?_, ?_, ?_⟩
      · rw [taken, List.flatMap_cons]
        unfold WrittenField.source WrittenField.opening
        rw [same]
        simp only [List.append_assoc, List.cons_append, List.flatMap_nil, List.nil_append]
      · rw [taken, List.flatMap_nil, List.nil_append, List.mem_append, not_or]
        exact ⟨by decide, first⟩
      · have starless : '*' ∉ ' ' :: front := by
          have absent := field.comment_not_mem (c := '*') (by decide)
          rw [same, List.mem_append, not_or] at absent
          simpa using absent.1
        have open_ended : ¬docComment.Reads ('/' :: ("**".toList ++ (' ' :: front)) ++ []) := by
          rintro ⟨comment, rest, read⟩
          obtain ⟨body, spelled, -⟩ := docComment_eq_some_iff.mp read
          have whole : "/**".toList ++ (' ' :: front) = "/**".toList ++ (body ++ ("*/".toList ++ rest)) := by
            rw [List.append_nil] at spelled
            exact spelled
          exact starless (List.append_cancel_left whole ▸ List.mem_append_right _ (List.mem_cons_self ..))
        have split : "  /** ".toList ++ front = "  ".toList ++ ('/' :: ("**".toList ++ (' ' :: front))) := rfl
        rw [split, nowhere_append, nowhere_cons, nowhere_append]
        exact ⟨nowhere_docComment_of_no_slash (by decide) _, open_ended,
          nowhere_docComment_of_no_slash (by decide) _, nowhere_docComment_of_no_star starless (stops_nil _)⟩

variable {title : List Char} {fields : List WrittenField}

theorem interfaceHead_append (title rest : List Char) :
    interfaceHead title ++ rest =
      "interface".toList ++ ([' '] ++ ((title ++ "Props".toList) ++ ([' '] ++ '{' :: '\n' :: rest))) := by
  have opened : "interface ".toList = "interface".toList ++ [' '] := by decide
  have named : "Props \x7b\n".toList = "Props".toList ++ ([' '] ++ ['{', '\n']) := by decide
  unfold interfaceHead
  rw [opened, named]
  simp only [List.append_assoc, List.cons_append, List.nil_append]

theorem not_mem_interfaceHead (title_word : ∀ c ∈ title, isWord c = true) {c : Char} (foreign : isWord c = false)
    (other : c ∉ "interface ".toList ∧ c ∉ "Props \x7b\n".toList) : c ∉ interfaceHead title := by
  have named : c ∉ title := not_mem_of_forall title_word foreign
  unfold interfaceHead
  rw [List.mem_append, List.mem_append, not_or, not_or]
  exact ⟨⟨other.1, named⟩, other.2⟩

theorem propsInterface_interfaceHead {body : List Char} (title_word : ∀ c ∈ title, isWord c = true)
    (absent : '}' ∉ body) (rest : List Char) :
    propsInterface (interfaceHead title ++ (body ++ '}' :: rest)) = some ('\n' :: body, rest) := by
  have named : ∀ c ∈ title ++ "Props".toList, isWord c = true := by
    rw [List.forall_mem_append]
    exact ⟨title_word, List.all_eq_true.mp (by decide)⟩
  have named_ne : title ++ "Props".toList ≠ [] := List.append_ne_nil_of_right_ne_nil _ (by decide)
  have letter := stops_append_of_ne_nil named_ne (fun c member => isBlank_eq_false_of_isWord (named c member))
    ([' '] ++ '{' :: '\n' :: (body ++ '}' :: rest))
  have ends : "Props".toList.isSuffixOf (title ++ "Props".toList) = true :=
    List.isSuffixOf_iff_suffix.mpr (List.suffix_append ..)
  have blank : IsGap [' '] := by simp; decide
  have unclosed : '}' ∉ '\n' :: body := by
    rw [List.mem_cons, not_or]
    exact ⟨by decide, absent⟩
  rw [interfaceHead_append]
  unfold propsInterface
  simp only [↓bind_eq_some_iff, literal_eq_some_iff, blanks1_eq_some_iff, identifier_eq_some_iff,
    ↓guard_eq_some_iff, blanks_eq_some_iff, openBrace_eq_some_iff, throughBrace_eq_some_iff]
  exact ⟨(), _, rfl, (), _, ⟨[' '], List.cons_ne_nil _ _, rfl, blank, letter⟩, _, _,
    ⟨named_ne, rfl, named, (stops_cons ..).mpr (by decide)⟩, (), _, ⟨ends, rfl⟩, (), _,
    ⟨[' '], rfl, blank, (stops_cons ..).mpr (by decide)⟩, (), _, rfl, rfl, unclosed⟩

theorem interfaceFields_interfaceFile (title_word : ∀ c ∈ title, isWord c = true) (fields : List WrittenField) :
    interfaceFields (interfaceFile title fields) = (fieldsBeforeBrace fields).map WrittenField.entry := by
  obtain ⟨cut, rest, split, absent, nowhere⟩ := exists_end_of_fields fields
  have spelled : interfaceFile title fields = interfaceHead title ++
      ((fieldsBeforeBrace fields).flatMap WrittenField.source ++ cut ++ '}' :: rest) := by
    rw [interfaceFile, List.append_assoc, split, List.append_assoc _ cut]
  have found : findFirst? propsInterface (interfaceFile title fields) =
      some ('\n' :: ((fieldsBeforeBrace fields).flatMap WrittenField.source ++ cut)) := by
    rw [spelled]
    exact findFirst?_eq_some_iff.mpr ⟨[], _, rest, rfl, propsInterface_interfaceHead title_word absent rest, trivial⟩
  have feed : Nowhere interfaceField.Reads ['\n'] ((fieldsBeforeBrace fields).flatMap WrittenField.source ++ cut) :=
    (nowhere_docComment_of_no_slash (by decide) _).mono fun _ => commented_of_interfaceField
  have behind : findAll interfaceField cut = [] :=
    findAll_eq_nil_of_nowhere (nowhere.mono fun _ => commented_of_interfaceField)
  rw [interfaceFields, found, ← List.singleton_append]
  dsimp only
  rw [findAll_append_of_nowhere feed, findAll_flatMap WrittenField.findAll_interfaceField_source, behind,
    List.append_nil]

theorem decoratedMembers_interfaceFile (title_word : ∀ c ∈ title, isWord c = true) (fields : List WrittenField) :
    decoratedMembers (interfaceFile title fields) = [] := by
  have plain := not_mem_interfaceHead title_word (show isWord '/' = false by decide) (by decide)
  apply findAll_eq_nil_of_nowhere
  rw [interfaceFile, nowhere_append, nowhere_append]
  exact ⟨⟨nowhere_decoratedMember plain _, nowhere_flatMap WrittenField.nowhere_decoratedMember_source ..⟩,
    nowhere_decoratedMember (by decide) _⟩

/-- The declarations that the fields hold, those in their comments included. -/
def declarationsOf (fields : List WrittenField) : List FieldDeclaration :=
  fields.flatMap fun field => findAll fieldDeclaration field.source

theorem findAll_fieldDeclaration_line (rest : List Char) :
    findAll fieldDeclaration ('\n' :: rest) = findAll fieldDeclaration rest := by
  have alone : ':' ∉ [] ++ ['\n'] := by decide
  exact findAll_append_of_nowhere (nowhere_fieldDeclaration alone (by decide) (by decide) rest)

theorem WrittenField.findAll_fieldDeclaration_source (field : WrittenField) (rest : List Char) :
    findAll fieldDeclaration (field.source ++ rest) =
      findAll fieldDeclaration field.source ++ findAll fieldDeclaration rest := by
  let text := field.opening ++ field.name ++ field.mark ++ ": ".toList ++ field.type
  have split (more : List Char) : field.source ++ more = text ++ ';' :: '\n' :: more := by
    rw [WrittenField.source, List.append_assoc]
    rfl
  have alone := split []
  rw [List.append_nil] at alone
  rw [split, alone, findAll_fieldDeclaration_append_semicolon, findAll_fieldDeclaration_append_semicolon text ['\n'],
    findAll_fieldDeclaration_line, findAll_fieldDeclaration_line []]
  rw [show findAll fieldDeclaration [] = [] from rfl, List.append_nil]

theorem findAll_fieldDeclaration_fields (fields : List WrittenField) :
    findAll fieldDeclaration (fields.flatMap WrittenField.source ++ "\x7d\n".toList) = declarationsOf fields := by
  induction fields with
  | nil =>
    have absent : ':' ∉ ['}'] ++ ['\n'] := by decide
    exact findAll_eq_nil_of_nowhere (nowhere_fieldDeclaration absent (by decide) (by decide) [])
  | cons field fields ih =>
    rw [List.flatMap_cons, List.append_assoc, field.findAll_fieldDeclaration_source, ih, declarationsOf,
      declarationsOf, List.flatMap_cons]

theorem findAll_fieldDeclaration_interfaceFile (title_word : ∀ c ∈ title, isWord c = true)
    (fields : List WrittenField) :
    findAll fieldDeclaration (interfaceFile title fields) = declarationsOf fields := by
  have absent := not_mem_interfaceHead title_word (show isWord ':' = false by decide) (by decide)
  have line : interfaceHead title = ("interface ".toList ++ title ++ "Props \x7b".toList) ++ ['\n'] := by
    unfold interfaceHead
    simp
  rw [line] at absent
  have passed := nowhere_fieldDeclaration absent (by decide) (by decide)
    (fields.flatMap WrittenField.source ++ "\x7d\n".toList)
  rw [← line] at passed
  rw [interfaceFile, List.append_assoc, findAll_append_of_nowhere passed, findAll_fieldDeclaration_fields]

theorem properties_interfaceFile (title_word : ∀ c ∈ title, isWord c = true)
    (distinct : (fields.map WrittenField.name).Nodup) :
    properties (interfaceFile title fields) =
      withDeclarations ⟨(fieldsBeforeBrace fields).map WrittenField.entry⟩ (declarationsOf fields) := by
  have names : (((fieldsBeforeBrace fields).map WrittenField.entry).map (·.1)).Nodup := by
    have taken : (fieldsBeforeBrace fields).Sublist fields := List.takeWhile_sublist _
    have named := nodup_ofList (distinct.sublist (taken.map WrittenField.name))
    rw [List.map_map] at named ⊢
    exact named
  rw [properties, decoratedMembers_interfaceFile title_word, interfaceFields_interfaceFile title_word,
    findAll_fieldDeclaration_interfaceFile title_word, List.nil_append, Fields.ofList_of_nodup names]

/-! ## What declarations leave of a field -/

namespace WrittenField

/-- No declaration of the field's name has a default, and the last one has its type. -/
def LeftAlone (field : WrittenField) (declarations : List FieldDeclaration) : Prop :=
  (∀ declaration ∈ declarations, declaration.name = String.ofList field.name → declaration.default = none) ∧
    ∀ declaration ∈ (declarations.filter (·.name = String.ofList field.name)).getLast?,
      declaration.type = String.ofList field.type

theorem settled_entry_iff (field : WrittenField) (declarations : List FieldDeclaration) :
    settled field.entry.2 (declarations.filter (·.name = field.entry.1)) = field.entry.2 ↔
      field.LeftAlone declarations := by
  have key : field.entry.1 = String.ofList field.name := rfl
  have typed : field.entry.2.declaredType = some (String.ofList field.type) := rfl
  rw [key, settled_eq_self_iff rfl, typed, LeftAlone]
  simp only [List.mem_filter, decide_eq_true_eq, and_imp, Option.some.injEq]

end WrittenField

/-- The documentation has the fields as they are written exactly where no comment closes the interface and the
declarations leave each field alone. -/
theorem properties_interfaceFile_iff (title_word : ∀ c ∈ title, isWord c = true)
    (distinct : (fields.map WrittenField.name).Nodup) :
    properties (interfaceFile title fields) = ⟨fields.map WrittenField.entry⟩ ↔
      ∀ field ∈ fields, field.Unclosed ∧ field.LeftAlone (declarationsOf fields) := by
  rw [properties_interfaceFile title_word distinct, withDeclarations_eq_map, Fields.mk.injEq, List.map_map]
  constructor
  · intro same
    have lengths := congrArg List.length same
    rw [List.length_map, List.length_map] at lengths
    have whole : fieldsBeforeBrace fields = fields := (List.takeWhile_prefix _).eq_of_length lengths
    rw [whole] at same
    intro field listed
    have unclosed := List.takeWhile_eq_self_iff.mp whole field listed
    refine ⟨of_decide_eq_true unclosed, (field.settled_entry_iff _).mp ?_⟩
    exact (Prod.mk.inj (List.map_inj_left.mp same field listed)).2
  · intro every
    have whole : fieldsBeforeBrace fields = fields :=
      List.takeWhile_eq_self_iff.mpr fun field listed => decide_eq_true (every field listed).1
    rw [whole]
    refine List.map_congr_left fun field listed => Prod.ext rfl ?_
    exact (field.settled_entry_iff _).mpr (every field listed).2

/-! ## Fields below comments without a colon -/

namespace WrittenField

variable {field : WrittenField}

/-- The field from its name to its semicolon. -/
def declared (field : WrittenField) : List Char :=
  field.name ++ (field.mark ++ ':' :: ' ' :: field.type)

theorem headed (field : WrittenField) : DeclarationHead field.name (field.name ++ (field.mark ++ [':'])) := by
  refine ⟨field.name_ne, field.name_word, field.mark, ?_, rfl⟩
  unfold mark
  split
  · exact .inr rfl
  · exact .inl rfl

/-- The search for declarations passes over a comment without a colon. -/
theorem findAll_fieldDeclaration_of_plain (plain : ':' ∉ field.comment) :
    findAll fieldDeclaration field.source = findAll fieldDeclaration (field.declared ++ ";\n".toList) := by
  have indented : field.opening = ("  /** ".toList ++ field.comment ++ " */\n ".toList) ++ [' '] := by
    unfold opening
    simp
  have absent : ':' ∉ ("  /** ".toList ++ field.comment ++ " */\n ".toList) ++ [' '] := by
    rw [List.mem_append, List.mem_append, List.mem_append, not_or, not_or, not_or]
    exact ⟨⟨⟨by decide, plain⟩, by decide⟩, by decide⟩
  have split : field.source = field.opening ++ (field.declared ++ ";\n".toList) := by
    unfold source declared
    simp
  rw [split, indented]
  exact findAll_append_of_nowhere (nowhere_fieldDeclaration absent (by decide) (by decide) _)

theorem findAll_fieldDeclaration_of_declares {type : List Char} {default : Option (List Char)}
    (declares : Declares field.name type default (field.declared ++ ";\n".toList) ['\n']) :
    findAll fieldDeclaration (field.declared ++ ";\n".toList) =
      [⟨String.ofList field.name, String.ofList (trim type), default.map fun value => String.ofList (trim value)⟩] := by
  have read := fieldDeclaration_eq_some_iff.mpr ⟨_, _, _, declares, rfl⟩
  have split : field.declared ++ ";\n".toList = (field.declared ++ [';']) ++ ['\n'] := by simp
  rw [split] at read ⊢
  rw [findAll_append_of_some (by simp) read, findAll_fieldDeclaration_line]
  rfl

theorem undeclared_signs {text : List Char} (equals : '=' ∉ text) (unended : ';' ∉ text) :
    ∀ c ∈ ' ' :: text, c ≠ '=' ∧ c ≠ ';' := by
  rw [List.forall_mem_cons]
  exact ⟨by decide, fun c member => ⟨fun same => equals (same ▸ member), fun same => unended (same ▸ member)⟩⟩

/-- A type without an equals sign is declared as it is. -/
theorem findAll_fieldDeclaration_of_no_equals (plain : '=' ∉ field.type) :
    findAll fieldDeclaration (field.declared ++ ";\n".toList) =
      [⟨String.ofList field.name, String.ofList field.type, none⟩] := by
  have unended : ';' ∉ field.type := field.type_not_mem (by decide)
  have declares : Declares field.name (' ' :: field.type) none (field.declared ++ ";\n".toList) ['\n'] := by
    exact ⟨⟨_, field.headed, by simp [declared, defaultText]⟩, List.cons_ne_nil _ _, undeclared_signs plain unended,
      by simp⟩
  rw [findAll_fieldDeclaration_of_declares declares, trim_indented field.type_trimmed, Option.map_none]

/-- A type with an equals sign inside is declared up to it, and the rest is a default. -/
theorem exists_default_of_equals_inside {front back : List Char} (first : '=' ∉ front) (back_ne : back ≠ [])
    (same : field.type = front ++ '=' :: back) :
    ∃ declaration ∈ findAll fieldDeclaration (field.declared ++ ";\n".toList),
      declaration.name = String.ofList field.name ∧ declaration.default ≠ none := by
  have unended : ';' ∉ field.type := field.type_not_mem (by decide)
  rw [same, List.mem_append, List.mem_cons, not_or, not_or] at unended
  have declares : Declares field.name (' ' :: front) (some back) (field.declared ++ ";\n".toList) ['\n'] := by
    exact ⟨⟨_, field.headed, by simp [declared, defaultText, same]⟩, List.cons_ne_nil _ _,
      undeclared_signs first unended.1, by simpa using ⟨back_ne, unended.2.2⟩⟩
  rw [findAll_fieldDeclaration_of_declares declares]
  exact ⟨_, List.mem_singleton.mpr rfl, rfl, Option.some_ne_none _⟩

/-- A type that ends with its only equals sign is not declared, since no default stands behind the sign. -/
theorem findAll_fieldDeclaration_of_equals_last {front : List Char} (first : '=' ∉ front)
    (same : field.type = front ++ ['=']) : findAll fieldDeclaration (field.declared ++ ";\n".toList) = [] := by
  have unended : ';' ∉ front := by
    have absent : ';' ∉ field.type := field.type_not_mem (by decide)
    rw [same, List.mem_append, not_or] at absent
    exact absent.1
  have colon : ':' ∉ ' ' :: field.type ++ ";\n".toList := by
    have absent : ':' ∉ field.type := field.type_not_mem (by decide)
    rw [List.mem_append, List.mem_cons, not_or, not_or]
    exact ⟨⟨by decide, absent⟩, by decide⟩
  have colonless : ':' ∉ field.name ++ field.mark := by
    have word : ':' ∉ field.name := not_mem_of_forall field.name_word (by decide)
    have marked : ':' ∉ field.mark := field.mark_not_mem (by decide)
    rw [List.mem_append, not_or]
    exact ⟨word, marked⟩
  apply findAll_eq_nil_of_nowhere
  rw [nowhere_iff]
  rintro earlier here split - ⟨declaration, rest, read⟩
  rw [List.append_nil] at read
  obtain ⟨name, type, default, declares, -⟩ := fieldDeclaration_eq_some_iff.mp read
  obtain ⟨_, ⟨-, -, mark, -, rfl⟩, rfl⟩ := declares.spelled
  have spelled : (field.name ++ field.mark) ++ ':' :: (' ' :: field.type ++ ";\n".toList) =
      (earlier ++ (name ++ mark)) ++ ':' :: (type ++ (defaultText default ++ ';' :: rest)) := by
    simpa [declared] using split
  obtain ⟨-, -, behind⟩ := (List.append_cons_inj_of_notMem colonless colon).mp spelled
  have pieces : (' ' :: front) ++ '=' :: ';' :: ['\n'] = type ++ (defaultText default ++ ';' :: rest) := by
    rw [← behind, same]
    simp
  exact equals_semicolon_ne (undeclared_signs first unended) declares.type_plain declares.default_plain pieces

/-- A type is without an equals sign, or ends with the only one it has, or has one inside. -/
theorem type_cases (field : WrittenField) :
    '=' ∉ field.type ∨ (∃ front, '=' ∉ front ∧ field.type = front ++ ['=']) ∨
      ∃ front back, '=' ∉ front ∧ back ≠ [] ∧ field.type = front ++ '=' :: back := by
  by_cases equals : '=' ∈ field.type
  · obtain ⟨front, back, same, first⟩ := List.eq_append_cons_of_mem equals
    cases back with
    | nil => exact .inr (.inl ⟨front, first, same⟩)
    | cons c back => exact .inr (.inr ⟨front, c :: back, first, List.cons_ne_nil c back, same⟩)
  · exact .inl equals

end WrittenField

theorem mem_declarationsOf {declaration : FieldDeclaration} :
    declaration ∈ declarationsOf fields ↔
      ∃ field ∈ fields, declaration ∈ findAll fieldDeclaration field.source :=
  List.mem_flatMap

/-- Below comments without a colon each declaration is of its own field, and says what the field says, where no
type has an equals sign inside. -/
theorem exists_field_of_declaration (plain : ∀ field ∈ fields, ':' ∉ field.comment)
    (signless : ∀ field ∈ fields, '=' ∉ field.type.dropLast) {declaration : FieldDeclaration}
    (found : declaration ∈ declarationsOf fields) :
    ∃ field ∈ fields, declaration = ⟨String.ofList field.name, String.ofList field.type, none⟩ := by
  obtain ⟨field, listed, found⟩ := mem_declarationsOf.mp found
  rw [WrittenField.findAll_fieldDeclaration_of_plain (plain field listed)] at found
  refine ⟨field, listed, ?_⟩
  obtain equals | ⟨front, first, same⟩ | ⟨front, back, first, back_ne, same⟩ := field.type_cases
  · rw [WrittenField.findAll_fieldDeclaration_of_no_equals equals] at found
    exact List.mem_singleton.mp found
  · rw [WrittenField.findAll_fieldDeclaration_of_equals_last first same] at found
    contradiction
  · have inside : '=' ∈ field.type.dropLast := by
      rw [same, List.dropLast_append_of_ne_nil (List.cons_ne_nil '=' back), List.dropLast_cons_of_ne_nil back_ne]
      exact List.mem_append_right _ (List.mem_cons_self ..)
    exact absurd inside (signless field listed)

/-- Below comments without a colon the declarations leave a field alone where its type has no equals sign that
something follows. -/
theorem leftAlone_iff (distinct : (fields.map WrittenField.name).Nodup)
    (plain : ∀ field ∈ fields, ':' ∉ field.comment) :
    (∀ field ∈ fields, field.LeftAlone (declarationsOf fields)) ↔ ∀ field ∈ fields, '=' ∉ field.type.dropLast := by
  constructor
  · rintro every field listed inside
    obtain equals | ⟨front, first, same⟩ | ⟨front, back, first, back_ne, same⟩ := field.type_cases
    · exact equals (List.mem_of_mem_dropLast inside)
    · rw [same, List.dropLast_concat] at inside
      exact first inside
    · obtain ⟨declaration, found, named, valued⟩ :=
        WrittenField.exists_default_of_equals_inside first back_ne same
      rw [← WrittenField.findAll_fieldDeclaration_of_plain (plain field listed)] at found
      exact valued ((every field listed).1 declaration (mem_declarationsOf.mpr ⟨field, listed, found⟩) named)
  · intro every field listed
    have alike (declaration : FieldDeclaration) (found : declaration ∈ declarationsOf fields)
        (named : declaration.name = String.ofList field.name) :
        declaration.default = none ∧ declaration.type = String.ofList field.type := by
      obtain ⟨other, present, rfl⟩ := exists_field_of_declaration plain every found
      have same := List.inj_on_of_nodup_map distinct present listed (String.ofList_injective named)
      rw [same]
      exact ⟨rfl, rfl⟩
    refine ⟨fun declaration found named => (alike declaration found named).1, fun declaration last => ?_⟩
    have found := List.mem_of_getLast? last
    rw [List.mem_filter, decide_eq_true_eq] at found
    exact (alike declaration found.1 found.2).2

/-- A file that is one interface documents its fields exactly as they are written, in their order, where no comment
closes the interface and no declaration of a field's name changes the field. Below comments without a colon the
latter means that no type has an equals sign with something behind it. -/
theorem fields_documented_iff (title_word : ∀ c ∈ title, isWord c = true)
    (distinct : (fields.map WrittenField.name).Nodup) :
    (Documents (interfaceFile title fields) (fun properties => properties = ⟨fields.map WrittenField.entry⟩) ↔
      ∀ field ∈ fields, '}' ∉ field.comment ∧ field.LeftAlone (declarationsOf fields)) ∧
    ((∀ field ∈ fields, ':' ∉ field.comment) →
      (Documents (interfaceFile title fields) (fun properties => properties = ⟨fields.map WrittenField.entry⟩) ↔
        ∀ field ∈ fields, '}' ∉ field.comment ∧ '=' ∉ field.type.dropLast)) := by
  rw [documents_iff, properties_interfaceFile_iff title_word distinct]
  refine ⟨Iff.rfl, fun plain => ?_⟩
  have left := leftAlone_iff distinct plain
  constructor
  · intro every field listed
    exact ⟨(every field listed).1, left.mp (fun other present => (every other present).2) field listed⟩
  · intro every field listed
    exact ⟨(every field listed).1, left.mpr (fun other present => (every other present).2) field listed⟩

def spacingField : WrittenField where
  name := "spacing".toList
  name_ne := by decide
  name_word := List.all_eq_true.mp (by decide)
  optional := true
  comment := "Between words; a \x7bnumber of pixels".toList
  comment_trimmed := by decide
  comment_plain := List.all_iff_forall_prop.mp (by decide)
  type := "number | 'wide'".toList
  type_trimmed := by decide
  type_plain := List.all_iff_forall_prop.mp (by decide)

def toneField : WrittenField where
  name := "tone".toList
  name_ne := by decide
  name_word := List.all_eq_true.mp (by decide)
  optional := false
  comment := "How the button looks.".toList
  comment_trimmed := by decide
  comment_plain := List.all_iff_forall_prop.mp (by decide)
  type := "Tone".toList
  type_trimmed := by decide
  type_plain := List.all_iff_forall_prop.mp (by decide)

/-- A field whose type is a function. -/
def clickField : WrittenField where
  name := "onClick".toList
  name_ne := by decide
  name_word := List.all_eq_true.mp (by decide)
  optional := false
  comment := "Called on a click.".toList
  comment_trimmed := by decide
  comment_plain := List.all_iff_forall_prop.mp (by decide)
  type := "() => void".toList
  type_trimmed := by decide
  type_plain := List.all_iff_forall_prop.mp (by decide)

/-- An interface with some fields, in memory. -/
def buttonInterface (fields : List WrittenField) : MemoryFiles :=
  .write {} "/button.tsx" (String.ofList (interfaceFile "Button".toList fields))

theorem spacing_tone_documented :
    (∀ c ∈ "Button".toList, isWord c = true) ∧ ([spacingField, toneField].map WrittenField.name).Nodup ∧
    ∃ docs, extractDocs (buttonInterface [spacingField, toneField]).toFileSystem "/button.tsx" = some docs ∧
      docs.properties = ⟨[
        ("spacing",
          { description := "Between words; a \x7bnumber of pixels"
            kind := .prop
            required := false
            declaredType := some "number | 'wide'"
            default := none }),
        ("tone",
          { description := "How the button looks."
            kind := .prop
            required := true
            declaredType := some "Tone"
            default := none })]⟩ := by
  have word : ∀ c ∈ "Button".toList, isWord c = true := List.all_eq_true.mp (by decide)
  have distinct : ([spacingField, toneField].map WrittenField.name).Nodup := by decide
  have documents := ((fields_documented_iff word distinct).2 (by decide)).mpr (by decide)
  obtain ⟨docs, extracted, shown⟩ := documents (buttonInterface [spacingField, toneField]).toFileSystem "/button.tsx"
    (MemoryFiles.readFile?_write ..) fun reference => ⟨_, MemoryFiles.readFile? ..⟩
  exact ⟨word, distinct, docs, extracted, shown⟩

/-- The arrow of a function type is cut in two: what stands behind its equals sign is the default. -/
theorem clickField_cut :
    (extractDocs (buttonInterface [clickField]).toFileSystem "/button.tsx").map ComponentDocs.properties =
        some ⟨[("onClick",
          { description := "Called on a click."
            kind := .prop
            required := true
            declaredType := some "()"
            default := some "> void" })]⟩ ∧
      (extractDocs (buttonInterface [clickField]).toFileSystem "/button.tsx").map ComponentDocs.properties ≠
        some ⟨[clickField.entry]⟩ := by
  decide +kernel

end StoryCatalog.Component
