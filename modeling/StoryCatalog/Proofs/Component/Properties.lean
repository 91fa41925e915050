import StoryCatalog.Component.Extract
import StoryCatalog.Proofs.Source.Comment
import StoryCatalog.Proofs.Text.Character

/-!
# What the passes over a component find

The pass over declarations adds to properties and changes nothing that their comments say. The pass over an
interface finds a field only where a doc comment has a word behind it, so a file without such a place has the
properties of its decorated members and no others.
-/

namespace StoryCatalog.Component

open Text Scan Source

/-- What stands in a property's own comment and decorator. -/
def documented (properties : Fields Property) : List (String × String × String × Bool) :=
  properties.entries.map fun (name, property) =>
    (name, property.kind.name, property.description, property.required)

theorem documented_modify (properties : Fields Property) (declaration : FieldDeclaration) :
    documented (properties.modify declaration.name declaration.applyTo) = documented properties := by
  simp only [documented, Fields.modify, List.map_map]
  refine List.map_congr_left fun entry _ => ?_
  obtain ⟨name, property⟩ := entry
  rw [Function.comp_apply]
  split_ifs <;> rfl

theorem documented_withDeclarations (properties : Fields Property) (declarations : List FieldDeclaration) :
    documented (withDeclarations properties declarations) = documented properties := by
  induction declarations generalizing properties with
  | nil => rfl
  | cons declaration declarations ih =>
    have later := ih (properties.modify declaration.name declaration.applyTo)
    rw [documented_modify] at later
    exact later

/-! ## Decorated members -/

/-- What a doc comment and a decorator say of their member. -/
def decoratedProperty (comment : List Char) (kind : PropertyKind) : Property where
  description := String.ofList (trim (erase requiredToken (stripComment comment)))
  kind := kind
  required := occurs requiredToken (stripComment comment)

theorem decoratedMember_of_docComment {text comment gap word between name rest : List Char}
    {kind : PropertyKind}
    (read : docComment text = some (comment, gap ++ '@' :: (word ++ ("()".toList ++ (between ++ (name ++ rest))))))
    (gap_blank : IsGap gap)
    (decorated : decorator (word ++ ("()".toList ++ (between ++ (name ++ rest)))) =
      some (kind, "()".toList ++ (between ++ (name ++ rest))))
    (between_blank : IsGap between) (name_ne : name ≠ []) (name_word : ∀ c ∈ name, isWord c = true)
    (stops : Stops isWord rest) :
    decoratedMember text = some ((String.ofList name, decoratedProperty comment kind), rest) := by
  have sign : Stops isBlank ('@' :: (word ++ ("()".toList ++ (between ++ (name ++ rest))))) :=
    (stops_cons ..).mpr (by decide)
  have letter : Stops isBlank (name ++ rest) :=
    stops_append_of_ne_nil name_ne (fun c member => isBlank_eq_false_of_isWord (name_word c member)) rest
  simp only [decoratedMember, bind_eq_some_iff, blanks_eq_some_iff, char_eq_some_iff, literal_eq_some_iff,
    identifier_eq_some_iff, pure_eq_some_iff]
  exact ⟨comment, _, read, (), _, ⟨gap, rfl, gap_blank, sign⟩, (), _, rfl, kind, _, decorated, (), _, rfl, (), _,
    ⟨between, rfl, between_blank, letter⟩, name, rest, ⟨name_ne, rfl, name_word, stops⟩, rfl, rfl⟩

theorem commented_of_decoratedMember {text : List Char} (read : decoratedMember.Reads text) :
    docComment.Reads text :=
  commented_of_bind read

/-- Without a slash there is no comment. -/
theorem nowhere_decoratedMember {before : List Char} (absent : '/' ∉ before) (here : List Char) :
    Nowhere decoratedMember.Reads before here :=
  (nowhere_docComment_of_no_slash absent here).mono fun _ => commented_of_decoratedMember

/-! ## Fields of an interface -/

/-- The body of an interface is a piece of its file. -/
theorem infix_of_propsInterface {text body rest : List Char} (read : propsInterface text = some (body, rest)) :
    body <:+: text := by
  unfold propsInterface at read
  simp only [↓bind_eq_some_iff, literal_eq_some_iff, blanks1_eq_some_iff, identifier_eq_some_iff,
    ↓guard_eq_some_iff, blanks_eq_some_iff, openBrace_eq_some_iff, throughBrace_eq_some_iff] at read
  obtain ⟨-, _, rfl, -, _, ⟨first, -, rfl, -, -⟩, name, _, ⟨-, rfl, -, -⟩, -, _, ⟨-, rfl⟩, -, _,
    ⟨second, rfl, -, -⟩, -, _, rfl, rfl, -⟩ := read
  exact ⟨"interface".toList ++ (first ++ (name ++ (second ++ ['{']))), '}' :: rest, by simp⟩

/-- A doc comment with a word behind it. -/
def WordAfterComment (text : List Char) : Prop :=
  ∃ comment gap c rest, docComment text = some (comment, gap ++ c :: rest) ∧ IsGap gap ∧ isWord c = true

theorem WordAfterComment.append {text : List Char} (worded : WordAfterComment text) (more : List Char) :
    WordAfterComment (text ++ more) := by
  obtain ⟨comment, gap, c, rest, read, blank, word⟩ := worded
  refine ⟨comment, gap, c, rest ++ more, ?_, blank, word⟩
  rw [docComment_append read, List.append_assoc, List.cons_append]

theorem WordAfterComment.commented {text : List Char} (worded : WordAfterComment text) : docComment.Reads text := by
  obtain ⟨comment, gap, c, rest, read, -, -⟩ := worded
  exact ⟨comment, gap ++ c :: rest, read⟩

theorem WordAfterComment.opens {text : List Char} (worded : WordAfterComment text) :
    "/*".toList <+: text :=
  (List.prefix_append "/*".toList ['*']).trans (starred_of_docComment worded.commented)

theorem nowhere_wordAfterComment {before : List Char} (absent : '/' ∉ before) (here : List Char) :
    Nowhere WordAfterComment before here :=
  (nowhere_docComment_of_no_slash absent here).mono fun _ => WordAfterComment.commented

/-- A comment with another sign behind it has no word behind it. -/
theorem not_wordAfterComment_of_sign {text comment gap rest : List Char} {sign : Char}
    (read : docComment text = some (comment, gap ++ sign :: rest)) (blank : IsGap gap) (solid : isBlank sign = false)
    (foreign : isWord sign = false) : ¬WordAfterComment text := by
  rintro ⟨other, otherGap, c, left, again, otherBlank, word⟩
  rw [read] at again
  obtain ⟨-, same⟩ := append_inj_of_stops blank ((stops_cons ..).mpr solid) otherBlank
    ((stops_cons ..).mpr (isBlank_eq_false_of_isWord word)) (Prod.mk.inj (Option.some.inj again)).2
  rw [← (List.cons.inj same).1, foreign] at word
  contradiction

theorem commented_of_interfaceField {text : List Char} (read : interfaceField.Reads text) :
    docComment.Reads text :=
  commented_of_bind read

theorem wordAfterComment_of_interfaceField {text rest : List Char} {field : String × Property}
    (read : interfaceField text = some (field, rest)) : WordAfterComment text := by
  simp only [interfaceField, bind_eq_some_iff, blanks_eq_some_iff, identifier_eq_some_iff] at read
  obtain ⟨comment, _, commented, -, _, ⟨gap, rfl, blank, -⟩, name, _, ⟨name_ne, rfl, name_word, -⟩, -⟩ :=
    read
  cases name with
  | nil => contradiction
  | cons c name =>
    exact ⟨comment, gap, c, _, commented, blank, name_word c (List.mem_cons_self ..)⟩

theorem interfaceFields_eq_nil {content : List Char} (nowhere : Nowhere WordAfterComment content []) :
    interfaceFields content = [] := by
  unfold interfaceFields
  cases found : findFirst? propsInterface content with
  | none => rfl
  | some body =>
    obtain ⟨before, here, rest, rfl, read⟩ := findFirst?_eq_some_iff.mp found
    obtain ⟨front, back, rfl⟩ := infix_of_propsInterface read.1
    refine List.eq_nil_iff_forall_not_mem.mpr fun field member => ?_
    obtain ⟨earlier, text, left, rfl, fieldRead⟩ := exists_of_mem_findAll member
    have worded := wordAfterComment_of_interfaceField fieldRead
    have nonempty : text ++ back ≠ [] := by
      obtain ⟨after, rfl⟩ := worded.opens
      exact List.cons_ne_nil _ _
    refine (nowhere_iff ..).mp nowhere (before ++ (front ++ earlier)) (text ++ back) ?_ nonempty ?_
    · simp only [List.append_assoc]
    · exact (worded.append back).append []

/-! ## Reading a file -/

/-- The documentation of a file is that of its text, with the template that was found for it. -/
theorem extractDocs_eq_some_iff {fs : FileSystem} {path content : String} {docs : ComponentDocs}
    (read : fs.readFile? path = .ok (some content)) :
    extractDocs fs path = some docs ↔
      ∃ found, templateFile? fs path (docsOfSource content.toList) = .ok found ∧
        ComponentDocs.withTemplate (docsOfSource content.toList) found = docs := by
  simp only [extractDocs, readDocs, read, bind, Except.bind, pure, Except.pure]
  cases templateFile? fs path (docsOfSource content.toList) <;> simp

theorem exists_extractDocs {fs : FileSystem} {path content : String} (read : fs.readFile? path = .ok (some content))
    (readable : ∀ reference, ∃ found, fs.readFile? reference = .ok found) : ∃ docs, extractDocs fs path = some docs := by
  have template : ∃ found, templateFile? fs path (docsOfSource content.toList) = .ok found := by
    unfold templateFile?
    cases (docsOfSource content.toList).templateUrl with
    | none => exact ⟨none, rfl⟩
    | some url => exact readable _
  obtain ⟨found, template⟩ := template
  exact ⟨_, (extractDocs_eq_some_iff read).mpr ⟨found, template, rfl⟩⟩

/-- Only the template of a file's documentation may stand in another file. -/
theorem docs_eq_of_extractDocs {fs : FileSystem} {path content : String} {docs : ComponentDocs}
    (read : fs.readFile? path = .ok (some content)) (extracted : extractDocs fs path = some docs) :
    docs = { docsOfSource content.toList with template := docs.template } := by
  obtain ⟨found, -, rfl⟩ := (extractDocs_eq_some_iff read).mp extracted
  cases found <;> rfl

end StoryCatalog.Component
