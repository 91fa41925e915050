import StoryCatalog.Proofs.Source.Comment

/-!
# Comments among code

A text in which comments and code take turns. A doc comment is looked for by its first three signs, wherever they
stand, and not by the place of the comments. The two agree unless a comment that is no doc comment holds these
signs, or a comment ends right behind them, or code goes on with two stars behind a comment. Apart from these, a
scan that starts with a doc comment reads exactly the doc comments that it can go on from in the code behind them.
-/

namespace StoryCatalog.Source

open Text Scan

/-! ## Pieces of a text -/

/-- A comment up to the first end behind its start. -/
structure BlockComment where
  inside : List Char
  ends : Nowhere (literal "*/").Reads inside "*/".toList

/-- Text that neither starts nor ends a comment. -/
structure CodeText where
  text : List Char
  unopened : ¬['/', '*'] <:+: text
  unclosed : ¬['*', '/'] <:+: text

/-- Code, and comments each with the code behind it. -/
structure CommentedText where
  opening : CodeText
  parts : List (BlockComment × CodeText)

namespace BlockComment

def source (comment : BlockComment) : List Char :=
  ['/', '*'] ++ (comment.inside ++ ['*', '/'])

/-- The comment has a second star behind the first. -/
def IsDoc (comment : BlockComment) : Prop :=
  comment.inside.head? = some '*'

instance : DecidablePred IsDoc :=
  fun comment => inferInstanceAs (Decidable (comment.inside.head? = some '*'))

/-- What a doc comment says, between its second star and its end. -/
def body (comment : BlockComment) : List Char :=
  trim comment.inside.tail

/-- Nothing in the comment but itself looks like a doc comment. -/
def Contained (comment : BlockComment) : Prop :=
  ¬"/**/".toList <:+ comment.source ∧ (comment.IsDoc ∨ ¬"/**".toList <:+: comment.inside)

end BlockComment

/-- Behind a comment, the code does not make a start of a doc comment of the comment's end, unless the next
comment's start ends it. -/
def CodeText.Contained (code : CodeText) : Prop :=
  ∀ more, code.text = "**".toList ++ more → more.getLast? = some '*'

def partSource (part : BlockComment × CodeText) : List Char :=
  part.1.source ++ part.2.text

def ContainedPart (part : BlockComment × CodeText) : Prop :=
  part.1.Contained ∧ part.2.Contained

namespace CommentedText

def source (file : CommentedText) : List Char :=
  file.opening.text ++ file.parts.flatMap partSource

def Contained (file : CommentedText) : Prop :=
  ∀ part ∈ file.parts, ContainedPart part

end CommentedText

/-- Where code ends a comment starts, if anything stands there. -/
def StartsPart (rest : List Char) : Prop :=
  rest = [] ∨ ∃ more, rest = '/' :: '*' :: more

theorem startsPart_flatMap (parts : List (BlockComment × CodeText)) : StartsPart (parts.flatMap partSource) := by
  cases parts with
  | nil => exact .inl rfl
  | cons part parts => exact .inr ⟨_, rfl⟩

theorem StartsPart.stops {rest : List Char} (starts : StartsPart rest) : Stops (· = '*') rest := by
  obtain rfl | ⟨more, rfl⟩ := starts
  · exact stops_nil _
  · exact (stops_cons ..).mpr (by decide)

/-! ## Where doc comments are read -/

/-- No doc comment starts in code. -/
theorem CodeText.nowhere_docComment (code : CodeText) {rest : List Char} (starts : StartsPart rest) :
    Nowhere docComment.Reads code.text rest :=
  nowhere_docComment_of_unopened code.unopened starts.stops

/-- A text is cut at its first end of a comment in one way. -/
theorem first_end_unique {first other rest left : List Char} (ends : Nowhere (literal "*/").Reads first "*/".toList)
    (otherEnds : Nowhere (literal "*/").Reads other "*/".toList)
    (same : first ++ '*' :: '/' :: rest = other ++ '*' :: '/' :: left) : first = other ∧ rest = left := by
  have one := prefix_of_nowhere_literal ((nowhere_literal_append ..).mpr ends) same
  have two := prefix_of_nowhere_literal ((nowhere_literal_append ..).mpr otherEnds) same.symm
  obtain rfl := one.eq_of_length_le two.length_le
  exact ⟨rfl, (List.cons.inj (List.cons.inj (List.append_cancel_left same)).2).2⟩

namespace BlockComment

variable {comment : BlockComment}

theorem source_of_isDoc (doc : comment.IsDoc) :
    comment.source = "/**".toList ++ (comment.inside.tail ++ "*/".toList) := by
  obtain ⟨rest, same⟩ := List.head?_eq_some_iff.mp doc
  rw [source, same]
  rfl

/-- A doc comment is read as a whole. -/
theorem docComment_source (doc : comment.IsDoc) (rest : List Char) :
    docComment (comment.source ++ rest) = some (comment.body, rest) := by
  have ends : Nowhere (literal "*/").Reads comment.inside.tail "*/".toList := by
    obtain ⟨body, same⟩ := List.head?_eq_some_iff.mp doc
    have whole := comment.ends
    rw [same, nowhere_cons] at whole
    rw [same]
    exact whole.2
  refine docComment_eq_some_iff.mpr ⟨comment.inside.tail, ?_, ends, rfl⟩
  rw [source_of_isDoc doc]
  simp only [List.append_assoc]

/-- Three signs of a doc comment before the end of a comment are its own or stand inside. -/
theorem inside_cases {before more : List Char}
    (split : ['/', '*'] ++ comment.inside = before ++ (['/', '*', '*'] ++ more)) :
    (before = [] ∧ comment.inside = '*' :: more) ∨
      ∃ earlier, comment.inside = earlier ++ (['/', '*', '*'] ++ more) := by
  match before with
  | [] => exact .inl ⟨rfl, (List.cons.inj (List.cons.inj split).2).2⟩
  | [c] => exact absurd (List.cons.inj (List.cons.inj split).2).1 (by decide)
  | c :: d :: before => exact .inr ⟨before, (List.cons.inj (List.cons.inj split).2).2⟩

theorem ends_behind {before more : List Char}
    (split : ['/', '*'] ++ comment.inside = before ++ (['/', '*', '*'] ++ more)) :
    Nowhere (literal "*/").Reads more "*/".toList := by
  have whole := comment.ends
  obtain ⟨-, same⟩ | ⟨earlier, same⟩ := inside_cases split
  · rw [same, nowhere_cons] at whole
    exact whole.2
  · rw [same, nowhere_append, nowhere_append] at whole
    exact whole.2.2

/-- A doc comment that is read within a comment ends with it, unless it starts right before the end of the
comment. -/
theorem docComment_within {before here rest text left : List Char} (split : comment.source = before ++ here)
    (read : docComment (here ++ rest) = some (text, left)) (nonempty : here ≠ []) :
    (left = rest ∧ ∃ more, here = ['/', '*', '*'] ++ (more ++ ['*', '/'])) ∨ here = "/**/".toList ∨ here = ['/'] := by
  obtain ⟨body, spelled, nowhere, -⟩ := docComment_eq_some_iff.mp read
  have whole : (['/', '*'] ++ comment.inside) ++ ['*', '/'] = before ++ here := by
    rw [← split, source, List.append_assoc]
  have opened : "/**".toList = ['/', '*', '*'] := by decide
  have closed : "*/".toList = ['*', '/'] := by decide
  rw [opened, closed] at spelled
  obtain ⟨more, inside, rfl⟩ | ⟨more, rfl, ended⟩ := List.append_eq_append_iff.mp whole.symm
  · match more with
    | [] => exact absurd (List.cons.inj spelled).1 (by decide)
    | [c] => exact absurd (List.cons.inj (List.cons.inj (List.cons.inj spelled).2).2).1 (by decide)
    | [c, d] =>
      simp only [List.cons_append, List.cons.injEq] at spelled
      obtain ⟨rfl, rfl, -⟩ := spelled
      exact .inr (.inl rfl)
    | c :: d :: e :: more =>
      simp only [List.cons_append, List.cons.injEq, List.nil_append, List.append_assoc] at spelled
      obtain ⟨rfl, rfl, rfl, same⟩ := spelled
      -- Both readings end at the first end behind the three signs.
      obtain ⟨rfl, rfl⟩ := first_end_unique (ends_behind inside) nowhere same
      exact .inl ⟨rfl, more, rfl⟩
  · match more with
    | [] =>
      obtain rfl : ['*', '/'] = here := ended
      exact absurd (List.cons.inj spelled).1 (by decide)
    | [c] => exact .inr (.inr (List.cons.inj ended).2.symm)
    | c :: d :: more =>
      have empty := (List.cons.inj (List.cons.inj ended).2).2
      exact absurd (List.append_eq_nil_iff.mp empty.symm).2 nonempty

end BlockComment

/-- A doc comment that starts with the end of a comment and contained code ends where the next comment starts. -/
theorem CodeText.left_of_docComment {code : CodeText} (contained : code.Contained) {rest text left : List Char}
    (starts : StartsPart rest) (read : docComment ('/' :: (code.text ++ rest)) = some (text, left)) :
    ∃ more, left = '*' :: more := by
  obtain ⟨body, spelled, nowhere, -⟩ := docComment_eq_some_iff.mp read
  have opened : "/**".toList = ['/', '*', '*'] := by decide
  have closed : "*/".toList = ['*', '/'] := by decide
  rw [opened, closed] at spelled
  simp only [List.cons_append, List.nil_append, List.cons.injEq, true_and] at spelled
  have starless (more : List Char) : rest ≠ '*' :: more := by
    rintro rfl
    exact absurd starts.stops (by simp)
  match same : code.text with
  | [] =>
    rw [same] at spelled
    exact absurd spelled (starless _)
  | [c] =>
    rw [same] at spelled
    exact absurd (List.cons.inj spelled).2 (starless _)
  | c :: d :: more =>
    rw [same] at spelled
    simp only [List.cons_append, List.cons.injEq] at spelled
    obtain ⟨rfl, rfl, behind⟩ := spelled
    have unclosed : ¬['*', '/'] <:+: more := fun found =>
      code.unclosed (found.trans (same ▸ (List.suffix_append ['*', '*'] more).isInfix))
    obtain ⟨front, rfl⟩ := List.getLast?_eq_some_iff.mp (contained more same)
    obtain rfl | ⟨later, rfl⟩ := starts
    · rw [List.append_nil] at behind
      exact absurd ⟨body, left, by rw [behind, List.append_assoc]; rfl⟩ unclosed
    · have apart : ¬['*', '/'] <:+: front := fun found => unclosed (found.trans (List.prefix_append ..).isInfix)
      have ends : Nowhere (literal "*/").Reads front "*/".toList :=
        nowhere_commentEnd apart fun _ => (stops_cons ..).mpr (by decide)
      have split : front ++ '*' :: '/' :: '*' :: later = body ++ '*' :: '/' :: left := by
        rw [← behind, List.append_assoc]
        rfl
      obtain ⟨-, rfl⟩ := first_end_unique ends nowhere split
      exact ⟨later, rfl⟩

/-! ## Scans that go on from a doc comment -/

/-- A scan of what stands behind a doc comment. Whether it reads does not depend on the comment, and it stays before
the next comment. -/
structure GoesOn {α : Type} (next : List Char → Scan α) : Prop where
  alike : ∀ comment other text, (next comment).Reads text → (next other).Reads text
  starless : ∀ comment text, ¬(next comment).Reads ('*' :: text)
  stops : ∀ comment, StopsAt '/' (next comment)

/-- What is read of a doc comment and the code behind it. -/
def readPart {α : Type} (next : List Char → Scan α) (part : BlockComment × CodeText) : Option α :=
  if part.1.IsDoc then (next part.1.body part.2.text).map (·.1) else none

namespace GoesOn

variable {α : Type} {next : List Char → Scan α}

theorem append (goes : GoesOn next) (comment text : List Char) {rest : List Char} (starts : StartsPart rest) :
    next comment (text ++ rest) = (next comment text).map fun out => (out.1, out.2 ++ rest) := by
  obtain rfl | ⟨more, rfl⟩ := starts
  · simp only [List.append_nil, Option.map_id']
  · exact (goes.stops comment).reads text ('*' :: more)

/-- Where nothing is read of a part, nothing is read anywhere in its comment. -/
theorem nowhere_source (goes : GoesOn next) {part : BlockComment × CodeText} (contained : ContainedPart part)
    (unread : readPart next part = none) {rest : List Char} (starts : StartsPart rest) :
    Nowhere (docComment >>= next).Reads part.1.source (part.2.text ++ rest) := by
  obtain ⟨comment, code⟩ := part
  rw [nowhere_iff]
  rintro before here split nonempty ⟨value, left, read⟩
  obtain ⟨text, behind, read, later⟩ := bind_eq_some_iff.mp read
  obtain ⟨rfl, more, rfl⟩ | rfl | rfl := BlockComment.docComment_within split read nonempty
  · have whole : ['/', '*'] ++ comment.inside = before ++ (['/', '*', '*'] ++ more) := by
      have same : (['/', '*'] ++ comment.inside) ++ ['*', '/'] =
          (before ++ (['/', '*', '*'] ++ more)) ++ ['*', '/'] := by
        simpa [BlockComment.source] using split
      exact List.append_cancel_right same
    by_cases doc : comment.IsDoc
    · obtain ⟨other, another, found⟩ := goes.alike text comment.body _ ⟨value, left, later⟩
      rw [readPart, if_pos doc, Option.map_eq_none_iff] at unread
      rw [goes.append _ _ starts, unread] at found
      contradiction
    · obtain ⟨-, same⟩ | ⟨earlier, same⟩ := BlockComment.inside_cases whole
      · exact doc (by rw [BlockComment.IsDoc, same, List.head?_cons])
      · refine (contained.1.2.resolve_left doc) ⟨earlier, more, ?_⟩
        rw [same, List.append_assoc]
        rfl
  · exact contained.1.1 ⟨before, split.symm⟩
  · obtain ⟨more, rfl⟩ := CodeText.left_of_docComment contained.2 starts read
    exact goes.starless text more ⟨value, left, later⟩

/-- Of a part that is read, the search goes on behind it. -/
theorem findAll_part (goes : GoesOn next) {part : BlockComment × CodeText} (contained : ContainedPart part)
    {rest : List Char} (starts : StartsPart rest) :
    findAll (docComment >>= next) (partSource part ++ rest) =
      (readPart next part).toList ++ findAll (docComment >>= next) rest := by
  have uncommented : Nowhere (docComment >>= next).Reads part.2.text rest :=
    (part.2.nowhere_docComment starts).mono fun _ => commented_of_bind
  rw [partSource, List.append_assoc]
  cases read : readPart next part with
  | none =>
    rw [findAll_append_of_nowhere (goes.nowhere_source contained read starts), findAll_append_of_nowhere uncommented]
    rfl
  | some value =>
    rw [readPart] at read
    split at read
    · rename_i doc
      obtain ⟨⟨other, left⟩, found, rfl⟩ := Option.map_eq_some_iff.mp read
      obtain ⟨taken, split⟩ := (goes.stops _).leaves _ _ _ found
      have whole : (docComment >>= next) (part.1.source ++ (part.2.text ++ rest)) = some (other, left ++ rest) := by
        refine bind_eq_some_iff.mpr ⟨_, _, BlockComment.docComment_source doc _, ?_⟩
        rw [goes.append _ _ starts, found]
        rfl
      rw [← split, List.append_assoc, ← List.append_assoc] at whole ⊢
      rw [← split, nowhere_append] at uncommented
      rw [findAll_append_of_some (by simp [BlockComment.source]) whole, findAll_append_of_nowhere uncommented.2]
      rfl
    · contradiction

/-- In a text whose pieces are contained, the doc comments are read that the scan can go on from in the code behind
them, and no other text. -/
theorem findAll_source (goes : GoesOn next) {file : CommentedText} (contained : file.Contained) :
    findAll (docComment >>= next) file.source = file.parts.filterMap (readPart next) := by
  obtain ⟨opening, parts⟩ := file
  have uncommented : Nowhere (docComment >>= next).Reads opening.text (parts.flatMap partSource) :=
    (opening.nowhere_docComment (startsPart_flatMap parts)).mono fun _ => commented_of_bind
  rw [CommentedText.source, findAll_append_of_nowhere uncommented]
  clear uncommented
  induction parts with
  | nil => rfl
  | cons part parts ih =>
    rw [CommentedText.Contained, List.forall_mem_cons] at contained
    rw [List.flatMap_cons, goes.findAll_part contained.1 (startsPart_flatMap parts), ih contained.2]
    cases read : readPart next part with
    | none => rw [List.filterMap_cons_none read]; rfl
    | some value => rw [List.filterMap_cons_some read]; rfl

end GoesOn

end StoryCatalog.Source
