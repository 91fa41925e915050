import StoryCatalog.Proofs.Source.Token
import StoryCatalog.Proofs.Text.Split
import StoryCatalog.Proofs.Text.Trim
import StoryCatalog.Source.Comment

/-!
# Doc comments

A doc comment ends at its first star and slash, whatever follows. One that is written in lines, each behind a
star, gives its lines back: the leaders of the lines are taken off, and nothing else.
-/

namespace StoryCatalog.Source

open Text Scan

theorem docComment_eq_some_iff {text comment rest : List Char} :
    docComment text = some (comment, rest) ↔
      ∃ body, text = "/**".toList ++ (body ++ ("*/".toList ++ rest)) ∧
        Nowhere (literal "*/").Reads body "*/".toList ∧ trim body = comment := by
  simp only [docComment, bind_eq_some_iff, literal_eq_some_iff, upTo_eq_some_iff, Prod.exists, pure_eq_some_iff]
  constructor
  · rintro ⟨-, _, rfl, body, -, _, ⟨_, rfl, rfl, nowhere⟩, same, rfl⟩
    exact ⟨body, rfl, (nowhere_literal_append ..).mp nowhere, same⟩
  · rintro ⟨body, rfl, nowhere, same⟩
    exact ⟨(), _, rfl, body, (), rest, ⟨_, rfl, rfl, (nowhere_literal_append ..).mpr nowhere⟩, same, rfl⟩

/-- What follows a doc comment does not matter to it. -/
theorem docComment_append {text comment rest : List Char} (read : docComment text = some (comment, rest))
    (more : List Char) : docComment (text ++ more) = some (comment, rest ++ more) := by
  obtain ⟨body, rfl, nowhere, same⟩ := docComment_eq_some_iff.mp read
  exact docComment_eq_some_iff.mpr ⟨body, by simp only [List.append_assoc], nowhere, same⟩

/-- A doc comment starts with a slash and two stars. -/
theorem starred_of_docComment {text : List Char} (read : docComment.Reads text) : "/**".toList <+: text := by
  obtain ⟨comment, rest, read⟩ := read
  obtain ⟨body, rfl, -, -⟩ := docComment_eq_some_iff.mp read
  exact List.prefix_append ..

/-- What is read from a doc comment on starts with one. -/
theorem commented_of_bind {α : Type} {next : List Char → Scan α} {text : List Char}
    (read : (docComment >>= next).Reads text) : docComment.Reads text := by
  obtain ⟨value, rest, read⟩ := read
  obtain ⟨comment, left, read, -⟩ := bind_eq_some_iff.mp read
  exact ⟨comment, left, read⟩

theorem nowhere_docComment_of_no_slash {before : List Char} (absent : '/' ∉ before) (here : List Char) :
    Nowhere docComment.Reads before here :=
  nowhere_of_not_mem (fun _ _ read => (List.cons_prefix_cons.mp (starred_of_docComment read)).1.symm) absent here

/-- No doc comment starts in a text that holds no start of a comment, where no star follows it. -/
theorem nowhere_docComment_of_unopened {before here : List Char} (unopened : ¬['/', '*'] <:+: before)
    (stops : Stops (· = '*') here) : Nowhere docComment.Reads before here :=
  (nowhere_pair unopened fun _ => stops).mono fun _ read =>
    (List.prefix_append ['/', '*'] ['*']).trans (starred_of_docComment read)

theorem nowhere_docComment_of_no_star {before here : List Char} (absent : '*' ∉ before)
    (stops : Stops (· = '*') here) : Nowhere docComment.Reads before here :=
  nowhere_docComment_of_unopened (fun found => absent (found.mem (by simp))) stops

/-- A comment does not end in a text that holds no end of one, unless the text ends with a star before a slash. -/
theorem nowhere_commentEnd {text here : List Char} (unclosed : ¬['*', '/'] <:+: text)
    (apart : text.getLast? = some '*' → Stops (· = '/') here) : Nowhere (literal "*/").Reads text here :=
  (nowhere_pair unclosed apart).mono fun _ => literal_reads_iff.mp

/-- A comment in one line says what stands between its blanks. -/
theorem docComment_spaced {text : List Char} (starless : '*' ∉ text) (trimmed : trim text = text) (rest : List Char) :
    docComment ("/**".toList ++ ((' ' :: text ++ [' ']) ++ ("*/".toList ++ rest))) = some (text, rest) := by
  have spaced : '*' ∉ ' ' :: text ++ [' '] := by simpa using starless
  exact docComment_eq_some_iff.mpr ⟨_, rfl, nowhere_literal_of_not_mem '*' rfl spaced _, trim_spaced trimmed⟩

/-! ## Comments in lines -/

/-- A line of a doc comment. -/
structure CommentLine where
  text : List Char
  text_ne : text ≠ []
  trimmed : trim text = text
  one_line : '\n' ∉ text
  no_star : '*' ∉ text

/-- The line behind its star, on a line of its own. -/
def CommentLine.starred (line : CommentLine) : List Char :=
  "\n   * ".toList ++ line.text

theorem CommentLine.starred_eq (line : CommentLine) : line.starred = "\n   * ".toList ++ line.text := rfl

/-- The text between the comment's first two stars and its last one. -/
def commentBody (lines : List CommentLine) : List Char :=
  lines.flatMap CommentLine.starred ++ "\n   ".toList

/-- The lines of the comment, a line feed between each two. -/
def commentText (lines : List CommentLine) : List Char :=
  join ['\n'] (lines.map CommentLine.text)

theorem CommentLine.stops_reverse_append (line : CommentLine) (before : List Char) :
    Stops isBlank (before ++ line.text).reverse := by
  have last : Stops isBlank line.text.reverse := (trim_eq_self_iff.mp line.trimmed).2
  rw [List.reverse_append]
  exact last.append (by simpa using line.text_ne) _

theorem nowhere_commentBody (lines : List CommentLine) :
    Nowhere (literal "*/").Reads (commentBody lines) "*/".toList := by
  rw [commentBody, nowhere_append]
  refine ⟨?_, nowhere_literal_of_not_mem '*' (by decide) (by decide) _⟩
  generalize "\n   ".toList ++ "*/".toList = here
  induction lines with
  | nil => exact nowhere_nil ..
  | cons line lines ih =>
    have split : line.starred = "\n   ".toList ++ '*' :: (' ' :: line.text) := rfl
    have unstarred : '*' ∉ ' ' :: line.text := by
      rw [List.mem_cons, not_or]
      exact ⟨by decide, line.no_star⟩
    rw [List.flatMap_cons, nowhere_append, split, nowhere_append, nowhere_cons]
    refine ⟨⟨nowhere_literal_of_not_mem '*' (by decide) (by decide) _, ?_,
      nowhere_literal_of_not_mem '*' (by decide) unstarred _⟩, ih⟩
    -- The star of a line has a blank behind it.
    intro read
    obtain ⟨-, read⟩ := List.cons_prefix_cons.mp (literal_reads_iff.mp read)
    exact absurd (List.cons_prefix_cons.mp read).1 (by decide)

theorem docComment_commentBody (lines : List CommentLine) (rest : List Char) :
    docComment ("/**".toList ++ (commentBody lines ++ ("*/".toList ++ rest))) =
      some (trim (commentBody lines), rest) :=
  docComment_eq_some_iff.mpr ⟨_, rfl, nowhere_commentBody lines, rfl⟩

theorem leader_star {gap : List Char} (blank : IsGap gap) (rest : List Char) :
    leader (gap ++ '*' :: ' ' :: rest) = some ((), rest) := by
  have star : Stops isBlank ('*' :: ' ' :: rest) := (stops_cons ..).mpr (by decide)
  simp only [leader, bind_eq_some_iff, run_eq_some_iff, one_eq_some_iff, maybe_eq_some_iff, pure_eq_some_iff]
  exact ⟨gap, _, ⟨rfl, blank, star⟩, '*', _, ⟨by decide, rfl⟩, some ' ', rest,
    .inl ⟨' ', rfl, by decide, rfl⟩, trivial, rfl⟩

/-- What is kept of a text that starts with a line's start or within a line. -/
def unstarred (start : Bool) (text : List Char) : List Char :=
  (atLineStartsAfter leader start 0 text).filterMap Sum.getLeft?

theorem stripComment_eq (body : List Char) : stripComment body = trim (unstarred true body) := by
  refine congrArg trim (List.filterMap_congr fun piece _ => ?_)
  cases piece with
  | inl c => rfl
  | inr read => rfl

/-- Without a star no line has a leader. -/
theorem unstarred_of_no_star {text : List Char} (absent : '*' ∉ text) (start : Bool) :
    unstarred start text = text := by
  induction text generalizing start with
  | nil => cases start <;> rfl
  | cons c text ih =>
    have unread : leader (c :: text) = none := by
      rw [Option.eq_none_iff_forall_ne_some]
      rintro ⟨_, rest⟩ read
      simp only [leader, bind_eq_some_iff, run_eq_some_iff, one_eq_some_iff, decide_eq_true_eq] at read
      obtain ⟨gap, _, ⟨split, -⟩, _, _, ⟨rfl, rfl⟩, -⟩ := read
      exact absent (split ▸ List.mem_append_right _ (List.mem_cons_self ..))
    rw [List.mem_cons, not_or] at absent
    have kept : unstarred start (c :: text) = c :: unstarred (c = '\n') text := by
      cases start with
      | false => rfl
      | true =>
        simp only [unstarred, atLineStartsAfter, unread]
        rfl
    rw [kept, ih absent.2]

theorem stripComment_of_no_star {body : List Char} (absent : '*' ∉ body) : stripComment body = trim body := by
  rw [stripComment_eq, unstarred_of_no_star absent]

theorem unstarred_star {gap : List Char} (blank : IsGap gap) (rest : List Char) :
    unstarred true (gap ++ '*' :: ' ' :: rest) = unstarred false rest := by
  have split : gap ++ '*' :: ' ' :: rest = (gap ++ ['*']) ++ ' ' :: rest := by simp
  have read := leader_star blank rest
  rw [split] at read ⊢
  rw [unstarred, atLineStartsAfter_of_some read]
  rfl

theorem unstarred_line {line : List Char} (one_line : '\n' ∉ line) (rest : List Char) :
    unstarred false (line ++ rest) = line ++ unstarred false rest := by
  rw [unstarred, atLineStartsAfter_line one_line, List.filterMap_append, List.filterMap_map]
  congr 1
  exact List.filterMap_some

theorem unstarred_lines (lines : List CommentLine) :
    unstarred false (lines.flatMap CommentLine.starred) = lines.flatMap fun line => '\n' :: line.text := by
  induction lines with
  | nil => rfl
  | cons line lines ih =>
    have split : line.starred ++ lines.flatMap CommentLine.starred =
        '\n' :: ("   ".toList ++ '*' :: ' ' :: (line.text ++ lines.flatMap CommentLine.starred)) := rfl
    have blank : IsGap "   ".toList := by simp; decide
    have feed (rest : List Char) : unstarred false ('\n' :: rest) = '\n' :: unstarred true rest := rfl
    rw [List.flatMap_cons, split, feed, unstarred_star blank, unstarred_line line.one_line, ih,
      List.flatMap_cons, List.cons_append]

theorem trim_commentText (lines : List CommentLine) : trim (commentText lines) = commentText lines := by
  cases lines with
  | nil => rfl
  | cons line lines =>
    rw [commentText, List.map_cons, join_cons, List.flatMap_map, trim_eq_self_iff]
    refine ⟨(trim_eq_self_iff.mp line.trimmed).1.append line.text_ne _,
      stops_reverse_flatMap line.text_ne (line.stops_reverse_append []) ?_ ?_⟩
    · exact fun other _ => List.append_ne_nil_of_right_ne_nil _ other.text_ne
    · exact fun other _ => other.stops_reverse_append _

/-- The lines of a comment are what it says. -/
theorem stripComment_commentBody (lines : List CommentLine) :
    stripComment (trim (commentBody lines)) = commentText lines := by
  have blank : IsGap "\n   ".toList := by simp; decide
  cases lines with
  | nil => rfl
  | cons line lines =>
    have inner : trim (commentBody (line :: lines)) =
        "* ".toList ++ line.text ++ lines.flatMap CommentLine.starred := by
      have split : commentBody (line :: lines) =
          "\n   ".toList ++ ("* ".toList ++ line.text ++ lines.flatMap CommentLine.starred) ++ "\n   ".toList := by
        have starred : line.starred = "\n   ".toList ++ ("* ".toList ++ line.text) := rfl
        simp only [commentBody, List.flatMap_cons, starred, List.append_assoc]
      rw [split, trim_append_gap blank, trim_gap_append blank, trim_eq_self_iff]
      refine ⟨(stops_cons ..).mpr (by decide), stops_reverse_flatMap ?_ ?_ ?_ ?_⟩
      · exact List.append_ne_nil_of_right_ne_nil _ line.text_ne
      · exact line.stops_reverse_append _
      · exact fun other _ => List.append_ne_nil_of_right_ne_nil _ other.text_ne
      · exact fun other _ => other.stops_reverse_append _
    have kept : unstarred true ("* ".toList ++ line.text ++ lines.flatMap CommentLine.starred) =
        commentText (line :: lines) := by
      have read := unstarred_star isGap_nil (line.text ++ lines.flatMap CommentLine.starred)
      rw [unstarred_line line.one_line, unstarred_lines] at read
      rw [commentText, List.map_cons, join_cons, List.flatMap_map]
      exact read
    rw [inner, stripComment_eq, kept, trim_commentText]

end StoryCatalog.Source
