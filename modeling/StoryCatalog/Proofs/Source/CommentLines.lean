import StoryCatalog.Proofs.Source.Comment
import Mathlib.Data.List.Flatten

/-!
# The lines of a comment

The leader of a line may run over blank lines before it and over the end of the line. So blank lines go with the
leader behind them, and a star alone on its line takes the line's end with it. A comment says what its lines say
one by one exactly where no line that is lost so stands between two lines that keep something.
-/

namespace StoryCatalog.Source

open Text Scan

/-! ## One line -/

/-- A text without the blank that it may start with. -/
def afterBlank : List Char → List Char
  | [] => []
  | c :: rest => if isBlank c then rest else c :: rest

/-- A line without its leader: the blanks before a star, the star, and one blank behind it. A line that does not
start so stays as it is. -/
def withoutLeader (line : List Char) : List Char :=
  match line.dropWhile isBlank with
  | '*' :: rest => afterBlank rest
  | _ => line

/-- The first character of a text that is not blank is a star. -/
def Starred (text : List Char) : Prop :=
  ∃ gap rest, IsGap gap ∧ text = gap ++ '*' :: rest

theorem dropWhile_starred {gap : List Char} (blank : IsGap gap) (rest : List Char) :
    (gap ++ '*' :: rest).dropWhile isBlank = '*' :: rest := by
  rw [List.dropWhile_append_of_pos blank, List.dropWhile_cons_of_neg (by decide)]

theorem starred_iff {text : List Char} : Starred text ↔ (text.dropWhile isBlank).head? = some '*' := by
  constructor
  · rintro ⟨gap, rest, blank, rfl⟩
    rw [dropWhile_starred blank, List.head?_cons]
  · intro first
    obtain ⟨gap, behind, rfl, blank, stops⟩ := exists_run isBlank text
    rw [List.dropWhile_append_of_pos blank, stops_iff_dropWhile.mp stops] at first
    obtain ⟨rest, rfl⟩ := List.head?_eq_some_iff.mp first
    exact ⟨gap, rest, blank, rfl⟩

theorem withoutLeader_starred {gap : List Char} (blank : IsGap gap) (rest : List Char) :
    withoutLeader (gap ++ '*' :: rest) = afterBlank rest := by
  rw [withoutLeader, dropWhile_starred blank]
  rfl

theorem withoutLeader_of_not_starred {line : List Char} (plain : ¬Starred line) : withoutLeader line = line := by
  unfold withoutLeader
  split
  · next rest first => exact absurd (starred_iff.mpr (by rw [first, List.head?_cons])) plain
  · rfl

theorem leader_eq {gap : List Char} (blank : IsGap gap) (rest : List Char) :
    leader (gap ++ '*' :: rest) = some ((), afterBlank rest) := by
  have star : Stops isBlank ('*' :: rest) := (stops_cons ..).mpr (by decide)
  simp only [leader, bind_eq_some_iff, run_eq_some_iff, one_eq_some_iff, maybe_eq_some_iff, pure_eq_some_iff]
  refine ⟨gap, _, ⟨rfl, blank, star⟩, '*', rest, ⟨by decide, rfl⟩, ?_⟩
  cases rest with
  | nil => exact ⟨none, [], .inr ⟨rfl, rfl, rfl⟩, trivial, rfl⟩
  | cons c rest =>
    by_cases spaced : isBlank c = true
    · exact ⟨some c, rest, .inl ⟨c, rfl, spaced, rfl⟩, trivial, by rw [afterBlank, if_pos spaced]⟩
    · exact ⟨none, c :: rest, .inr ⟨rfl, rfl, if_neg spaced⟩, trivial, by rw [afterBlank, if_neg spaced]⟩

theorem leader_reads_iff {text : List Char} : leader.Reads text ↔ Starred text := by
  constructor
  · rintro ⟨_, rest, read⟩
    simp only [leader, bind_eq_some_iff, run_eq_some_iff, one_eq_some_iff, decide_eq_true_eq] at read
    obtain ⟨gap, _, ⟨rfl, blank, -⟩, _, behind, ⟨rfl, rfl⟩, -⟩ := read
    exact ⟨gap, behind, blank, rfl⟩
  · rintro ⟨gap, rest, blank, rfl⟩
    exact ⟨(), _, leader_eq blank rest⟩

/-! ## What is kept of a text -/

theorem unstarred_of_unread {text : List Char} (unread : leader text = none) :
    unstarred true text = unstarred false text := by
  cases text with
  | nil => rfl
  | cons c text => simp only [unstarred, atLineStartsAfter, unread]

theorem unstarred_of_read {taken rest : List Char} {last : Char}
    (read : leader (taken ++ last :: rest) = some ((), rest)) :
    unstarred true (taken ++ last :: rest) = unstarred (last = '\n') rest := by
  rw [unstarred, atLineStartsAfter_of_some read]
  rfl

/-- What follows a leader starts a line only where the leader has taken a line feed. -/
theorem unstarred_behind_star {gap : List Char} (blank : IsGap gap) (rest : List Char) :
    unstarred true (gap ++ '*' :: rest) =
      match rest with
      | [] => []
      | c :: more => if isBlank c then unstarred (c = '\n') more else unstarred false (c :: more) := by
  have read := leader_eq blank rest
  cases rest with
  | nil => exact unstarred_of_read read
  | cons c more =>
    dsimp only
    split_ifs with spaced
    · rw [afterBlank, if_pos spaced, List.append_cons] at read
      rw [List.append_cons]
      exact unstarred_of_read read
    · rw [afterBlank, if_neg spaced] at read
      exact unstarred_of_read read

/-- Blanks before a leader are lost with it, whether they are in its line or fill lines before it. -/
theorem unstarred_gap_append {gap text : List Char} (blank : IsGap gap) (starred : Starred text) :
    unstarred true (gap ++ text) = unstarred true text := by
  obtain ⟨inner, rest, innerBlank, rfl⟩ := starred
  have both : IsGap (gap ++ inner) := List.forall_mem_append.mpr ⟨blank, innerBlank⟩
  rw [← List.append_assoc, unstarred_behind_star both, unstarred_behind_star innerBlank]

/-- Behind a star that does not end its line, the line goes on. -/
theorem unstarred_starred_line {gap line : List Char} (blank : IsGap gap) (one_line : '\n' ∉ line)
    (nonempty : line ≠ []) (rest : List Char) :
    unstarred true (gap ++ '*' :: (line ++ rest)) = afterBlank line ++ unstarred false rest := by
  rw [unstarred_behind_star blank]
  cases line with
  | nil => contradiction
  | cons c line =>
    rw [List.mem_cons, not_or] at one_line
    have within : decide (c = '\n') = false := decide_eq_false (Ne.symm one_line.1)
    rw [List.cons_append, afterBlank]
    dsimp only
    split_ifs with spaced
    · rw [within, unstarred_line one_line.2]
    · rw [← List.cons_append, unstarred_line (by simpa using one_line)]

/-! ## One line after the other -/

/-- The lines behind a line, each behind its line feed. -/
def lineTail (lines : List (List Char)) : List Char :=
  lines.flatMap ('\n' :: ·)

theorem join_eq_append (line : List Char) (lines : List (List Char)) :
    join ['\n'] (line :: lines) = line ++ lineTail lines :=
  join_cons ['\n'] line lines

theorem lineTail_of_ne_nil {lines : List (List Char)} (nonempty : lines ≠ []) :
    lineTail lines = '\n' :: join ['\n'] lines := by
  cases lines with
  | nil => contradiction
  | cons line lines => rw [join_eq_append, lineTail, List.flatMap_cons, List.cons_append, lineTail]

/-- Whether the first line that is not blank starts with a leader. -/
def leaderFollows : List (List Char) → Bool
  | [] => false
  | line :: lines => if line.all isBlank then leaderFollows lines else (line.dropWhile isBlank).head? = some '*'

/-- Whether a line is lost with what follows it: a blank line goes with a leader that follows, and a star alone
takes the line feed behind it. -/
def vanishes (line : List Char) (after : List (List Char)) : Bool :=
  if line.all isBlank then leaderFollows after else line.dropWhile isBlank = ['*'] && !after.isEmpty

/-- The lines that are left, without their leaders. -/
def keptLines : List (List Char) → List (List Char)
  | [] => []
  | line :: after => if vanishes line after then keptLines after else withoutLeader line :: keptLines after

theorem leaderFollows_iff {lines : List (List Char)} :
    leaderFollows lines = true ↔ Starred (join ['\n'] lines) := by
  rw [starred_iff]
  induction lines with
  | nil => simp [leaderFollows, join]
  | cons line lines ih =>
    rw [leaderFollows, join_eq_append, List.dropWhile_append]
    have first : (line.dropWhile isBlank).isEmpty = line.all isBlank := by
      rw [Bool.eq_iff_iff, List.isEmpty_iff, List.dropWhile_eq_nil_iff, List.all_eq_true]
    rw [first]
    split_ifs with blank
    · rw [ih]
      cases lines with
      | nil => rfl
      | cons next lines =>
        rw [lineTail_of_ne_nil (List.cons_ne_nil _ _), List.dropWhile_cons_of_pos (by decide)]
    · have nonempty : line.dropWhile isBlank ≠ [] := fun empty => blank (by rw [← first, empty, List.isEmpty_nil])
      rw [List.head?_append_of_ne_nil _ nonempty, decide_eq_true_eq]

theorem vanishes_of_isGap {line : List Char} (blank : IsGap line) (after : List (List Char)) :
    vanishes line after = leaderFollows after := by
  rw [vanishes, if_pos (List.all_eq_true.mpr blank)]

theorem vanishes_starred {gap : List Char} (blank : IsGap gap) (rest : List Char) (after : List (List Char)) :
    vanishes (gap ++ '*' :: rest) after = (rest.isEmpty && !after.isEmpty) := by
  have star : ¬(gap ++ '*' :: rest).all isBlank = true := fun all =>
    absurd (List.all_eq_true.mp all '*' (by simp)) (by decide)
  rw [vanishes, if_neg star, dropWhile_starred blank]
  cases rest <;> simp

theorem vanishes_of_solid {line : List Char} (solid : ¬IsGap line) (plain : ¬Starred line)
    (after : List (List Char)) : vanishes line after = false := by
  have other : line.dropWhile isBlank ≠ ['*'] := fun bare => plain (starred_iff.mpr (by rw [bare, List.head?_cons]))
  rw [vanishes, if_neg (solid ∘ List.all_eq_true.mp), decide_eq_false other, Bool.false_and]

theorem keptLines_of_vanishes {line : List Char} {after : List (List Char)} (lost : vanishes line after = true) :
    keptLines (line :: after) = keptLines after := by
  rw [keptLines, if_pos lost]

theorem keptLines_of_not_vanishes {line : List Char} {after : List (List Char)} (kept : vanishes line after = false) :
    keptLines (line :: after) = withoutLeader line :: keptLines after := by
  rw [keptLines, kept, if_neg Bool.false_ne_true]

/-- The last line is never lost. -/
theorem keptLines_ne_nil {lines : List (List Char)} (nonempty : lines ≠ []) : keptLines lines ≠ [] := by
  induction lines with
  | nil => contradiction
  | cons line lines ih =>
    cases lost : vanishes line lines with
    | false =>
      rw [keptLines_of_not_vanishes lost]
      exact List.cons_ne_nil _ _
    | true =>
      rw [keptLines_of_vanishes lost]
      cases lines with
      | nil => simp [vanishes, leaderFollows] at lost
      | cons next lines => exact ih (List.cons_ne_nil _ _)

section Behind

variable {line : List Char} {after : List (List Char)} (one_line : '\n' ∉ line)
  (ih : after ≠ [] → unstarred true (join ['\n'] after) = join ['\n'] (keptLines after))
include ih

theorem unstarred_lineTail : unstarred false (lineTail after) = lineTail (keptLines after) := by
  by_cases last : after = []
  · rw [last]
    rfl
  · rw [lineTail_of_ne_nil last, lineTail_of_ne_nil (keptLines_ne_nil last), ← ih last]
    rfl

/-- Blank lines are lost only with a leader that follows. -/
theorem unstarred_join_blank (blank : IsGap line) (follows : leaderFollows after = true) :
    unstarred true (join ['\n'] (line :: after)) = join ['\n'] (keptLines (line :: after)) := by
  have more : after ≠ [] := by
    rintro rfl
    contradiction
  have gap : IsGap (line ++ ['\n']) :=
    List.forall_mem_append.mpr ⟨blank, List.forall_mem_singleton.mpr (by decide)⟩
  rw [keptLines_of_vanishes ((vanishes_of_isGap blank after).trans follows), ← ih more, join_eq_append,
    lineTail_of_ne_nil more, List.append_cons]
  exact unstarred_gap_append gap (leaderFollows_iff.mp follows)

include one_line

/-- A line with a leader loses it, and its own end if nothing is between. -/
theorem unstarred_join_starred (starred : Starred line) :
    unstarred true (join ['\n'] (line :: after)) = join ['\n'] (keptLines (line :: after)) := by
  obtain ⟨gap, rest, blank, rfl⟩ := starred
  have lost := vanishes_starred blank rest after
  by_cases bare : rest = [] ∧ after ≠ []
  · obtain ⟨rfl, more⟩ := bare
    have some : after.isEmpty = false := by simpa using more
    rw [some] at lost
    rw [keptLines_of_vanishes lost, ← ih more, join_eq_append, lineTail_of_ne_nil more, List.append_assoc,
      List.singleton_append, unstarred_behind_star blank]
    rfl
  · have kept : vanishes (gap ++ '*' :: rest) after = false := by
      rw [lost, Bool.eq_false_iff]
      simpa using bare
    rw [keptLines_of_not_vanishes kept, withoutLeader_starred blank, join_eq_append, join_eq_append,
      List.append_assoc, List.cons_append, ← unstarred_lineTail ih]
    by_cases empty : rest = []
    · have last : after = [] := by simpa [empty] using bare
      rw [empty, last, unstarred_behind_star blank]
      rfl
    · have within : '\n' ∉ rest := fun member => one_line (by simp [member])
      exact unstarred_starred_line blank within empty _

/-- A line that no leader starts in comes out as it is. -/
theorem unstarred_join_plain (plain : ¬Starred line) (none : leaderFollows (line :: after) = false)
    (kept : vanishes line after = false) :
    unstarred true (join ['\n'] (line :: after)) = join ['\n'] (keptLines (line :: after)) := by
  have unread : leader (join ['\n'] (line :: after)) = .none := by
    rw [← not_reads_iff, leader_reads_iff, ← leaderFollows_iff, none]
    exact Bool.false_ne_true
  rw [keptLines_of_not_vanishes kept, unstarred_of_unread unread, join_eq_append, join_eq_append,
    unstarred_line one_line, unstarred_lineTail ih, withoutLeader_of_not_starred plain]

end Behind

/-- The text of a comment is made of the lines that are left. -/
theorem unstarred_join {lines : List (List Char)} (nonempty : lines ≠ []) (one_line : ∀ line ∈ lines, '\n' ∉ line) :
    unstarred true (join ['\n'] lines) = join ['\n'] (keptLines lines) := by
  induction lines with
  | nil => contradiction
  | cons line after ih =>
    rw [List.forall_mem_cons] at one_line
    have later (more : after ≠ []) := ih more one_line.2
    by_cases starred : Starred line
    · exact unstarred_join_starred one_line.1 later starred
    · by_cases blank : IsGap line
      · have same : leaderFollows (line :: after) = leaderFollows after := by
          rw [leaderFollows, if_pos (List.all_eq_true.mpr blank)]
        cases follows : leaderFollows after with
        | true => exact unstarred_join_blank later blank follows
        | false =>
          exact unstarred_join_plain one_line.1 later starred (same.trans follows)
            ((vanishes_of_isGap blank after).trans follows)
      · have none : leaderFollows (line :: after) = false := by
          rw [leaderFollows, if_neg (blank ∘ List.all_eq_true.mp), decide_eq_false (starred ∘ starred_iff.mpr)]
        exact unstarred_join_plain one_line.1 later starred none (vanishes_of_solid blank starred after)

theorem stripComment_eq_keptLines (body : List Char) :
    stripComment body = trim (join ['\n'] (keptLines (split '\n' body))) := by
  have kept := unstarred_join (split_ne_nil '\n' body) fun _ => not_mem_of_mem_split
  rw [join_split] at kept
  rw [stripComment_eq, kept]

/-! ## Lines that are lost between others -/

/-- Nothing that a line keeps is lost. -/
theorem isGap_of_vanishes {line : List Char} {after : List (List Char)} (lost : vanishes line after = true) :
    IsGap (withoutLeader line) := by
  by_cases starred : Starred line
  · obtain ⟨gap, rest, blank, rfl⟩ := starred
    rw [vanishes_starred blank, Bool.and_eq_true, List.isEmpty_iff] at lost
    rw [withoutLeader_starred blank, lost.1]
    exact isGap_nil
  · rw [withoutLeader_of_not_starred starred]
    by_contra solid
    rw [vanishes_of_solid solid starred] at lost
    contradiction

theorem isGap_lineTail_iff {lines : List (List Char)} : IsGap (lineTail lines) ↔ ∀ line ∈ lines, IsGap line := by
  induction lines with
  | nil => simp [lineTail]
  | cons line lines ih =>
    rw [List.forall_mem_cons, ← ih, lineTail, List.flatMap_cons, List.cons_append, isGap_cons]
    simp only [IsGap, List.forall_mem_append]
    exact and_iff_right (by decide)

theorem isGap_keptLines_iff {lines : List (List Char)} :
    IsGap (lineTail (keptLines lines)) ↔ ∀ line ∈ lines, IsGap (withoutLeader line) := by
  rw [isGap_lineTail_iff]
  induction lines with
  | nil => simp [keptLines]
  | cons line lines ih =>
    rw [List.forall_mem_cons]
    cases lost : vanishes line lines with
    | false => rw [keptLines_of_not_vanishes lost, List.forall_mem_cons, ih]
    | true => rw [keptLines_of_vanishes lost, ih, and_iff_right (isGap_of_vanishes lost)]

/-- Blanks are left of the lines where blanks are all there is. -/
theorem isGap_tails_iff {lines : List (List Char)} :
    IsGap (lineTail (keptLines lines)) ↔ IsGap (lineTail (lines.map withoutLeader)) := by
  rw [isGap_keptLines_iff, isGap_lineTail_iff, List.forall_mem_map]

theorem keptLines_sublist (lines : List (List Char)) : (keptLines lines).Sublist (lines.map withoutLeader) := by
  induction lines with
  | nil => exact List.Sublist.slnil
  | cons line lines ih =>
    rw [keptLines, List.map_cons]
    split_ifs
    · exact ih.cons _
    · exact ih.cons_cons _

theorem trim_lineTail (lines : List (List Char)) : trim (lineTail lines) = trim (join ['\n'] lines) := by
  by_cases none : lines = []
  · rw [none]
    rfl
  · have feed : IsGap ['\n'] := List.forall_mem_singleton.mpr (by decide)
    rw [lineTail_of_ne_nil none, ← List.singleton_append, trim_gap_append feed]

/-- Every way to single out an element: the first one, or one of the others. -/
theorem forall_split_cons {α : Type} {P : List α → α → List α → Prop} {first : α} {items : List α} :
    (∀ before item after, first :: items = before ++ item :: after → P before item after) ↔
      P [] first items ∧ ∀ before item after, items = before ++ item :: after → P (first :: before) item after := by
  constructor
  · intro every
    refine ⟨every [] first items rfl, fun before item after split => every (first :: before) item after ?_⟩
    rw [split, List.cons_append]
  · rintro ⟨here, later⟩ before item after split
    cases before with
    | nil =>
      obtain ⟨rfl, rfl⟩ := List.cons.inj split
      exact here
    | cons other before =>
      obtain ⟨rfl, rest⟩ := List.cons.inj split
      exact later before item after rest

/-- Up to blanks at the end, the lines that are left are all lines exactly where none is lost before one that
keeps something. -/
theorem dropEnd_keptLines_iff {lines : List (List Char)} :
    dropEnd isBlank (lineTail (keptLines lines)) = dropEnd isBlank (lineTail (lines.map withoutLeader)) ↔
      ∀ before line after, lines = before ++ line :: after → vanishes line after = true →
        ∀ other ∈ after, IsGap (withoutLeader other) := by
  induction lines with
  | nil => exact iff_of_true rfl (by simp)
  | cons line lines ih =>
    have all : lineTail ((line :: lines).map withoutLeader) =
        ('\n' :: withoutLeader line) ++ lineTail (lines.map withoutLeader) := rfl
    rw [forall_split_cons, all]
    cases lost : vanishes line lines with
    | false =>
      have kept : lineTail (withoutLeader line :: keptLines lines) =
          ('\n' :: withoutLeader line) ++ lineTail (keptLines lines) := rfl
      rw [keptLines_of_not_vanishes lost, kept, dropEnd_append_inj isGap_tails_iff, ih, and_iff_right]
      exact fun other => absurd other Bool.false_ne_true
    | true =>
      rw [keptLines_of_vanishes lost]
      by_cases blank : ∀ other ∈ lines, IsGap (withoutLeader other)
      · have keptBlank := isGap_keptLines_iff.mpr blank
        have lineBlank : IsGap ('\n' :: withoutLeader line) :=
          (isGap_cons ..).mpr ⟨by decide, isGap_of_vanishes lost⟩
        refine iff_of_true ?_ ⟨fun _ => blank, ?_⟩
        · rw [dropEnd_append_of_forall (isGap_tails_iff.mp keptBlank), dropEnd_of_forall keptBlank,
            dropEnd_of_forall lineBlank]
        · rintro before item after rfl - other member
          exact blank other (by simp [member])
      · have solid : ¬IsGap (lineTail (lines.map withoutLeader)) := by
          rwa [← isGap_tails_iff, isGap_keptLines_iff]
        refine iff_of_false ?_ fun every => blank (every.1 rfl)
        -- The lost line's feed is missing, whatever else is lost.
        intro same
        have shorter : (dropEnd isBlank (lineTail (keptLines lines))).length ≤
            (dropEnd isBlank (lineTail (lines.map withoutLeader))).length :=
          length_dropEnd_le_of_sublist ((keptLines_sublist lines).flatMap ('\n' :: ·))
        have lengths := congrArg List.length same
        rw [dropEnd_append_of_not_forall solid, List.length_append, List.length_cons] at lengths
        omega

/-- A comment says what its lines say one by one exactly where no line is lost between two lines that keep
something. -/
theorem stripComment_linewise_iff (body : List Char) :
    stripComment body = trim (join ['\n'] ((split '\n' body).map withoutLeader)) ↔
      ∀ before line after, split '\n' body = before ++ line :: after → vanishes line after = true →
        (∀ other ∈ before, IsGap (withoutLeader other)) ∨ ∀ other ∈ after, IsGap (withoutLeader other) := by
  rw [stripComment_eq_keptLines]
  generalize split '\n' body = lines
  induction lines with
  | nil => exact iff_of_true rfl (by simp)
  | cons line lines ih =>
    rw [forall_split_cons, List.map_cons, join_eq_append]
    by_cases blank : IsGap (withoutLeader line)
    · have kept : trim (join ['\n'] (keptLines (line :: lines))) = trim (join ['\n'] (keptLines lines)) := by
        cases lost : vanishes line lines with
        | false => rw [keptLines_of_not_vanishes lost, join_eq_append, trim_gap_append blank, trim_lineTail]
        | true => rw [keptLines_of_vanishes lost]
      rw [kept, trim_gap_append blank, trim_lineTail, ih]
      simp only [List.forall_mem_cons, blank, true_and, List.not_mem_nil, false_imp_iff, implies_true, true_or]
    · have kept : vanishes line lines = false := Bool.eq_false_iff.mpr fun lost => blank (isGap_of_vanishes lost)
      have solid : ¬((withoutLeader line).dropWhile isBlank).isEmpty = true := by
        rw [List.isEmpty_iff, List.dropWhile_eq_nil_iff]
        exact blank
      rw [keptLines_of_not_vanishes kept, join_eq_append, trim, trim, List.dropWhile_append, List.dropWhile_append,
        if_neg solid, if_neg solid, dropEnd_append_inj isGap_tails_iff, dropEnd_keptLines_iff]
      simp only [List.forall_mem_cons, blank, false_and, false_or, kept, Bool.false_eq_true, false_imp_iff, true_and]

/-- The star between two paragraphs is lost with its line, and so is the paragraphs' distance. -/
theorem paragraphs_run_together :
    ¬['*', '/'] <:+: "* One.\n *\n * Two.".toList ∧
      stripComment "* One.\n *\n * Two.".toList = "One.\nTwo.".toList ∧
      trim (join ['\n'] ((split '\n' "* One.\n *\n * Two.".toList).map withoutLeader)) = "One.\n\nTwo.".toList := by
  refine ⟨cut?_eq_none_iff.mp ?_, ?_, ?_⟩
  · decide
  · decide
  · decide

end StoryCatalog.Source
