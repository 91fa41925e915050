import StoryCatalog.Proofs.Source.Token
import StoryCatalog.Story.Examples
import StoryCatalog.Story.Record
import Mathlib.Data.List.Basic

/-!
# Args blocks

A body may open several args blocks. The code of a story is shown with the first that also closes, and
its record is made from the last that is not empty and opens before anything closes. Both are described
here by where they stand, without a scan.
-/

namespace StoryCatalog.Story

open Text Scan Source

/-- The text starts with an args block; `block` is what stands in it, up to the first closing brace. -/
inductive OpensArgs : List Char → List Char → Prop
  | mk {gap block rest : List Char} (blank : IsGap gap) (closed : '}' ∉ block) :
      OpensArgs ("args:".toList ++ (gap ++ '{' :: (block ++ '}' :: rest))) block

/-- The first args block of a text. -/
def FirstArgs (text block : List Char) : Prop :=
  ∃ before here, text = before ++ here ∧ OpensArgs here block ∧
    Nowhere (fun later => ∃ other, OpensArgs later other) before here

/-- The last args block of a text that is not empty and opens before any closing brace. -/
def LastArgs (text block : List Char) : Prop :=
  ∃ before here, text = before ++ here ∧ '}' ∉ before ∧ OpensArgs here block ∧ block ≠ [] ∧
    ∀ more back other, here = more ++ back → more ≠ [] → '}' ∉ more → OpensArgs back other → other = []

/-! ## The first block -/

theorem argsBlock_eq_some_iff {text block rest : List Char} :
    argsBlock text = some (block, rest) ↔
      ∃ gap, IsGap gap ∧ text = "args:".toList ++ (gap ++ '{' :: (block ++ '}' :: rest)) ∧ '}' ∉ block := by
  simp only [argsBlock, bind_eq_some_iff, literal_eq_some_iff, blanks_eq_some_iff, openBrace_eq_some_iff,
    throughBrace_eq_some_iff]
  constructor
  · rintro ⟨-, _, rfl, -, _, ⟨gap, rfl, blank, -⟩, -, _, rfl, rfl, closed⟩
    exact ⟨gap, blank, rfl, closed⟩
  · rintro ⟨gap, blank, rfl, closed⟩
    exact ⟨(), _, rfl, (), _, ⟨gap, rfl, blank, (stops_cons ..).mpr (by decide)⟩, (), _, rfl, rfl, closed⟩

theorem argsBlock_reads_iff {text block : List Char} :
    (∃ rest, argsBlock text = some (block, rest)) ↔ OpensArgs text block := by
  simp only [argsBlock_eq_some_iff]
  constructor
  · rintro ⟨rest, gap, blank, rfl, closed⟩
    exact .mk blank closed
  · intro opened
    cases opened with
    | mk blank closed => exact ⟨_, _, blank, rfl, closed⟩

theorem findFirst?_argsBlock {text block : List Char} :
    findFirst? argsBlock text = some block ↔ FirstArgs text block := by
  have same (here : List Char) : argsBlock.Reads here ↔ ∃ other, OpensArgs here other :=
    exists_congr fun _ => argsBlock_reads_iff
  simp only [findFirst?_eq_some_iff, FirstArgs, nowhere_congr same, ← argsBlock_reads_iff]
  constructor
  · rintro ⟨before, here, rest, split, read, nowhere⟩
    exact ⟨before, here, split, ⟨rest, read⟩, nowhere⟩
  · rintro ⟨before, here, split, ⟨rest, read⟩, nowhere⟩
    exact ⟨before, here, rest, split, read, nowhere⟩

theorem findFirst?_argsBlock_eq_none {text : List Char} :
    findFirst? argsBlock text = none ↔ ∀ block, ¬FirstArgs text block := by
  simp only [Option.eq_none_iff_forall_ne_some, ne_eq, findFirst?_argsBlock]

theorem FirstArgs.unique {text block other : List Char} (first : FirstArgs text block)
    (second : FirstArgs text other) : block = other := by
  have found := findFirst?_argsBlock.mpr first
  rw [findFirst?_argsBlock.mpr second] at found
  exact (Option.some.inj found).symm

/-! ## The last block -/

/-- An args block with something in it, as the record of a story reads it. -/
def filledArgs : Scan (List Char) := do
  Scan.literal "args:"
  blanks
  openBrace
  let body ← Scan.run1 (· ≠ '}')
  closeBrace
  return body

theorem innerArgs_nil : innerArgs [] = filledArgs [] := rfl

theorem innerArgs_cons (c : Char) (text : List Char) :
    innerArgs (c :: text) =
      if c = '}' then filledArgs (c :: text)
      else (innerArgs text).orElse fun _ => filledArgs (c :: text) := rfl

theorem filledArgs_eq_some_iff {text block rest : List Char} :
    filledArgs text = some (block, rest) ↔ argsBlock text = some (block, rest) ∧ block ≠ [] := by
  simp only [filledArgs, argsBlock, bind_eq_some_iff, literal_eq_some_iff, blanks_eq_some_iff,
    openBrace_eq_some_iff, throughBrace_eq_some_iff, run1_eq_some_iff, closeBrace_eq_some_iff,
    pure_eq_some_iff, decide_not, Bool.not_eq_eq_eq_not, Bool.not_true, decide_eq_false_iff_not]
  constructor
  · rintro ⟨-, _, rfl, -, _, ⟨gap, rfl, blank, stops⟩, -, _, rfl, _, _, ⟨nonempty, rfl, closed, -⟩, -,
      _, rfl, rfl, rfl⟩
    exact ⟨⟨(), _, rfl, (), _, ⟨gap, rfl, blank, stops⟩, (), _, rfl, rfl,
      fun member => closed _ member rfl⟩, nonempty⟩
  · rintro ⟨⟨-, _, rfl, -, _, ⟨gap, rfl, blank, stops⟩, -, _, rfl, rfl, closed⟩, nonempty⟩
    refine ⟨(), _, rfl, (), _, ⟨gap, rfl, blank, stops⟩, (), _, rfl, block, _, ⟨nonempty, rfl, ?_, ?_⟩,
      (), _, rfl, rfl, rfl⟩
    · intro c member same
      exact closed (same ▸ member)
    · simp

theorem filledArgs_reads_iff {text block : List Char} :
    (∃ rest, filledArgs text = some (block, rest)) ↔ OpensArgs text block ∧ block ≠ [] := by
  simp only [filledArgs_eq_some_iff, exists_and_right, argsBlock_reads_iff]

theorem filledArgs_eq_none_of_ne {c : Char} (other : c ≠ 'a') (text : List Char) :
    filledArgs (c :: text) = none := by
  rw [Option.eq_none_iff_forall_ne_some]
  rintro ⟨block, rest⟩ read
  obtain ⟨gap, -, starts, -⟩ := argsBlock_eq_some_iff.mp (filledArgs_eq_some_iff.mp read).1
  exact other (List.cons.inj starts).1

/-- Nothing is read where no filled block opens before the first closing brace. -/
theorem innerArgs_eq_none_iff {text : List Char} :
    innerArgs text = none ↔ ∀ before here, text = before ++ here → '}' ∉ before → filledArgs here = none := by
  induction text with
  | nil =>
    rw [innerArgs_nil]
    constructor
    · intro unread before here split _
      rwa [(List.append_eq_nil_iff.mp split.symm).2]
    · exact fun every => every [] [] rfl List.not_mem_nil
  | cons c text ih =>
    rw [innerArgs_cons]
    split_ifs with brace
    · subst brace
      constructor
      · intro unread before here split unclosed
        cases before with
        | nil => rwa [← List.nil_append here, ← split]
        | cons d before =>
          obtain ⟨rfl, -⟩ := List.cons.inj split
          exact absurd (List.mem_cons_self ..) unclosed
      · exact fun every => every [] _ rfl List.not_mem_nil
    · rw [Option.orElse_eq_or, Option.or_eq_none_iff, ih]
      constructor
      · rintro ⟨later, unread⟩ before here split unclosed
        cases before with
        | nil => rwa [← List.nil_append here, ← split]
        | cons d before =>
          rw [List.mem_cons, not_or] at unclosed
          exact later before here (List.cons.inj split).2 unclosed.2
      · intro every
        refine ⟨fun before here split unclosed => ?_, every [] _ rfl List.not_mem_nil⟩
        refine every (c :: before) here (by rw [split, List.cons_append]) ?_
        rw [List.mem_cons, not_or]
        exact ⟨Ne.symm brace, unclosed⟩

theorem innerArgs_eq_some_iff {text block rest : List Char} :
    innerArgs text = some (block, rest) ↔
      ∃ before here, text = before ++ here ∧ '}' ∉ before ∧ filledArgs here = some (block, rest) ∧
        ∀ more back, here = more ++ back → more ≠ [] → '}' ∉ more → filledArgs back = none := by
  -- The search tries the later places first, so a block at this place is read only where they have none.
  induction text with
  | nil =>
    have unread : filledArgs [] = none := rfl
    simp +contextual [innerArgs_nil, unread]
  | cons c text ih =>
    rw [innerArgs_cons]
    split_ifs with brace
    · subst brace
      have unread := filledArgs_eq_none_of_ne (c := '}') (by decide) text
      simp only [unread, reduceCtorEq, false_iff, not_exists, not_and]
      intro before here split unclosed read
      cases before with
      | nil =>
        rw [List.nil_append] at split
        rw [← split, unread] at read
        contradiction
      | cons d before =>
        obtain ⟨rfl, -⟩ := List.cons.inj split
        exact absurd (List.mem_cons_self ..) unclosed
    · have opens (before : List Char) : '}' ∉ c :: before ↔ '}' ∉ before := by
        rw [List.mem_cons, not_or, and_iff_right (Ne.symm brace)]
      rw [Option.orElse_eq_or, Option.or_eq_some_iff, ih, innerArgs_eq_none_iff]
      constructor
      · rintro (⟨before, here, rfl, unclosed, read, last⟩ | ⟨unread, read⟩)
        · exact ⟨c :: before, here, rfl, (opens before).mpr unclosed, read, last⟩
        · refine ⟨[], c :: text, rfl, List.not_mem_nil, read, ?_⟩
          intro more back split nonempty unclosed
          cases more with
          | nil => contradiction
          | cons d more =>
            obtain ⟨rfl, tail⟩ := List.cons.inj split
            exact unread more back tail ((opens more).mp unclosed)
      · rintro ⟨before, here, split, unclosed, read, last⟩
        cases before with
        | nil =>
          rw [List.nil_append] at split
          subst split
          refine .inr ⟨fun before here split unclosed => ?_, read⟩
          exact last (c :: before) here (by rw [split, List.cons_append]) (List.cons_ne_nil c before)
            ((opens before).mpr unclosed)
        | cons d before =>
          obtain ⟨rfl, tail⟩ := List.cons.inj split
          exact .inl ⟨before, here, tail, (opens before).mp unclosed, read, last⟩

theorem filledArgs_eq_none_iff {text : List Char} :
    filledArgs text = none ↔ ∀ block, OpensArgs text block → block = [] := by
  rw [Option.eq_none_iff_forall_ne_some]
  constructor
  · intro unread block opened
    by_contra nonempty
    obtain ⟨rest, read⟩ := filledArgs_reads_iff.mpr ⟨opened, nonempty⟩
    exact unread _ read
  · rintro every ⟨block, rest⟩ read
    obtain ⟨opened, nonempty⟩ := filledArgs_reads_iff.mp ⟨rest, read⟩
    exact nonempty (every block opened)

/-- A record's args are read from the last filled block. -/
theorem innerArgs_reads_iff {text block : List Char} :
    (∃ rest, innerArgs text = some (block, rest)) ↔ LastArgs text block := by
  simp only [innerArgs_eq_some_iff, LastArgs, filledArgs_eq_none_iff]
  constructor
  · rintro ⟨rest, before, here, split, unclosed, read, last⟩
    obtain ⟨opened, nonempty⟩ := filledArgs_reads_iff.mp ⟨rest, read⟩
    exact ⟨before, here, split, unclosed, opened, nonempty, fun more back other rest more_ne unclosed found =>
      last more back rest more_ne unclosed other found⟩
  · rintro ⟨before, here, split, unclosed, opened, nonempty, last⟩
    obtain ⟨rest, read⟩ := filledArgs_reads_iff.mpr ⟨opened, nonempty⟩
    exact ⟨rest, before, here, split, unclosed, read, fun more back rest more_ne unclosed other found =>
      last more back other rest more_ne unclosed found⟩

theorem LastArgs.unique {text block other : List Char} (first : LastArgs text block)
    (second : LastArgs text other) : block = other := by
  obtain ⟨rest, read⟩ := innerArgs_reads_iff.mpr first
  obtain ⟨left, readAgain⟩ := innerArgs_reads_iff.mpr second
  rw [read] at readAgain
  exact (Prod.mk.inj (Option.some.inj readAgain)).1

/-- Whether a block opens in front of a closing brace does not depend on what follows the brace. -/
theorem OpensArgs.congr_after {front rest block : List Char} (opened : OpensArgs (front ++ '}' :: rest) block)
    (unclosed : '}' ∉ front) (other : List Char) : OpensArgs (front ++ '}' :: other) block := by
  generalize split : front ++ '}' :: rest = text at opened
  cases opened with
  | @mk gap block left blank closed =>
    have absent : '}' ∉ "args:".toList ++ (gap ++ '{' :: block) := by
      have gap_absent : '}' ∉ gap := not_mem_of_forall blank (by decide)
      simp [gap_absent, closed]
    obtain ⟨rfl, -⟩ := append_cons_inj unclosed absent (by simpa using split)
    simpa using OpensArgs.mk blank closed

/-! ## A body with one block -/

/-- A block that nothing like an args block precedes is the first. -/
theorem FirstArgs.of_not_mem {before gap block : List Char} (absent : 'a' ∉ before) (blank : IsGap gap)
    (closed : '}' ∉ block) (rest : List Char) :
    FirstArgs (before ++ ("args:".toList ++ (gap ++ '{' :: (block ++ '}' :: rest)))) block := by
  refine ⟨before, _, rfl, .mk blank closed, nowhere_of_not_mem ?_ absent _⟩
  rintro c text ⟨other, opened⟩
  generalize split : c :: text = whole at opened
  cases opened with
  | mk => exact (List.cons.inj split).1

/-- A block that holds no opening brace is the last, since no further block opens before it closes. -/
theorem LastArgs.of_flat {before gap block : List Char} (unclosed : '}' ∉ before) (blank : IsGap gap)
    (closed : '}' ∉ block) (flat : '{' ∉ block) (filled : block ≠ []) (rest : List Char) :
    LastArgs (before ++ ("args:".toList ++ (gap ++ '{' :: (block ++ '}' :: rest)))) block := by
  refine ⟨before, _, rfl, unclosed, .mk blank closed, filled, ?_⟩
  intro more back other split more_ne more_open opened
  exfalso
  cases opened with
  | @mk otherGap other left otherBlank otherClosed =>
    -- Both blocks' braces open before the first closing brace, where only one opening brace stands.
    have gap_open : '{' ∉ gap := not_mem_of_forall blank (by decide)
    have gap_letter : 'a' ∉ gap := not_mem_of_forall blank (by decide)
    have otherGap_close : '}' ∉ otherGap := not_mem_of_forall otherBlank (by decide)
    have starts : dropWord? (more ++ "args:".toList ++ otherGap ++ ['{'])
        (("args:".toList ++ gap ++ '{' :: block) ++ '}' :: rest) = some (other ++ '}' :: left) := by
      rw [dropWord?_eq_some_iff]
      simpa using split
    have unclosedToo : '}' ∉ more ++ "args:".toList ++ otherGap ++ ['{'] := by
      simp [more_open, otherGap_close]
    obtain ⟨inner, same, -⟩ := dropWord?_append_cons unclosedToo starts
    have heads : "args:".toList ++ gap = more ++ "args:".toList ++ otherGap := by
      refine ((List.append_cons_inj_of_notMem ?_ flat).mp (by simpa using same)).1
      simp [gap_open]
    cases more with
    | nil => contradiction
    | cons c more =>
      have tails : "rgs:".toList ++ gap = more ++ "args:".toList ++ otherGap := (List.cons.inj heads).2
      have member : 'a' ∈ "rgs:".toList ++ gap := by
        rw [tails]
        simp
      simp [gap_letter] at member

end StoryCatalog.Story
