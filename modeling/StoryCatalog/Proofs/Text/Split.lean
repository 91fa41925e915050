import StoryCatalog.Proofs.Text.Scan
import StoryCatalog.Text.Split

/-!
# Cutting and joining

Splitting undoes joining when no piece holds the separator, and a cut is made at the first place where
the word stands.
-/

namespace StoryCatalog.Text

variable {α : Type} [DecidableEq α]

theorem split_of_not_mem {separator : α} {piece : List α} (absent : separator ∉ piece) :
    split separator piece = [piece] := by
  induction piece with
  | nil => rfl
  | cons c piece ih =>
    rw [List.mem_cons, not_or] at absent
    rw [split, if_neg (Ne.symm absent.1), ih absent.2]

theorem split_append {separator : α} {piece : List α} (absent : separator ∉ piece) (rest : List α) :
    split separator (piece ++ separator :: rest) = piece :: split separator rest := by
  induction piece with
  | nil => rw [List.nil_append, split, if_pos rfl]
  | cons c piece ih =>
    rw [List.mem_cons, not_or] at absent
    rw [List.cons_append, split, if_neg (Ne.symm absent.1), ih absent.2]

/-- Around a separator each side is cut by itself. -/
theorem split_append_cons (separator : α) (before after : List α) :
    split separator (before ++ separator :: after) = split separator before ++ split separator after := by
  induction before with
  | nil => simp [split]
  | cons c before ih =>
    rw [List.cons_append, split, split, ih]
    split_ifs
    · rfl
    · cases pieces : split separator before with
      | nil => exact absurd pieces (split_ne_nil separator before)
      | cons piece more => rfl

/-- No piece holds the separator. -/
theorem not_mem_of_mem_split {separator : α} {text piece : List α} (member : piece ∈ split separator text) :
    separator ∉ piece := by
  induction text generalizing piece with
  | nil =>
    rw [split, List.mem_singleton] at member
    rw [member]
    exact List.not_mem_nil
  | cons c text ih =>
    rw [split] at member
    split_ifs at member with same
    · rcases List.mem_cons.mp member with rfl | member
      · exact List.not_mem_nil
      · exact ih member
    · cases pieces : split separator text with
      | nil => exact absurd pieces (split_ne_nil separator text)
      | cons first more =>
        rw [pieces] at member ih
        rcases List.mem_cons.mp member with rfl | member
        · rw [List.mem_cons, not_or]
          exact ⟨Ne.symm same, ih (List.mem_cons_self ..)⟩
        · exact ih (List.mem_cons_of_mem _ member)

/-- Cutting loses no character but the separators. -/
theorem exists_mem_split_iff {separator c : α} (other : c ≠ separator) {text : List α} :
    (∃ piece ∈ split separator text, c ∈ piece) ↔ c ∈ text := by
  induction text with
  | nil => simp [split]
  | cons d text ih =>
    rw [split]
    split_ifs with same
    · subst same
      simp [ih, other]
    · cases cut : split separator text with
      | nil => exact absurd cut (split_ne_nil separator text)
      | cons piece pieces =>
        rw [cut] at ih
        simp only [List.mem_cons, exists_eq_or_imp, or_assoc] at ih ⊢
        rw [ih]

/-- Characters may change as long as they are separators where they were. -/
theorem split_map {β : Type} [DecidableEq β] {separator : α} {image : β} {change : α → β}
    (kept : ∀ c, change c = image ↔ c = separator) (text : List α) :
    split image (text.map change) = (split separator text).map (List.map change) := by
  induction text with
  | nil => rfl
  | cons c text ih =>
    rw [List.map_cons, split, split, ih]
    by_cases same : c = separator
    · rw [if_pos same, if_pos ((kept c).mpr same)]
      rfl
    · rw [if_neg same, if_neg (same ∘ (kept c).mp)]
      cases split separator text <;> rfl

theorem join_eq_intercalate (separator : List Char) (pieces : List (List Char)) :
    join separator pieces = separator.intercalate pieces := by
  induction pieces with
  | nil => rw [join, List.intercalate_nil]
  | cons piece pieces ih =>
    cases pieces with
    | nil => rw [join, List.intercalate_singleton]
    | cons next pieces => rw [join, ih, List.intercalate_cons_cons]; exact List.cons_ne_nil next pieces

theorem join_cons (separator piece : List Char) (pieces : List (List Char)) :
    join separator (piece :: pieces) = piece ++ pieces.flatMap (separator ++ ·) := by
  induction pieces generalizing piece with
  | nil => simp [join]
  | cons next pieces ih => rw [join, ih, List.flatMap_cons, List.append_assoc, List.append_assoc]; simp

/-- Splitting undoes joining. -/
theorem split_join {separator : Char} {pieces : List (List Char)} (nonempty : pieces ≠ [])
    (absent : ∀ piece ∈ pieces, separator ∉ piece) : split separator (join [separator] pieces) = pieces := by
  induction pieces with
  | nil => contradiction
  | cons piece pieces ih =>
    have first := absent piece (List.mem_cons_self ..)
    cases pieces with
    | nil => exact split_of_not_mem first
    | cons next pieces =>
      have later := ih (List.cons_ne_nil next pieces) fun other member =>
        absent other (List.mem_cons_of_mem _ member)
      rw [join, List.append_assoc, List.singleton_append, split_append first, later]
      exact List.cons_ne_nil next pieces

/-- Between two separators in a row stands an empty piece, which is not the first. -/
theorem nil_mem_tail_split {separator : Char} {text : List Char} (twice : [separator, separator] <:+: text) :
    [] ∈ (split separator text).tail := by
  obtain ⟨before, after, rfl⟩ := twice
  induction before with
  | nil => simp [split]
  | cons c before ih =>
    rw [List.append_assoc] at ih
    rw [List.append_assoc, List.cons_append, split]
    split_ifs with same
    · exact List.mem_of_mem_tail ih
    · cases pieces : split separator (before ++ ([separator, separator] ++ after)) with
      | nil => exact absurd pieces (split_ne_nil separator _)
      | cons piece more =>
        rw [pieces] at ih
        exact ih

theorem cut?_eq_some_iff {word text before after : List Char} (nonempty : word ≠ []) :
    cut? word text = some (before, after) ↔
      text = before ++ (word ++ after) ∧ Nowhere (word <+: ·) before (word ++ after) := by
  induction text generalizing before with
  | nil =>
    have empty : word.isEmpty = false := by simpa using nonempty
    simp [cut?, empty, nonempty]
  | cons c text ih =>
    rw [cut?]
    split_ifs with starts
    · obtain ⟨rest, split⟩ := List.isPrefixOf_iff_prefix.mp starts
      rw [← split, List.drop_left]
      simp only [Option.some.injEq, Prod.mk.injEq]
      constructor
      · rintro ⟨rfl, rfl⟩
        exact ⟨rfl, trivial⟩
      · rintro ⟨same, nowhere⟩
        cases before with
        | nil => exact ⟨rfl, List.append_cancel_left same⟩
        | cons d before => exact absurd ⟨rest, same⟩ nowhere.1
    · simp only [Option.map_eq_some_iff, Prod.exists, Prod.mk.injEq]
      constructor
      · rintro ⟨earlier, rest, found, rfl, rfl⟩
        obtain ⟨rfl, nowhere⟩ := ih.mp found
        exact ⟨rfl, fun held => starts (List.isPrefixOf_iff_prefix.mpr held), nowhere⟩
      · rintro ⟨same, nowhere⟩
        cases before with
        | nil => exact absurd (List.isPrefixOf_iff_prefix.mpr ⟨after, same.symm⟩) starts
        | cons d before =>
          obtain ⟨rfl, tail⟩ := List.cons.inj same
          exact ⟨before, after, ih.mpr ⟨tail, nowhere.2⟩, rfl, rfl⟩

theorem cut?_eq_none_iff {word text : List Char} : cut? word text = none ↔ ¬word <:+: text := by
  induction text with
  | nil => simp [cut?, List.infix_nil]
  | cons c text ih =>
    rw [cut?, List.infix_cons_iff, ← List.isPrefixOf_iff_prefix]
    split_ifs with starts
    · simp [starts]
    · rw [Option.map_eq_none_iff, ih]
      simp [starts]

/-- A single character is found where the text before does not hold it. -/
theorem cut?_singleton {c : Char} {before : List Char} (absent : c ∉ before) (after : List Char) :
    cut? [c] (before ++ c :: after) = some (before, after) := by
  refine (cut?_eq_some_iff (List.cons_ne_nil c [])).mpr ⟨rfl, nowhere_of_not_mem ?_ absent _⟩
  rintro d text ⟨rest, same⟩
  exact (List.cons.inj same).1.symm

/-! ## Words in a text -/

/-- A word that does not hold a character stands on one side of it. -/
theorem infix_append_cons_iff {word text after : List Char} {c : Char} (foreign : c ∉ word) :
    word <:+: text ++ c :: after ↔ word <:+: text ∨ word <:+: after := by
  constructor
  · intro found
    rcases List.infix_append_iff.mp found with before | behind | ⟨first, second, rfl, last, start⟩
    · exact .inl before
    · rcases List.infix_cons_iff.mp behind with start | behind
      · cases word with
        | nil => exact .inl List.nil_infix
        | cons d word =>
          obtain ⟨rfl, -⟩ := List.cons_prefix_cons.mp start
          exact absurd (List.mem_cons_self ..) foreign
      · exact .inr behind
    · cases second with
      | nil =>
        rw [List.append_nil]
        exact .inl last.isInfix
      | cons d second =>
        obtain ⟨rfl, -⟩ := List.cons_prefix_cons.mp start
        exact absurd (List.mem_append_right _ (List.mem_cons_self ..)) foreign
  · rintro (before | behind)
    · exact before.trans (List.infix_append' [] text (c :: after))
    · exact behind.trans ⟨text ++ [c], [], by simp⟩

/-- A word that holds no character of a separator stands on one side of it. -/
theorem infix_append_separator {word text separator after : List Char} (nonempty : separator ≠ [])
    (word_ne : word ≠ []) (foreign : ∀ c ∈ separator, c ∉ word) (found : word <:+: text ++ (separator ++ after)) :
    word <:+: text ∨ word <:+: after := by
  induction separator generalizing text with
  | nil => contradiction
  | cons c separator ih =>
    rw [List.forall_mem_cons] at foreign
    rw [List.cons_append, infix_append_cons_iff foreign.1] at found
    rcases found with before | behind
    · exact .inl before
    · cases separator with
      | nil => exact .inr behind
      | cons d separator =>
        have later := @ih [] (List.cons_ne_nil d separator) foreign.2 behind
        exact .inr (later.resolve_left fun none => word_ne (List.infix_nil.mp none))

/-- A word that holds no character of the separator stands in one of the pieces. -/
theorem exists_infix_of_infix_join {separator word : List Char} {pieces : List (List Char)}
    (nonempty : separator ≠ []) (word_ne : word ≠ []) (foreign : ∀ c ∈ separator, c ∉ word)
    (found : word <:+: join separator pieces) : ∃ piece ∈ pieces, word <:+: piece := by
  induction pieces with
  | nil => exact absurd (List.infix_nil.mp found) word_ne
  | cons piece pieces ih =>
    cases pieces with
    | nil => exact ⟨piece, List.mem_cons_self .., found⟩
    | cons next pieces =>
      rw [join, List.append_assoc] at found
      · rcases infix_append_separator nonempty word_ne foreign found with here | later
        · exact ⟨piece, List.mem_cons_self .., here⟩
        · obtain ⟨other, member, held⟩ := ih later
          exact ⟨other, List.mem_cons_of_mem _ member, held⟩
      · exact List.cons_ne_nil next pieces

theorem piece_infix_join (separator : List Char) {pieces : List (List Char)} {piece : List Char}
    (member : piece ∈ pieces) : piece <:+: join separator pieces := by
  induction pieces with
  | nil => contradiction
  | cons first pieces ih =>
    cases pieces with
    | nil => exact List.mem_singleton.mp member ▸ List.infix_refl _
    | cons next pieces =>
      rw [join]
      · rcases List.mem_cons.mp member with rfl | later
        · exact ⟨[], separator ++ join separator (next :: pieces), by simp⟩
        · exact (ih later).trans ⟨first ++ separator, [], by simp⟩
      · exact List.cons_ne_nil next pieces

theorem nowhere_prefix_append_cons {word text : List Char} {c : Char} (foreign : c ∉ word)
    (absent : ¬word <:+: text) (here : List Char) : Nowhere (word <+: ·) text (c :: here) := by
  rw [nowhere_iff]
  rintro front back rfl - ⟨rest, starts⟩
  obtain ⟨more, rfl, -⟩ := dropWord?_append_cons foreign (dropWord?_eq_some_iff.mpr starts.symm)
  exact absent ⟨front, more, by rw [List.append_assoc]⟩

/-- A word of two signs that is not in a text does not start in it either, unless the text ends with the first sign
and the second one follows. -/
theorem nowhere_pair {first second : Char} {text here : List Char} (absent : ¬[first, second] <:+: text)
    (apart : text.getLast? = some first → Stops (· = second) here) : Nowhere ([first, second] <+: ·) text here := by
  rw [nowhere_iff]
  rintro front back rfl nonempty starts
  match back with
  | [] => contradiction
  | [c] =>
    obtain ⟨rfl, next⟩ := List.cons_prefix_cons.mp starts
    have stops := apart List.getLast?_concat
    cases here with
    | nil => exact absurd next.length_le (by simp)
    | cons d here =>
      have differ : decide (d = second) = false := (stops_cons ..).mp stops
      exact of_decide_eq_false differ (List.cons_prefix_cons.mp next).1.symm
  | c :: d :: back =>
    obtain ⟨rfl, next⟩ := List.cons_prefix_cons.mp starts
    obtain ⟨rfl, -⟩ := List.cons_prefix_cons.mp next
    exact absent ⟨front, back, by simp⟩

theorem occurs_eq_true_iff {word text : List Char} : occurs word text = true ↔ word <:+: text := by
  rw [occurs, Option.isSome_iff_ne_none, Ne, cut?_eq_none_iff, not_not]

theorem erase_append_of_nowhere {word before here : List Char} (nowhere : Nowhere (word <+: ·) before here) :
    erase word (before ++ here) = before ++ erase word here := by
  induction before with
  | nil => rfl
  | cons c before ih =>
    have passed : ¬word.isPrefixOf (c :: (before ++ here)) = true :=
      fun starts => nowhere.1 (List.isPrefixOf_iff_prefix.mp starts)
    rw [erase, List.cons_append, eraseAfter, if_neg passed, List.cons_append]
    exact congrArg _ (ih nowhere.2)

/-- A word that is not in a text starts nowhere in it, where nothing follows. -/
theorem nowhere_of_absent {word text : List Char} (absent : ¬word <:+: text) :
    Nowhere (word <+: ·) text [] := by
  rw [nowhere_iff]
  rintro front back rfl - starts
  rw [List.append_nil] at starts
  exact absent (starts.isInfix.trans (List.suffix_append front back).isInfix)

theorem erase_eq_self {word text : List Char} (absent : ¬word <:+: text) : erase word text = text := by
  have kept := erase_append_of_nowhere (nowhere_of_absent absent)
  rwa [erase, erase, eraseAfter, List.append_nil] at kept

/-! ## Lines -/

namespace Scan

variable {α : Type}

/-- A line that is read whole or not at all, up to what ends it. -/
theorem atLineStartsAfter_whole_line {scan : Scan α} {value? : List Char → Option α} (empty : value? [] = none)
    {line tail : List Char} (one_line : '\n' ∉ line)
    (read : scan (line ++ tail) = (value? line).map (·, tail)) (ended : Stops (· ≠ '\n') tail) :
    (atLineStartsAfter scan true 0 (line ++ tail)).filterMap Sum.getRight? =
      (value? line).toList ++ (atLineStartsAfter scan false 0 tail).filterMap Sum.getRight? := by
  cases value : value? line with
  | some out =>
    rw [value, Option.map_some] at read
    obtain rfl | ⟨taken, last, rfl⟩ := List.eq_nil_or_concat line
    · rw [empty] at value
      contradiction
    · have within : decide (last = '\n') = false := decide_eq_false fun same => one_line (by simp [same])
      rw [List.concat_append] at read ⊢
      rw [atLineStartsAfter_of_some read, within]
      rfl
  | none =>
    rw [value, Option.map_none] at read
    cases line with
    | nil =>
      cases tail with
      | nil => rfl
      | cons c tail =>
        rw [List.nil_append] at read ⊢
        simp only [atLineStartsAfter, read]
        rfl
    | cons c line =>
      rw [List.mem_cons, not_or] at one_line
      have within : decide (c = '\n') = false := decide_eq_false (Ne.symm one_line.1)
      have passed : (line.map (Sum.inl (β := α))).filterMap Sum.getRight? = [] := by
        simp [List.filterMap_map]
      rw [List.cons_append] at read ⊢
      simp only [atLineStartsAfter, read, within, atLineStartsAfter_line one_line.2, List.filterMap_cons,
        List.filterMap_append, passed]
      rfl

/-- A scan that reads a line whole or not at all reads a text line by line. -/
theorem atLineStarts_lines {scan : Scan α} {value? : List Char → Option α} (empty : value? [] = none)
    {text : List Char}
    (read : ∀ line ∈ split '\n' text, ∀ tail, Stops (· ≠ '\n') tail →
      scan (line ++ tail) = (value? line).map (·, tail)) :
    (atLineStarts scan text).filterMap Sum.getRight? = (split '\n' text).filterMap value? := by
  induction bound : text.length using Nat.strong_induction_on generalizing text with
  | _ n ih =>
    subst bound
    by_cases several : '\n' ∈ text
    · obtain ⟨line, rest, rfl, one_line⟩ := List.eq_append_cons_of_mem several
      rw [split_append one_line, List.forall_mem_cons] at read
      have first := atLineStartsAfter_whole_line empty one_line (read.1 ('\n' :: rest) (by simp)) (by simp)
      have shorter : rest.length < (line ++ '\n' :: rest).length := by
        rw [List.length_append, List.length_cons]
        omega
      have later := ih rest.length shorter read.2 rfl
      have feed : (atLineStartsAfter scan false 0 ('\n' :: rest)).filterMap Sum.getRight? =
          (atLineStarts scan rest).filterMap Sum.getRight? := rfl
      rw [split_append one_line, atLineStarts, first, feed, later, List.filterMap_cons]
      cases value? line <;> rfl
    · rw [split_of_not_mem several, List.forall_mem_singleton] at read
      have last := atLineStartsAfter_whole_line empty several (read [] (by simp)) (by simp)
      rw [List.append_nil] at last
      rw [split_of_not_mem several, atLineStarts, last, List.filterMap_cons]
      cases value? text <;> rfl

end Scan

end StoryCatalog.Text
