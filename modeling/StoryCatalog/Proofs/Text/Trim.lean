import StoryCatalog.Proofs.Text.Scan
import StoryCatalog.Text.Blank

/-!
# Trimming

A text is its own trimming where neither its first nor its last character is blank. Blanks at the ends of a
text do not matter to its trimming.
-/

namespace StoryCatalog.Text

variable {p : Char → Bool} {text gap : List Char}

theorem Stops.append {first : List Char} (stops : Stops p first) (nonempty : first ≠ []) (second : List Char) :
    Stops p (first ++ second) := by
  cases first with
  | nil => contradiction
  | cons c first => exact (stops_cons p c _).mpr ((stops_cons p c first).mp stops)

/-- Where a text and all the pieces behind it end outside a class, so does the whole. -/
theorem stops_reverse_flatMap {α : Type} {f : α → List Char} {pieces : List α} {first : List Char}
    (nonempty : first ≠ []) (stops : Stops p first.reverse)
    (pieces_ne : ∀ piece ∈ pieces, f piece ≠ []) (pieces_stop : ∀ piece ∈ pieces, Stops p (f piece).reverse) :
    Stops p (first ++ pieces.flatMap f).reverse := by
  induction pieces generalizing first with
  | nil => simpa using stops
  | cons piece pieces ih =>
    rw [List.forall_mem_cons] at pieces_ne pieces_stop
    rw [List.flatMap_cons, ← List.append_assoc]
    refine ih (List.append_ne_nil_of_right_ne_nil _ pieces_ne.1) ?_ pieces_ne.2 pieces_stop.2
    rw [List.reverse_append]
    exact pieces_stop.1.append (by simpa using pieces_ne.1) _

theorem trim_eq_self_iff : trim text = text ↔ Stops isBlank text ∧ Stops isBlank text.reverse := by
  constructor
  · intro same
    have front : text.dropWhile isBlank <:+ text := List.dropWhile_suffix isBlank
    have shorter : (trim text).length ≤ (text.dropWhile isBlank).length := by
      have cut : ((text.dropWhile isBlank).reverse.dropWhile isBlank).length ≤
          (text.dropWhile isBlank).reverse.length := (List.dropWhile_suffix isBlank).length_le
      rw [List.length_reverse] at cut
      rwa [trim, dropEnd, List.length_reverse]
    rw [same] at shorter
    have first : text.dropWhile isBlank = text := front.eq_of_length_le shorter
    have last : text.reverse.dropWhile isBlank = text.reverse := by
      rw [trim, first, dropEnd] at same
      rw [← List.reverse_inj, same, List.reverse_reverse]
    exact ⟨stops_iff_dropWhile.mpr first, stops_iff_dropWhile.mpr last⟩
  · rintro ⟨first, last⟩
    rw [trim, stops_iff_dropWhile.mp first, dropEnd, stops_iff_dropWhile.mp last, List.reverse_reverse]

theorem trim_eq_self (solid : ∀ c ∈ text, isBlank c = false) : trim text = text := by
  refine trim_eq_self_iff.mpr ⟨stops_of_forall solid, stops_of_forall fun c member => ?_⟩
  exact solid c (List.mem_reverse.mp member)

theorem trim_gap_append (blank : ∀ c ∈ gap, isBlank c = true) (text : List Char) :
    trim (gap ++ text) = trim text := by
  rw [trim, trim, List.dropWhile_append_of_pos blank]

theorem dropEnd_append_of_forall (all : ∀ c ∈ gap, p c = true) (text : List Char) :
    dropEnd p (text ++ gap) = dropEnd p text := by
  have turned : ∀ c ∈ gap.reverse, p c = true := fun c member => all c (List.mem_reverse.mp member)
  rw [dropEnd, dropEnd, List.reverse_append, List.dropWhile_append_of_pos turned]

theorem dropEnd_of_forall (all : ∀ c ∈ gap, p c = true) : dropEnd p gap = [] :=
  dropEnd_append_of_forall all []

theorem dropEnd_append_of_not_forall {behind : List Char} (some : ¬∀ c ∈ behind, p c = true) (text : List Char) :
    dropEnd p (text ++ behind) = text ++ dropEnd p behind := by
  have left : ¬(behind.reverse.dropWhile p).isEmpty = true := by
    rw [List.isEmpty_iff, List.dropWhile_eq_nil_iff]
    exact fun all => some fun c member => all c (List.mem_reverse.mpr member)
  rw [dropEnd, dropEnd, List.reverse_append, List.dropWhile_append, if_neg left, List.reverse_append,
    List.reverse_reverse]

/-- What stands before two texts does not matter to what is left of them, where both or neither is left out. -/
theorem dropEnd_append_inj {first second : List Char}
    (same : (∀ c ∈ first, p c = true) ↔ ∀ c ∈ second, p c = true) (text : List Char) :
    dropEnd p (text ++ first) = dropEnd p (text ++ second) ↔ dropEnd p first = dropEnd p second := by
  by_cases all : ∀ c ∈ first, p c = true
  · have other := same.mp all
    rw [dropEnd_append_of_forall all, dropEnd_append_of_forall other, dropEnd_of_forall all, dropEnd_of_forall other]
    exact iff_of_true rfl rfl
  · have other : ¬∀ c ∈ second, p c = true := fun held => all (same.mpr held)
    rw [dropEnd_append_of_not_forall all, dropEnd_append_of_not_forall other, List.append_right_inj]

theorem length_dropWhile_le_of_sublist {longer : List Char} (part : text.Sublist longer) :
    (text.dropWhile p).length ≤ (longer.dropWhile p).length := by
  induction part with
  | slnil => exact le_rfl
  | @cons text longer c part ih =>
    rw [List.dropWhile_cons]
    split_ifs
    · exact ih
    · exact ((List.dropWhile_sublist p).trans part).length_le.trans (Nat.le_succ _)
  | @cons_cons text longer c part ih =>
    rw [List.dropWhile_cons, List.dropWhile_cons]
    split_ifs
    · exact ih
    · exact Nat.succ_le_succ part.length_le

theorem length_dropEnd_le_of_sublist {longer : List Char} (part : text.Sublist longer) :
    (dropEnd p text).length ≤ (dropEnd p longer).length := by
  rw [dropEnd, dropEnd, List.length_reverse, List.length_reverse]
  exact length_dropWhile_le_of_sublist part.reverse

theorem trim_append_gap (blank : ∀ c ∈ gap, isBlank c = true) (text : List Char) :
    trim (text ++ gap) = trim text := by
  rw [trim, trim, List.dropWhile_append]
  split_ifs with empty
  · have nothing : gap.dropWhile isBlank = [] := List.dropWhile_eq_nil_iff.mpr blank
    rw [nothing, List.isEmpty_iff.mp empty]
  · rw [dropEnd_append_of_forall blank]

/-- Trimming takes a gap off each end. -/
theorem exists_trim (text : List Char) : ∃ front back : List Char, (∀ c ∈ front, isBlank c = true) ∧
    (∀ c ∈ back, isBlank c = true) ∧ text = front ++ trim text ++ back := by
  have inner : text.dropWhile isBlank = trim text ++ ((text.dropWhile isBlank).reverse.takeWhile isBlank).reverse := by
    rw [trim, dropEnd, ← List.reverse_append, List.takeWhile_append_dropWhile, List.reverse_reverse]
  refine ⟨text.takeWhile isBlank, ((text.dropWhile isBlank).reverse.takeWhile isBlank).reverse, ?_, ?_, ?_⟩
  · exact fun c member => List.mem_takeWhile_imp member
  · exact fun c member => List.mem_takeWhile_imp (List.mem_reverse.mp member)
  · rw [List.append_assoc, ← inner, List.takeWhile_append_dropWhile]

theorem trim_subset (text : List Char) : trim text ⊆ text := by
  obtain ⟨front, back, -, -, cut⟩ := exists_trim text
  intro c member
  rw [cut]
  exact List.mem_append_left _ (List.mem_append_right _ member)

theorem trim_trim (text : List Char) : trim (trim text) = trim text := by
  obtain ⟨front, back, blank, blankToo, cut⟩ := exists_trim text
  calc
    trim (trim text)
    _ = trim (front ++ (trim text ++ back)) := by rw [trim_gap_append blank, trim_append_gap blankToo]
    _ = trim text := by rw [← List.append_assoc, ← cut]

theorem trim_indented (trimmed : trim text = text) : trim (' ' :: text) = text := by
  have blank : ∀ c ∈ [' '], isBlank c = true := List.forall_mem_singleton.mpr (by decide)
  rw [← List.singleton_append, trim_gap_append blank, trimmed]

theorem trim_spaced (trimmed : trim text = text) : trim (' ' :: text ++ [' ']) = text := by
  have blank : ∀ c ∈ [' '], isBlank c = true := List.forall_mem_singleton.mpr (by decide)
  rw [trim_append_gap blank, trim_indented trimmed]

end StoryCatalog.Text
