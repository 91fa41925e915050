import StoryCatalog.Proofs.Text.Scan
import StoryCatalog.Source.Token

/-!
# What the small pieces of source text are

The spelling of each piece that the constructs of source files are made of.
-/

namespace StoryCatalog.Source

open Text Scan

/-- Blank characters only, possibly none. -/
def IsGap (gap : List Char) : Prop :=
  ∀ c ∈ gap, isBlank c = true

@[simp] theorem isGap_nil : IsGap [] := by simp [IsGap]

@[simp] theorem isGap_cons (c : Char) (gap : List Char) :
    IsGap (c :: gap) ↔ isBlank c = true ∧ IsGap gap := by
  simp [IsGap]

@[simp] theorem blanks_eq_some_iff {text rest : List Char} {out : Unit} :
    blanks text = some (out, rest) ↔ ∃ gap, text = gap ++ rest ∧ IsGap gap ∧ Stops isBlank rest := by
  simp [blanks, run_eq_some_iff, IsGap]

@[simp] theorem blanks1_eq_some_iff {text rest : List Char} {out : Unit} :
    blanks1 text = some (out, rest) ↔
      ∃ gap, gap ≠ [] ∧ text = gap ++ rest ∧ IsGap gap ∧ Stops isBlank rest := by
  simp [blanks1, run1_eq_some_iff, IsGap]

theorem identifier_eq_some_iff {text name rest : List Char} :
    identifier text = some (name, rest) ↔
      name ≠ [] ∧ text = name ++ rest ∧ (∀ c ∈ name, isWord c = true) ∧ Stops isWord rest :=
  run1_eq_some_iff

@[simp] theorem char_eq_some_iff {c : Char} {text rest : List Char} {out : Unit} :
    char c text = some (out, rest) ↔ text = c :: rest := by
  simp [char]

@[simp] theorem openBrace_eq_some_iff {text rest : List Char} {out : Unit} :
    openBrace text = some (out, rest) ↔ text = '{' :: rest :=
  char_eq_some_iff

@[simp] theorem closeBrace_eq_some_iff {text rest : List Char} {out : Unit} :
    closeBrace text = some (out, rest) ↔ text = '}' :: rest :=
  char_eq_some_iff

theorem nowhere_char_reads {c : Char} {before : List Char} {here : List Char} :
    Nowhere (char c).Reads before here ↔ c ∉ before := by
  induction before with
  | nil => simp
  | cons d before ih =>
    have first : (char c).Reads (d :: before ++ here) ↔ d = c := by
      simp [Reads]
    rw [nowhere_cons, ih, first, List.mem_cons, not_or, eq_comm]

/-- The text up to the first place of a character. -/
theorem upTo_char_eq_some_iff {c : Char} {text before rest : List Char} {out : Unit} :
    upTo (char c) text = some ((before, out), rest) ↔ text = before ++ c :: rest ∧ c ∉ before := by
  simp only [upTo_eq_some_iff, char_eq_some_iff, nowhere_char_reads]
  constructor
  · rintro ⟨here, rfl, rfl, absent⟩
    exact ⟨rfl, absent⟩
  · rintro ⟨rfl, absent⟩
    exact ⟨c :: rest, rfl, rfl, absent⟩

theorem throughBrace_eq_some_iff {text body rest : List Char} :
    throughBrace text = some (body, rest) ↔ text = body ++ '}' :: rest ∧ '}' ∉ body := by
  simp [throughBrace, closeBrace, upTo_char_eq_some_iff]

/-! ## Scans that stop at a character -/

/-- A scan that reads no farther than to a character, and so reads what stands before it as if nothing followed. -/
structure StopsAt {α : Type} (c : Char) (scan : Scan α) : Prop where
  reads : ∀ text more, scan (text ++ c :: more) = (scan text).map fun out => (out.1, out.2 ++ c :: more)
  leaves : ∀ text value rest, scan text = some (value, rest) → rest <:+ text

namespace StopsAt

variable {α β : Type} {c : Char}

theorem pure (value : α) : StopsAt c (Pure.pure value : Scan α) where
  reads _ _ := rfl
  leaves text other rest read := by
    obtain ⟨-, rfl⟩ := pure_eq_some_iff.mp read
    exact List.suffix_rfl

theorem bind {scan : Scan α} {next : α → Scan β} (first : StopsAt c scan) (second : ∀ value, StopsAt c (next value)) :
    StopsAt c (scan >>= next) where
  reads text more := by
    rw [bind_apply, bind_apply, first.reads]
    cases scan text with
    | none => rfl
    | some out => exact (second out.1).reads out.2 more
  leaves text value rest read := by
    obtain ⟨middle, left, readFirst, readSecond⟩ := bind_eq_some_iff.mp read
    exact ((second middle).leaves left value rest readSecond).trans (first.leaves text middle left readFirst)

theorem orElse {first second : Scan α} (one : StopsAt c first) (other : StopsAt c second) :
    StopsAt c (first <|> second) where
  reads text more := by
    change (first (text ++ c :: more)).orElse (fun _ => second (text ++ c :: more)) =
      ((first text).orElse fun _ => second text).map _
    rw [one.reads, other.reads]
    cases first text <;> rfl
  leaves text value rest read := by
    rcases orElse_eq_some_iff.mp read with read | ⟨-, read⟩
    · exact one.leaves text value rest read
    · exact other.leaves text value rest read

theorem maybe {scan : Scan α} (stops : StopsAt c scan) : StopsAt c (Scan.maybe scan) where
  reads text more := by
    unfold Scan.maybe
    rw [stops.reads]
    cases scan text <;> rfl
  leaves text value rest read := by
    obtain ⟨other, -, found⟩ | ⟨-, rfl, -⟩ := maybe_eq_some_iff.mp read
    · exact stops.leaves text other rest found
    · exact List.suffix_rfl

theorem literal {word : String} (foreign : c ∉ word.toList) : StopsAt c (literal word) where
  reads text more := by
    unfold Scan.literal
    cases read : dropWord? word.toList (text ++ c :: more) with
    | some rest =>
      obtain ⟨left, rfl, rfl⟩ := dropWord?_append_cons foreign read
      rw [dropWord?_append]
      rfl
    | none =>
      have unread : dropWord? word.toList text = none := by
        rw [Option.eq_none_iff_forall_ne_some]
        intro rest found
        rw [dropWord?_eq_some_iff.mp found, List.append_assoc, dropWord?_append] at read
        contradiction
      rw [unread]
      rfl
  leaves text value rest read := by
    rw [literal_eq_some_iff.mp read]
    exact List.suffix_append ..

private theorem span_append_cons {p : Char → Bool} (foreign : p c = false) (text more : List Char) :
    (text ++ c :: more).takeWhile p = text.takeWhile p ∧
      (text ++ c :: more).dropWhile p = text.dropWhile p ++ c :: more := by
  induction text with
  | nil => simp [foreign]
  | cons d text ih => cases held : p d <;> simp [held, ih]

theorem run {p : Char → Bool} (foreign : p c = false) : StopsAt c (run p) where
  reads text more := by
    obtain ⟨taken, left⟩ := span_append_cons foreign text more
    unfold Scan.run
    rw [taken, left]
    rfl
  leaves text value rest read := by
    rw [(run_eq_some_iff.mp read).1]
    exact List.suffix_append ..

theorem run1 {p : Char → Bool} (foreign : p c = false) : StopsAt c (run1 p) where
  reads text more := by
    obtain ⟨taken, left⟩ := span_append_cons foreign text more
    unfold Scan.run1
    rw [taken, left]
    cases text.takeWhile p <;> rfl
  leaves text value rest read := by
    rw [(run1_eq_some_iff.mp read).2.1]
    exact List.suffix_append ..

theorem blanks (solid : isBlank c = false) : StopsAt c blanks :=
  (run solid).bind fun _ => pure ()

theorem blanks1 (solid : isBlank c = false) : StopsAt c blanks1 :=
  (run1 solid).bind fun _ => pure ()

theorem identifier (foreign : isWord c = false) : StopsAt c identifier :=
  run1 foreign

theorem one {p : Char → Bool} (foreign : p c = false) : StopsAt c (one p) where
  reads text more := by
    cases text with
    | nil => simp [Scan.one, foreign]
    | cons d text => cases held : p d <;> simp [Scan.one, held]
  leaves text value rest read := by
    rw [(one_eq_some_iff.mp read).2]
    exact List.suffix_cons ..

theorem char {d : Char} (other : c ≠ d) : StopsAt c (char d) :=
  (one (decide_eq_false other)).bind fun _ => pure ()

end StopsAt

end StoryCatalog.Source
