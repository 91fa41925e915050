import StoryCatalog.Proofs.Json.Spelling

/-!
# Reading where nesting may go deeper

More levels of nesting change nothing but where there were too few: a document is read the same, or it was too
deep before. So a document that is read somewhere is too deep wherever its value may not be read, and arrays
inside each other may be read exactly where a level is left for each of them.
-/

namespace StoryCatalog.Json

/-- What reading comes to, and what it comes to with more levels left: the same, unless there were too few. -/
def Deepens {α : Type} (outcome deeper : Except Stop α) : Prop :=
  (∃ container, outcome = .error (.depth container)) ∨ deeper = outcome

section Deepening

variable {α β : Type}

theorem Deepens.refl (outcome : Except Stop α) : Deepens outcome outcome :=
  .inr rfl

theorem Deepens.bind {first deeper : Except Stop α} {next deeperNext : α → Except Stop β}
    (start : Deepens first deeper) (onward : ∀ value, Deepens (next value) (deeperNext value)) :
    Deepens (first >>= next) (deeper >>= deeperNext) := by
  rcases start with ⟨container, rfl⟩ | rfl
  · exact .inl ⟨container, rfl⟩
  · cases deeper with
    | error stop => exact .refl _
    | ok value => exact onward value

end Deepening

/-! ## The readers -/

/-- What the three readers come to with this fuel where more levels are left. -/
structure ReadersDeepen (fuel : Nat) : Prop where
  value : ∀ {depth deeper}, depth ≤ deeper → ∀ text,
    Deepens (readValue depth fuel text) (readValue deeper fuel text)
  items : ∀ {depth deeper}, depth ≤ deeper → ∀ text,
    Deepens (readItems depth fuel text) (readItems deeper fuel text)
  fields : ∀ {depth deeper}, depth ≤ deeper → ∀ fields text,
    Deepens (readFields depth fuel fields text) (readFields deeper fuel fields text)

section Readers

variable {fuel depth deeper : Nat} (readers : ReadersDeepen fuel) (more : depth ≤ deeper)

include readers more

theorem deepens_readValue_succ (text : List Char) :
    Deepens (readValue depth (fuel + 1) text) (readValue deeper (fuel + 1) text) := by
  unfold readValue
  split
  · exact .refl _
  · exact .refl _
  · next rest =>
    cases depth with
    | zero => exact .inl ⟨_, rfl⟩
    | succ depth =>
      obtain ⟨deeper, rfl⟩ := Nat.exists_eq_add_one_of_ne_zero (Nat.ne_zero_of_lt more)
      dsimp only
      split
      · exact .refl _
      · exact (readers.items (Nat.le_of_succ_le_succ more) _).bind fun _ => .refl _
  · next rest =>
    cases depth with
    | zero => exact .inl ⟨_, rfl⟩
    | succ depth =>
      obtain ⟨deeper, rfl⟩ := Nat.exists_eq_add_one_of_ne_zero (Nat.ne_zero_of_lt more)
      dsimp only
      split
      · exact .refl _
      · exact (readers.fields (Nat.le_of_succ_le_succ more) _ _).bind fun _ => .refl _
  · exact .refl _

theorem deepens_readItems_succ (text : List Char) :
    Deepens (readItems depth (fuel + 1) text) (readItems deeper (fuel + 1) text) := by
  unfold readItems
  refine (readers.value more text).bind fun read => ?_
  dsimp only
  split
  · exact .refl _
  · exact (readers.items more _).bind fun _ => .refl _
  · exact .refl _

theorem deepens_readFields_succ (fields : Fields Json WideText) (text : List Char) :
    Deepens (readFields depth (fuel + 1) fields text) (readFields deeper (fuel + 1) fields text) := by
  unfold readFields
  split
  · refine (Deepens.refl _).bind fun read => ?_
    dsimp only
    split
    · refine (readers.value more _).bind fun read => ?_
      split
      · exact .refl _
      · exact readers.fields more _ _
      · exact .refl _
    · exact .refl _
  · exact .refl _

end Readers

theorem readersDeepen (fuel : Nat) : ReadersDeepen fuel := by
  induction fuel with
  | zero => exact ⟨fun _ _ => .refl _, fun _ _ => .refl _, fun _ _ _ => .refl _⟩
  | succ fuel ih =>
    exact ⟨deepens_readValue_succ ih, deepens_readItems_succ ih, deepens_readFields_succ ih⟩

theorem deepens_readDocument {depth deeper : Nat} (more : depth ≤ deeper) (text : List Char) :
    Deepens (readDocument depth text) (readDocument deeper text) := by
  unfold readDocument
  split_ifs
  · exact .refl _
  · exact ((readersDeepen _).value more _).bind fun _ => .refl _

/-- A document that is not too deep is read the same where it may be deeper. -/
theorem read_of_le {depth deeper : Nat} (more : depth ≤ deeper) {text : List Char}
    (within : ∀ container, read depth text ≠ .error (.tooDeep container)) : read deeper text = read depth text := by
  rcases deepens_readDocument more text with ⟨container, deep⟩ | same
  · exact absurd (by rw [read, deep]) (within container)
  · rw [read, same, read]

/-- A value that may not be read at a depth makes its document too deep there. -/
theorem exists_read_eq_tooDeep {depth deeper : Nat} {text : List Char} {value : Json}
    (known : read deeper text = .ok value) (unreadable : ¬Readable depth value) :
    ∃ container, read depth text = .error (.tooDeep container) := by
  by_contra! within
  rcases Nat.le_total depth deeper with more | less
  · exact unreadable (readable_of_read ((read_of_le more within).symm.trans known))
  · exact unreadable ((readable_of_read known).mono less)

/-! ## Arrays inside each other -/

/-- An empty array inside so many others. -/
def arrays : Nat → Json
  | 0 => .arr []
  | n + 1 => .arr [arrays n]

def arraysText : Nat → List Char
  | 0 => ['[', ']']
  | n + 1 => '[' :: (arraysText n ++ [']'])

theorem spells_arrays (n : Nat) : Spells (n + 1) (arraysText n) (arrays n) := by
  induction n with
  | zero => exact spells_empty_array 0
  | succ n ih => exact ih.singleton.array

theorem not_readable_arrays (n : Nat) : ¬Readable n (arrays n) := by
  induction n with
  | zero =>
    intro readable
    cases readable with
    | word listed => simp [words, arrays] at listed
    | number read => rcases isNumber_of_readNumber read with ⟨_, same⟩ | ⟨_, same⟩ <;> cases same
  | succ n ih => exact fun readable => ih (readable_arr_iff.mp readable _ (List.mem_singleton.mpr rfl))

end StoryCatalog.Json
