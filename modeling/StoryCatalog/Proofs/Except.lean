import Mathlib.Data.List.Forall2

/-!
# When a computation that may fail succeeds

One equivalence for each way of putting such computations together, so that a result is traced back to
the results it was made of, and a failure to the step that failed.
-/

namespace StoryCatalog

variable {ε α β : Type}

@[simp] theorem pure_eq_ok_iff {value result : α} :
    (pure value : Except ε α) = .ok result ↔ value = result := by
  simp [pure, Except.pure]

theorem bind_eq_ok_iff {first : Except ε α} {next : α → Except ε β} {result : β} :
    (first >>= next) = .ok result ↔ ∃ value, first = .ok value ∧ next value = .ok result := by
  cases first <;> simp [bind, Except.bind]

theorem mapError_eq_ok_iff {ε' : Type} {first : Except ε α} {f : ε → ε'} {result : α} :
    first.mapError f = .ok result ↔ first = .ok result := by
  cases first <;> simp [Except.mapError]

@[simp] theorem pure_ne_error {value : α} {error : ε} : (pure value : Except ε α) ≠ .error error := by
  simp [pure, Except.pure]

theorem bind_eq_error_iff {first : Except ε α} {next : α → Except ε β} {error : ε} :
    (first >>= next) = .error error ↔
      first = .error error ∨ ∃ value, first = .ok value ∧ next value = .error error := by
  cases first <;> simp [bind, Except.bind]

/-- What is made of a result cannot fail. -/
theorem bind_pure_eq_error_iff {first : Except ε α} {f : α → β} {error : ε} :
    (first >>= fun value => pure (f value)) = .error error ↔ first = .error error := by
  simp only [bind_eq_error_iff, pure_ne_error, and_false, exists_false, or_false]

theorem mapError_eq_error_iff {ε' : Type} {first : Except ε α} {f : ε → ε'} {error : ε'} :
    first.mapError f = .error error ↔ ∃ cause, first = .error cause ∧ f cause = error := by
  cases first <;> simp [Except.mapError]

/-- Every item succeeds, with the result in its place. -/
theorem mapM_eq_ok_iff {f : α → Except ε β} {items : List α} {results : List β} :
    items.mapM f = .ok results ↔ List.Forall₂ (fun item result => f item = .ok result) items results := by
  induction items generalizing results with
  | nil => rw [List.mapM_nil, pure_eq_ok_iff, List.forall₂_nil_left_iff, eq_comm]
  | cons item items ih =>
    simp only [List.mapM_cons, bind_eq_ok_iff, ih, pure_eq_ok_iff, List.forall₂_cons_left_iff]
    constructor
    · rintro ⟨value, first, values, later, rfl⟩
      exact ⟨value, values, first, later, rfl⟩
    · rintro ⟨value, values, first, later, rfl⟩
      exact ⟨value, first, values, later, rfl⟩

theorem exists_of_mapM_eq_error {f : α → Except ε β} {items : List α} {error : ε}
    (failed : items.mapM f = .error error) : ∃ item ∈ items, f item = .error error := by
  induction items with
  | nil => exact absurd failed pure_ne_error
  | cons item items ih =>
    rw [List.mapM_cons, bind_eq_error_iff] at failed
    rcases failed with first | ⟨value, -, later⟩
    · exact ⟨item, List.mem_cons_self .., first⟩
    · obtain ⟨other, member, stopped⟩ := ih (bind_pure_eq_error_iff.mp later)
      exact ⟨other, List.mem_cons_of_mem _ member, stopped⟩

/-- Items that succeed one by one succeed together. -/
theorem exists_mapM_eq_ok {f : α → Except ε β} {items : List α}
    (every : ∀ item ∈ items, ∃ result, f item = .ok result) : ∃ results, items.mapM f = .ok results := by
  simp only [mapM_eq_ok_iff]
  induction items with
  | nil => exact ⟨[], .nil⟩
  | cons item items ih =>
    obtain ⟨result, first⟩ := every item (List.mem_cons_self ..)
    obtain ⟨results, later⟩ := ih fun other member => every other (List.mem_cons_of_mem _ member)
    exact ⟨result :: results, .cons first later⟩

end StoryCatalog
