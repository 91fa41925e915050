/-!
# Cutting text at separators

`split` cuts at every occurrence of a character and never loses one: there is always one piece more
than there are separators. `cut?` cuts once, at the first occurrence of a word.
-/

namespace StoryCatalog.Text

variable {α : Type} [DecidableEq α]

/-- The pieces between the separators, the empty ones included. -/
def split (separator : α) : List α → List (List α)
  | [] => [[]]
  | c :: rest =>
    if c = separator then [] :: split separator rest
    else
      match split separator rest with
      | [] => [[c]]
      | piece :: pieces => (c :: piece) :: pieces

/-- The pieces with a separator between each two. -/
def join (separator : List Char) : List (List Char) → List Char
  | [] => []
  | [piece] => piece
  | piece :: pieces => piece ++ separator ++ join separator pieces

/-- The text before and after the first occurrence of `word`. -/
def cut? (word : List α) : List α → Option (List α × List α)
  | [] => if word.isEmpty then some ([], []) else none
  | c :: rest =>
    if word.isPrefixOf (c :: rest) then some ([], (c :: rest).drop word.length)
    else (cut? word rest).map fun (before, after) => (c :: before, after)

/-- The text with every occurrence of `word` taken out, the first `skip` characters passed over. -/
def eraseAfter (word : List Char) : Nat → List Char → List Char
  | _, [] => []
  | skip + 1, _ :: rest => eraseAfter word skip rest
  | 0, c :: rest =>
    if word.isPrefixOf (c :: rest) then eraseAfter word (word.length - 1) rest
    else c :: eraseAfter word 0 rest

def erase (word text : List Char) : List Char :=
  eraseAfter word 0 text

def occurs (word text : List Char) : Bool :=
  (cut? word text).isSome

theorem split_ne_nil (separator : α) (text : List α) : split separator text ≠ [] := by
  cases text with
  | nil => simp [split]
  | cons c rest =>
    unfold split
    split
    · simp
    · split <;> simp

/-- Joining undoes splitting. -/
theorem join_split (separator : Char) (text : List Char) :
    join [separator] (split separator text) = text := by
  induction text with
  | nil => rfl
  | cons c rest ih =>
    by_cases same : c = separator
    · subst same
      rw [split, if_pos rfl]
      cases pieces : split c rest with
      | nil => exact absurd pieces (split_ne_nil c rest)
      | cons piece more =>
        rw [pieces] at ih
        simp [join, ih]
    · rw [split, if_neg same]
      cases pieces : split separator rest with
      | nil => exact absurd pieces (split_ne_nil separator rest)
      | cons piece more =>
        rw [pieces] at ih
        rw [← ih]
        cases more <;> simp [join]

end StoryCatalog.Text
