/-!
# Ordered fields

A mapping whose keys stand in the order in which they first came. Writing to a key that is there
already replaces its value and leaves its place.
-/

namespace StoryCatalog

/-- Values by key, a name if nothing else is said, in the order of the keys' first writing. -/
structure Fields (α : Type) (κ : Type := String) where
  entries : List (κ × α) := []
  deriving Repr, DecidableEq

namespace Fields

variable {α β κ : Type}

def keys (fields : Fields α κ) : List κ :=
  fields.entries.map (·.1)

def values (fields : Fields α κ) : List α :=
  fields.entries.map (·.2)

def map (f : α → β) (fields : Fields α κ) : Fields β κ :=
  ⟨fields.entries.map fun (key, value) => (key, f value)⟩

def mapWithKey (f : κ → α → β) (fields : Fields α κ) : Fields β κ :=
  ⟨fields.entries.map fun (key, value) => (key, f key value)⟩

variable [DecidableEq κ]

def putIn (key : κ) (value : α) : List (κ × α) → List (κ × α)
  | [] => [(key, value)]
  | (k, v) :: rest => if k = key then (k, value) :: rest else (k, v) :: putIn key value rest

def put (fields : Fields α κ) (key : κ) (value : α) : Fields α κ :=
  ⟨putIn key value fields.entries⟩

def get? (fields : Fields α κ) (key : κ) : Option α :=
  fields.entries.lookup key

def contains (fields : Fields α κ) (key : κ) : Bool :=
  (fields.get? key).isSome

/-- Writes the pairs one after the other. -/
def putAll (fields : Fields α κ) (pairs : List (κ × α)) : Fields α κ :=
  pairs.foldl (fun fields (key, value) => fields.put key value) fields

def ofList (pairs : List (κ × α)) : Fields α κ :=
  putAll ⟨[]⟩ pairs

/-- Changes the value of a key that is there. -/
def modify (fields : Fields α κ) (key : κ) (f : α → α) : Fields α κ :=
  ⟨fields.entries.map fun (k, v) => if k = key then (k, f v) else (k, v)⟩

theorem get?_put_self (fields : Fields α κ) (key : κ) (value : α) :
    (fields.put key value).get? key = some value := by
  obtain ⟨entries⟩ := fields
  simp only [get?, put]
  induction entries with
  | nil => simp [putIn]
  | cons pair rest ih =>
    obtain ⟨k, v⟩ := pair
    by_cases same : k = key
    · simp [putIn, same]
    · simp [putIn, same, List.lookup_cons, ih, beq_eq_false_iff_ne.2 (Ne.symm same)]

theorem get?_put_of_ne (fields : Fields α κ) {key other : κ} (value : α) (differ : other ≠ key) :
    (fields.put key value).get? other = fields.get? other := by
  obtain ⟨entries⟩ := fields
  simp only [get?, put]
  induction entries with
  | nil => simp [putIn, List.lookup_cons, beq_eq_false_iff_ne.2 differ]
  | cons pair rest ih =>
    obtain ⟨k, v⟩ := pair
    by_cases same : k = key
    · subst same
      simp [putIn, List.lookup_cons, beq_eq_false_iff_ne.2 differ]
    · simp [putIn, same, List.lookup_cons, ih]

/-- A key keeps its place, and a new key comes last. -/
theorem keys_put (fields : Fields α κ) (key : κ) (value : α) :
    (fields.put key value).keys = if key ∈ fields.keys then fields.keys else fields.keys ++ [key] := by
  obtain ⟨entries⟩ := fields
  simp only [keys, put]
  induction entries with
  | nil => simp [putIn]
  | cons pair rest ih =>
    obtain ⟨k, v⟩ := pair
    by_cases same : k = key
    · simp [putIn, same]
    · have differ : ¬key = k := fun h => same h.symm
      simp only [putIn, same, if_false, List.map_cons, List.mem_cons, differ, false_or, ih]
      by_cases present : key ∈ rest.map (·.1) <;> simp [present]

end Fields

end StoryCatalog
