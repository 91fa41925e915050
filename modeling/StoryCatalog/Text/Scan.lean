/-!
# Scanning a text

A scan reads a value off the front of a text and leaves the rest. Source files are not parsed here:
each kind of construct has one scan that recognises it, and `findFirst?` and `findAll` look for the
places where a scan succeeds, from left to right, matches never overlapping.
-/

namespace StoryCatalog.Text

/-- Reads a value off the front of a text, leaving the rest. -/
abbrev Scan (α : Type) := StateT (List Char) Option α

/-- What follows `word` in a text that starts with it. -/
def dropWord? : List Char → List Char → Option (List Char)
  | [], text => some text
  | c :: word, d :: text => if c = d then dropWord? word text else none
  | _ :: _, [] => none

@[simp] theorem dropWord?_append (word text : List Char) : dropWord? word (word ++ text) = some text := by
  induction word with
  | nil => rfl
  | cons c word ih => simp [dropWord?, ih]

theorem dropWord?_eq_some_iff {word text rest : List Char} :
    dropWord? word text = some rest ↔ text = word ++ rest := by
  induction word generalizing text with
  | nil => simp [dropWord?]
  | cons c word ih =>
    cases text with
    | nil => simp [dropWord?]
    | cons d text =>
      by_cases same : c = d
      · simp [dropWord?, same, ih]
      · simp [dropWord?, same, Ne.symm same]

namespace Scan

variable {α β : Type}

/-- Exactly this text. -/
def literal (word : String) : Scan Unit := fun text =>
  (dropWord? word.toList text).map fun rest => ((), rest)

/-- One character of a class. -/
def one (p : Char → Bool) : Scan Char
  | [] => none
  | c :: rest => if p c then some (c, rest) else none

/-- The longest run of a class, possibly empty. -/
def run (p : Char → Bool) : Scan (List Char) := fun text =>
  some (text.takeWhile p, text.dropWhile p)

/-- The longest run of a class, which must not be empty. -/
def run1 (p : Char → Bool) : Scan (List Char) := fun text =>
  match text.takeWhile p with
  | [] => none
  | c :: taken => some (c :: taken, text.dropWhile p)

/-- The text up to the first place where `stop` succeeds, with what `stop` reads there. -/
def upTo (stop : Scan α) : Scan (List Char × α) := fun text =>
  match stop text with
  | some (value, rest) => some (([], value), rest)
  | none =>
    match text with
    | [] => none
    | c :: tail => (upTo stop tail).map fun ((before, value), rest) => ((c :: before, value), rest)

/-- A reading that may be left out. -/
def maybe (scan : Scan α) : Scan (Option α) := fun text =>
  match scan text with
  | some (value, rest) => some (some value, rest)
  | none => some (none, text)

/-- A reading together with the text it was read from. -/
def withText (scan : Scan α) : Scan (α × List Char) := fun text =>
  (scan text).map fun (value, rest) => ((value, text.take (text.length - rest.length)), rest)

/-- Succeeds at the end of the text only. -/
def atEnd : Scan Unit
  | [] => some ((), [])
  | _ :: _ => none

/-- The value read at the leftmost place where the scan succeeds. -/
def findFirst? (scan : Scan α) (text : List Char) : Option α :=
  match scan text with
  | some (value, _) => some value
  | none =>
    match text with
    | [] => none
    | _ :: tail => findFirst? scan tail

/-- The values read at successive places, the first `skip` characters passed over. -/
def findAllAfter (scan : Scan α) : Nat → List Char → List α
  | _, [] => []
  | skip + 1, _ :: tail => findAllAfter scan skip tail
  | 0, c :: tail =>
    match scan (c :: tail) with
    | some (value, rest) => value :: findAllAfter scan (tail.length - rest.length) tail
    | none => findAllAfter scan 0 tail

/-- The values read at successive places, each search starting where the last reading ended. -/
def findAll (scan : Scan α) (text : List Char) : List α :=
  findAllAfter scan 0 text

/-- The text cut at the readings that start at a line's start: each other character is kept as it is.
A reading may span lines, and a line starts where the text does and after every line feed. -/
def atLineStartsAfter (scan : Scan α) : Bool → Nat → List Char → List (Char ⊕ α)
  | _, _, [] => []
  | _, skip + 1, c :: tail => atLineStartsAfter scan (c = '\n') skip tail
  | false, 0, c :: tail => .inl c :: atLineStartsAfter scan (c = '\n') 0 tail
  | true, 0, c :: tail =>
    match scan (c :: tail) with
    | some (value, rest) =>
      .inr value :: atLineStartsAfter scan (c = '\n') (tail.length - rest.length) tail
    | none => .inl c :: atLineStartsAfter scan (c = '\n') 0 tail

def atLineStarts (scan : Scan α) (text : List Char) : List (Char ⊕ α) :=
  atLineStartsAfter scan true 0 text

end Scan

end StoryCatalog.Text
