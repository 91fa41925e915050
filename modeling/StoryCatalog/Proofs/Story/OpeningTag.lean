import StoryCatalog.Proofs.Source.Token
import StoryCatalog.Proofs.Text.Character

/-!
# Opening tags

The text of an opening tag from behind its name: attributes, each behind blanks, up to the sign that closes the
tag. A value stands in braces or between two equal quotes, and ends at the first of what closes it. Such a text is
read back attribute by attribute, and nothing else can be read.
-/

namespace StoryCatalog.Story

open Text Source Scan

/-! ## Attributes -/

/-- The value of an attribute with what encloses it. -/
inductive Enclosed where
  | braced (text : List Char)
  | quoted (mark : Char) (text : List Char)
  deriving DecidableEq

namespace Enclosed

def source : Enclosed → List Char
  | braced text => '{' :: (text ++ ['}'])
  | quoted mark text => mark :: (text ++ [mark])

/-- The value does not end before what closes it. -/
def Closed : Enclosed → Prop
  | braced text => '}' ∉ text
  | quoted mark text => isQuote mark = true ∧ mark ∉ text

instance : DecidablePred Closed
  | braced text => inferInstanceAs (Decidable ('}' ∉ text))
  | quoted mark text => inferInstanceAs (Decidable (isQuote mark = true ∧ mark ∉ text))

end Enclosed

/-- An attribute: a key, bare or in square brackets, with a value. -/
structure Binding where
  bracketed : Bool
  key : List Char
  value : Enclosed
  deriving DecidableEq

namespace Binding

def nameText (bracketed : Bool) (key : List Char) : List Char :=
  if bracketed then '[' :: (key ++ [']']) else key

def source (binding : Binding) : List Char :=
  nameText binding.bracketed binding.key ++ '=' :: binding.value.source

structure WellFormed (binding : Binding) : Prop where
  key_ne : binding.key ≠ []
  key_word : ∀ c ∈ binding.key, isWord c = true
  closed : binding.value.Closed

end Binding

/-- The text of an opening tag from behind the selector: attributes, each behind blanks, and the sign that
closes the tag. -/
inductive Spells (rest : List Char) : List Binding → List Char → Prop
  | closing {gap : List Char} (blank : IsGap gap) : Spells rest [] (gap ++ '>' :: rest)
  | binding {gap text : List Char} {first : Binding} {others : List Binding} (apart : gap ≠ [])
      (blank : IsGap gap) (formed : first.WellFormed) (behind : Spells rest others text) :
      Spells rest (first :: others) (gap ++ (first.source ++ text))

theorem spells_cons_iff {text rest : List Char} {first : Binding} {others : List Binding} :
    Spells rest (first :: others) text ↔
      ∃ gap more, gap ≠ [] ∧ IsGap gap ∧ first.WellFormed ∧ text = gap ++ (first.source ++ more) ∧
        Spells rest others more := by
  constructor
  · rintro (_ | ⟨apart, blank, formed, behind⟩)
    exact ⟨_, _, apart, blank, formed, rfl, behind⟩
  · rintro ⟨gap, more, apart, blank, formed, rfl, behind⟩
    exact .binding apart blank formed behind

/-! ## Reading attributes -/

def bracketedName : Scan (Bool × List Char) := do
  char '['
  let key ← identifier
  char ']'
  return (true, key)

def bareName : Scan (Bool × List Char) := do
  return (false, ← identifier)

def bracedValue : Scan Enclosed := do
  openBrace
  return .braced (← throughBrace)

def quotedValue : Scan Enclosed := do
  let mark ← one isQuote
  let (text, ()) ← upTo (char mark)
  return .quoted mark text

def binding : Scan Binding := do
  let (bracketed, key) ← bracketedName <|> bareName
  char '='
  return ⟨bracketed, key, ← bracedValue <|> quotedValue⟩

/-- The end of a tag, with nothing before it but blanks. -/
def tagEnd : Scan (List Binding) := do
  blanks
  char '>'
  return []

/-- The attributes up to the end of the tag, where there are no more than so many. -/
def bindings : ℕ → Scan (List Binding)
  | 0 => tagEnd
  | count + 1 => tagEnd <|> do
    blanks1
    let first ← binding
    return first :: (← bindings count)

/-- An opening tag from behind its selector. No attribute is empty, so there are no more of them than
characters. -/
def openingTag (text : List Char) : Option (List Binding × List Char) :=
  bindings text.length text

theorem bracedValue_eq_some_iff {text rest : List Char} {value : Enclosed} :
    bracedValue text = some (value, rest) ↔
      ∃ inner, value = .braced inner ∧ text = value.source ++ rest ∧ value.Closed := by
  simp only [bracedValue, bind_eq_some_iff, openBrace_eq_some_iff, throughBrace_eq_some_iff, pure_eq_some_iff]
  constructor
  · rintro ⟨_, _, rfl, inner, _, ⟨rfl, absent⟩, rfl, rfl⟩
    exact ⟨inner, rfl, by simp [Enclosed.source], absent⟩
  · rintro ⟨inner, rfl, rfl, absent⟩
    exact ⟨(), inner ++ '}' :: rest, by simp [Enclosed.source], inner, rest, ⟨rfl, absent⟩, rfl, rfl⟩

theorem quotedValue_eq_some_iff {text rest : List Char} {value : Enclosed} :
    quotedValue text = some (value, rest) ↔
      ∃ mark inner, value = .quoted mark inner ∧ text = value.source ++ rest ∧ value.Closed := by
  simp only [quotedValue, bind_eq_some_iff, one_eq_some_iff, Prod.exists, upTo_char_eq_some_iff, pure_eq_some_iff]
  constructor
  · rintro ⟨mark, _, ⟨quote, rfl⟩, inner, _, _, ⟨rfl, absent⟩, rfl, rfl⟩
    exact ⟨mark, inner, rfl, by simp [Enclosed.source], quote, absent⟩
  · rintro ⟨mark, inner, rfl, rfl, quote, absent⟩
    exact ⟨mark, inner ++ mark :: rest, ⟨quote, by simp [Enclosed.source]⟩, inner, (), rest, ⟨rfl, absent⟩, rfl, rfl⟩

theorem value_eq_some_iff {text rest : List Char} {value : Enclosed} :
    (bracedValue <|> quotedValue) text = some (value, rest) ↔ text = value.source ++ rest ∧ value.Closed := by
  rw [orElse_eq_some_iff, bracedValue_eq_some_iff, quotedValue_eq_some_iff]
  constructor
  · rintro (⟨_, -, spelled⟩ | ⟨-, _, _, -, spelled⟩) <;> exact spelled
  · intro spelled
    cases value with
    | braced inner => exact .inl ⟨inner, rfl, spelled⟩
    | quoted mark inner =>
      -- A quote is no brace.
      refine .inr ⟨?_, mark, inner, rfl, spelled⟩
      obtain ⟨rfl, quote, -⟩ := spelled
      rw [Option.eq_none_iff_forall_ne_some]
      rintro ⟨other, left⟩ read
      obtain ⟨_, rfl, same, -⟩ := bracedValue_eq_some_iff.mp read
      obtain ⟨rfl, -⟩ := List.cons.inj same
      exact absurd quote (by decide)

theorem bracketedName_eq_some_iff {text rest key : List Char} {bracketed : Bool} :
    bracketedName text = some ((bracketed, key), rest) ↔
      bracketed = true ∧ text = '[' :: (key ++ ']' :: rest) ∧ key ≠ [] ∧ ∀ c ∈ key, isWord c = true := by
  simp only [bracketedName, bind_eq_some_iff, char_eq_some_iff, identifier_eq_some_iff, pure_eq_some_iff, Prod.mk.injEq]
  constructor
  · rintro ⟨_, _, rfl, _, _, ⟨key_ne, rfl, word, -⟩, _, _, rfl, ⟨rfl, rfl⟩, rfl⟩
    exact ⟨rfl, rfl, key_ne, word⟩
  · rintro ⟨rfl, rfl, key_ne, word⟩
    have stops : Stops isWord (']' :: rest) := (stops_cons ..).mpr (by decide)
    exact ⟨(), _, rfl, key, _, ⟨key_ne, rfl, word, stops⟩, (), rest, rfl, ⟨rfl, rfl⟩, rfl⟩

theorem bareName_eq_some_iff {text rest key : List Char} {bracketed : Bool} :
    bareName text = some ((bracketed, key), rest) ↔
      bracketed = false ∧ key ≠ [] ∧ text = key ++ rest ∧ (∀ c ∈ key, isWord c = true) ∧ Stops isWord rest := by
  simp only [bareName, bind_eq_some_iff, identifier_eq_some_iff, pure_eq_some_iff, Prod.mk.injEq]
  constructor
  · rintro ⟨_, _, spelled, ⟨rfl, rfl⟩, rfl⟩
    exact ⟨rfl, spelled⟩
  · rintro ⟨rfl, spelled⟩
    exact ⟨key, rest, spelled, ⟨rfl, rfl⟩, rfl⟩

/-- A name is read up to the sign of equality. -/
theorem name_eq_some_iff {text rest key : List Char} {bracketed : Bool} :
    (bracketedName <|> bareName) text = some ((bracketed, key), '=' :: rest) ↔
      text = Binding.nameText bracketed key ++ '=' :: rest ∧ key ≠ [] ∧ ∀ c ∈ key, isWord c = true := by
  have stops : Stops isWord ('=' :: rest) := (stops_cons ..).mpr (by decide)
  rw [orElse_eq_some_iff, bracketedName_eq_some_iff, bareName_eq_some_iff]
  cases bracketed with
  | true => simp [Binding.nameText]
  | false =>
    simp only [Bool.false_eq_true, false_and, false_or, true_and, Binding.nameText, if_false]
    constructor
    · rintro ⟨-, key_ne, spelled, word, -⟩
      exact ⟨spelled, key_ne, word⟩
    · rintro ⟨rfl, key_ne, word⟩
      refine ⟨?_, key_ne, rfl, word, stops⟩
      -- A word does not start with a bracket.
      rw [Option.eq_none_iff_forall_ne_some]
      rintro ⟨⟨other, inner⟩, left⟩ read
      obtain ⟨-, same, -⟩ := bracketedName_eq_some_iff.mp read
      obtain ⟨c, more, rfl⟩ := List.exists_cons_of_ne_nil key_ne
      obtain ⟨rfl, -⟩ := List.cons.inj same
      exact absurd (word '[' (List.mem_cons_self ..)) (by decide)

theorem binding_eq_some_iff {text rest : List Char} {found : Binding} :
    binding text = some (found, rest) ↔ text = found.source ++ rest ∧ found.WellFormed := by
  obtain ⟨bracketed, key, value⟩ := found
  simp only [binding, bind_eq_some_iff, Prod.exists, char_eq_some_iff, value_eq_some_iff, pure_eq_some_iff]
  constructor
  · rintro ⟨_, _, _, named, _, _, rfl, value, _, ⟨rfl, closed⟩, same, rfl⟩
    obtain ⟨rfl, rfl, rfl⟩ := Binding.mk.inj same
    obtain ⟨rfl, key_ne, word⟩ := name_eq_some_iff.mp named
    exact ⟨by simp [Binding.source], key_ne, word, closed⟩
  · rintro ⟨rfl, key_ne, word, closed⟩
    have named : (bracketedName <|> bareName) ((Binding.mk bracketed key value).source ++ rest) =
        some ((bracketed, key), '=' :: (value.source ++ rest)) :=
      name_eq_some_iff.mpr ⟨by simp [Binding.source], key_ne, word⟩
    exact ⟨bracketed, key, _, named, (), _, rfl, value, rest, ⟨rfl, closed⟩, rfl, rfl⟩

theorem tagEnd_eq_some_iff {text rest : List Char} {found : List Binding} :
    tagEnd text = some (found, rest) ↔ found = [] ∧ ∃ gap, IsGap gap ∧ text = gap ++ '>' :: rest := by
  simp only [tagEnd, bind_eq_some_iff, blanks_eq_some_iff, char_eq_some_iff, pure_eq_some_iff]
  constructor
  · rintro ⟨_, _, ⟨gap, rfl, blank, -⟩, _, _, rfl, rfl, rfl⟩
    exact ⟨rfl, gap, blank, rfl⟩
  · rintro ⟨rfl, gap, blank, rfl⟩
    have stops : Stops isBlank ('>' :: rest) := (stops_cons ..).mpr (by decide)
    exact ⟨(), _, ⟨gap, rfl, blank, stops⟩, (), rest, rfl, rfl, rfl⟩

/-- A name starts with no blank, and not as the end of a tag does. -/
theorem exists_nameText_eq_cons {key : List Char} (key_ne : key ≠ []) (key_word : ∀ c ∈ key, isWord c = true)
    (bracketed : Bool) : ∃ c more, Binding.nameText bracketed key = c :: more ∧ isBlank c = false ∧ c ≠ '>' := by
  cases bracketed with
  | true => exact ⟨'[', _, rfl, by decide, by decide⟩
  | false =>
    obtain ⟨c, more, rfl⟩ := List.exists_cons_of_ne_nil key_ne
    have word : isWord c = true := key_word c (List.mem_cons_self ..)
    refine ⟨c, more, rfl, isBlank_eq_false_of_isWord word, ?_⟩
    rintro rfl
    exact absurd word (by decide)

theorem stops_nameText_append {key : List Char} (key_ne : key ≠ []) (key_word : ∀ c ∈ key, isWord c = true)
    (bracketed : Bool) (more : List Char) : Stops isBlank (Binding.nameText bracketed key ++ more) := by
  obtain ⟨c, rest, spelled, solid, -⟩ := exists_nameText_eq_cons key_ne key_word bracketed
  rw [spelled]
  exact (stops_cons ..).mpr solid

theorem Binding.WellFormed.stops {found : Binding} (formed : found.WellFormed) (more : List Char) :
    Stops isBlank (found.source ++ more) := by
  rw [source, List.append_assoc]
  exact stops_nameText_append formed.key_ne formed.key_word _ _

theorem bindings_cons_eq_some_iff {count : ℕ} {text rest : List Char} {first : Binding} {others : List Binding} :
    bindings (count + 1) text = some (first :: others, rest) ↔
      ∃ gap more, gap ≠ [] ∧ IsGap gap ∧ first.WellFormed ∧ text = gap ++ (first.source ++ more) ∧
        bindings count more = some (others, rest) := by
  rw [bindings, orElse_eq_some_iff]
  simp only [tagEnd_eq_some_iff, reduceCtorEq, false_and, false_or, bind_eq_some_iff, blanks1_eq_some_iff,
    binding_eq_some_iff, pure_eq_some_iff, List.cons.injEq]
  constructor
  · rintro ⟨-, _, _, ⟨gap, apart, rfl, blank, -⟩, _, _, ⟨rfl, formed⟩, _, _, read, ⟨rfl, rfl⟩, rfl⟩
    exact ⟨gap, _, apart, blank, formed, rfl, read⟩
  · rintro ⟨gap, more, apart, blank, formed, rfl, read⟩
    have stops := formed.stops more
    refine ⟨?_, (), _, ⟨gap, apart, rfl, blank, stops⟩, first, more, ⟨rfl, formed⟩, others, rest, read, ⟨rfl, rfl⟩, rfl⟩
    -- The tag does not end here: behind the gap stands a name.
    rw [Option.eq_none_iff_forall_ne_some]
    rintro ⟨found, left⟩ ended
    obtain ⟨-, other, otherBlank, same⟩ := tagEnd_eq_some_iff.mp ended
    have closing : Stops isBlank ('>' :: left) := (stops_cons ..).mpr (by decide)
    obtain ⟨-, behind⟩ := append_inj_of_stops blank stops otherBlank closing same
    obtain ⟨c, name, spelled, -, differs⟩ := exists_nameText_eq_cons formed.key_ne formed.key_word first.bracketed
    rw [Binding.source, spelled] at behind
    exact differs (List.cons.inj behind).1

theorem bindings_nil_eq_some_iff {count : ℕ} {text rest : List Char} :
    bindings count text = some ([], rest) ↔ ∃ gap, IsGap gap ∧ text = gap ++ '>' :: rest := by
  have ended : tagEnd text = some ([], rest) ↔ ∃ gap, IsGap gap ∧ text = gap ++ '>' :: rest := by
    rw [tagEnd_eq_some_iff, and_iff_right rfl]
  cases count with
  | zero => exact ended
  | succ count => simp [bindings, orElse_eq_some_iff, bind_eq_some_iff, ended]

theorem spells_of_bindings {count : ℕ} {text rest : List Char} {found : List Binding}
    (read : bindings count text = some (found, rest)) : Spells rest found text := by
  induction count generalizing text found with
  | zero =>
    obtain ⟨rfl, gap, blank, rfl⟩ := tagEnd_eq_some_iff.mp read
    exact .closing blank
  | succ count ih =>
    cases found with
    | nil =>
      obtain ⟨gap, blank, rfl⟩ := bindings_nil_eq_some_iff.mp read
      exact .closing blank
    | cons first others =>
      obtain ⟨gap, more, apart, blank, formed, rfl, later⟩ := bindings_cons_eq_some_iff.mp read
      exact .binding apart blank formed (ih later)

theorem bindings_of_spells {text rest : List Char} {found : List Binding} (spelled : Spells rest found text) :
    ∀ {count}, found.length ≤ count → bindings count text = some (found, rest) := by
  induction spelled with
  | closing blank =>
    intro count _
    exact bindings_nil_eq_some_iff.mpr ⟨_, blank, rfl⟩
  | @binding gap text first others apart blank formed _ ih =>
    intro count bound
    cases count with
    | zero => exact absurd bound (Nat.not_succ_le_zero _)
    | succ count =>
      exact bindings_cons_eq_some_iff.mpr ⟨gap, text, apart, blank, formed, rfl, ih (Nat.le_of_succ_le_succ bound)⟩

theorem Spells.length_le {text rest : List Char} {found : List Binding} (spelled : Spells rest found text) :
    found.length ≤ text.length := by
  induction spelled with
  | closing => exact Nat.zero_le _
  | binding apart _ _ _ ih =>
    have some := List.length_pos_of_ne_nil apart
    simp only [List.length_cons, List.length_append]
    omega

/-- Reading finds the attributes that the text spells, and no others. -/
theorem openingTag_eq_some_iff {text rest : List Char} {found : List Binding} :
    openingTag text = some (found, rest) ↔ Spells rest found text :=
  ⟨spells_of_bindings, fun spelled => bindings_of_spells spelled spelled.length_le⟩

end StoryCatalog.Story
