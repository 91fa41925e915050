import StoryCatalog.Json.Display
import StoryCatalog.Proofs.Except
import StoryCatalog.Proofs.Fields
import StoryCatalog.Proofs.Json.NumberSpelling
import StoryCatalog.Proofs.Json.WrittenStrings

/-!
# Documents that are read can be written

Every value that a document was read as has a text of its own, in ASCII, that is read as this value again: words and
numbers as they were read, strings as they are written, and arrays and objects by what they hold.
-/

namespace StoryCatalog.Json

open Text Number

/-! ## Words, numbers and strings -/

/-- Neither a string nor what holds values starts with the character. -/
def isPlain (c : Char) : Bool :=
  c ≠ '"' && c ≠ '[' && c ≠ '\x7b'

theorem readValue_plain {depth fuel : ℕ} {c : Char} (plain : isPlain c = true) (text : List Char) :
    readValue depth (fuel + 1) (c :: text) = match readWord? (c :: text) with
      | some found => .ok found
      | none => readNumber (c :: text) := by
  simp only [isPlain, Bool.and_eq_true, decide_eq_true_eq] at plain
  unfold readValue
  split
  · contradiction
  · next same => exact absurd (List.cons.inj same).1 plain.1.1
  · next same => exact absurd (List.cons.inj same).1 plain.1.2
  · next same => exact absurd (List.cons.inj same).1 plain.2
  · rfl

theorem readWord?_of_listed {word : List Char} {value : Json} (listed : (word, value) ∈ words) (rest : List Char) :
    readWord? (word ++ rest) = some (value, rest) := by
  simp only [words, List.mem_cons, Prod.mk.injEq, List.not_mem_nil, or_false] at listed
  rcases listed with ⟨rfl, rfl⟩ | ⟨rfl, rfl⟩ | ⟨rfl, rfl⟩ | ⟨rfl, rfl⟩ | ⟨rfl, rfl⟩ | ⟨rfl, rfl⟩ <;> rfl

theorem readWord?_of_digit {c : Char} (digit : c.isDigit = true) (text : List Char) :
    readWord? (c :: text) = none ∧ readWord? ('-' :: c :: text) = none := by
  have foreign (d : Char) (letter : d.isDigit = false) : d ≠ c := (ne_of_isDigit digit letter).symm
  simp [readWord?, words, foreign 'n', foreign 't', foreign 'f', foreign 'N', foreign 'I', foreign '-', Char.isDigit]

/-- Something stands at the front of the text, and it is neither a space nor the end of an array. -/
def Opens (text : List Char) : Prop :=
  ∃ c more, text = c :: more ∧ isSpace c = false ∧ c ≠ ']'

theorem Opens.append {text : List Char} (opens : Opens text) (rest : List Char) : Opens (text ++ rest) := by
  obtain ⟨c, more, rfl, spaceless, inside⟩ := opens
  exact ⟨c, more ++ rest, rfl, spaceless, inside⟩

theorem Opens.skipSpace_eq {text : List Char} (opens : Opens text) : skipSpace text = text := by
  obtain ⟨c, more, rfl, spaceless, -⟩ := opens
  rw [skipSpace, List.dropWhile_cons_of_neg (Bool.eq_false_iff.mp spaceless)]

/-- A text by which a value is read with `depth` levels of nesting left, wherever it ends. Every call reads a character
or passes on to the next, so twice the length is fuel enough. -/
structure Spells (depth : ℕ) (text : List Char) (value : Json) : Prop where
  ascii : IsAscii text
  opens : Opens text
  read : ∀ fuel rest, 2 * text.length ≤ fuel → Ends rest → readValue depth fuel (text ++ rest) = .ok (value, rest)

theorem spells_of_listed {word : List Char} {value : Json} (listed : (word, value) ∈ words) (depth : ℕ) :
    Spells depth word value := by
  have start : IsAscii word ∧
      ∃ c more, word = c :: more ∧ isPlain c = true ∧ isSpace c = false ∧ c ≠ ']' := by
    simp only [words, List.mem_cons, Prod.mk.injEq, List.not_mem_nil, or_false] at listed
    rcases listed with ⟨rfl, rfl⟩ | ⟨rfl, rfl⟩ | ⟨rfl, rfl⟩ | ⟨rfl, rfl⟩ | ⟨rfl, rfl⟩ | ⟨rfl, rfl⟩ <;>
      exact ⟨by simp, _, _, rfl, rfl, rfl, by decide⟩
  obtain ⟨ascii, c, more, rfl, plain, spaceless, inside⟩ := start
  refine ⟨ascii, ⟨c, more, rfl, spaceless, inside⟩, ?_⟩
  intro fuel rest enough _
  obtain ⟨fuel, rfl⟩ : ∃ less, fuel = less + 1 := ⟨fuel - 1, by rw [List.length_cons] at enough; omega⟩
  rw [List.cons_append, readValue_plain plain, ← List.cons_append, readWord?_of_listed listed]

theorem spells_number {literal : List Char} {value : Json} (spelled : SpellsNumber literal value) (depth : ℕ) :
    Spells depth literal value := by
  obtain ⟨d, tail, digit, shape⟩ := spelled.start
  have start : ∃ c more, literal = c :: more ∧ isPlain c = true ∧ isSpace c = false ∧ c ≠ ']' ∧
      ∀ rest, readWord? (c :: more ++ rest) = none := by
    have letter : isPlain d = true ∧ isSpace d = false ∧ d ≠ ']' := by
      have foreign (e : Char) (other : e.isDigit = false) : d ≠ e := ne_of_isDigit digit other
      simp [isPlain, isSpace, foreign '"', foreign '[', foreign '\x7b', foreign ' ', foreign '\t', foreign '\n',
        foreign '\r', foreign ']', Char.isDigit]
    rcases shape with rfl | rfl
    · exact ⟨d, tail, rfl, letter.1, letter.2.1, letter.2.2, fun rest => (readWord?_of_digit digit _).1⟩
    · exact ⟨'-', d :: tail, rfl, rfl, rfl, by decide, fun rest => (readWord?_of_digit digit _).2⟩
  obtain ⟨c, more, rfl, plain, spaceless, inside, wordless⟩ := start
  refine ⟨spelled.ascii, ⟨c, more, rfl, spaceless, inside⟩, ?_⟩
  intro fuel rest enough ends
  obtain ⟨fuel, rfl⟩ : ∃ less, fuel = less + 1 := ⟨fuel - 1, by rw [List.length_cons] at enough; omega⟩
  have unread := wordless rest
  have read := spelled.read rest ends
  rw [List.cons_append] at unread read ⊢
  rw [readValue_plain plain, unread]
  exact read

theorem spells_string {s : WideText} (paired : WellPaired s.units) (depth : ℕ) :
    Spells depth (writeString s) (.str s) := by
  refine ⟨isAscii_writeString, ⟨'"', _, rfl, rfl, by decide⟩, ?_⟩
  intro fuel rest enough _
  have spelled : writeString s ++ rest = '"' :: (s.units.flatMap writtenUnit ++ '"' :: rest) := by simp [writeString]
  obtain ⟨fuel, rfl⟩ : ∃ less, fuel = less + 1 := ⟨fuel - 1, by simp [writeString] at enough; omega⟩
  rw [spelled, readValue, stringFrom_written paired]
  rfl

/-! ## Arrays -/

/-- A text by which items are read, with the bracket behind the last one. -/
structure SpellsItems (depth : ℕ) (text : List Char) (items : List Json) : Prop where
  ascii : IsAscii text
  opens : Opens text
  read : ∀ fuel rest, 2 * text.length < fuel → readItems depth fuel (text ++ ']' :: rest) = .ok (items, rest)

theorem Spells.singleton {depth : ℕ} {text : List Char} {item : Json} (spelled : Spells depth text item) :
    SpellsItems depth text [item] := by
  refine ⟨spelled.ascii, spelled.opens, ?_⟩
  intro fuel rest enough
  obtain ⟨fuel, rfl⟩ := Nat.exists_eq_add_one_of_ne_zero (Nat.ne_zero_of_lt enough)
  have read := spelled.read fuel (']' :: rest) (by omega) (by simp [Ends, isEnd])
  rw [readItems, read]
  rfl

theorem Spells.cons {depth : ℕ} {text more : List Char} {item : Json} {items : List Json}
    (spelled : Spells depth text item) (others : SpellsItems depth more items) :
    SpellsItems depth (text ++ ',' :: more) (item :: items) := by
  refine ⟨?_, spelled.opens.append _, ?_⟩
  · simp [spelled.ascii, others.ascii]
  · intro fuel rest enough
    rw [List.length_append, List.length_cons] at enough
    obtain ⟨fuel, rfl⟩ := Nat.exists_eq_add_one_of_ne_zero (Nat.ne_zero_of_lt enough)
    have read := spelled.read fuel (',' :: (more ++ ']' :: rest)) (by omega) (by simp [Ends, isEnd])
    have comma : skipSpace (',' :: (more ++ ']' :: rest)) = ',' :: (more ++ ']' :: rest) := rfl
    have later := others.read fuel rest (by omega)
    rw [← (others.opens.append (']' :: rest)).skipSpace_eq] at later
    rw [List.append_assoc, List.cons_append, readItems, read]
    simp only [bind, Except.bind, comma, later]
    rfl

theorem exists_spellsItems {depth : ℕ} {items : List Json} (nonempty : items ≠ [])
    (each : ∀ item ∈ items, ∃ text, Spells depth text item) : ∃ text, SpellsItems depth text items := by
  induction items with
  | nil => contradiction
  | cons item items ih =>
    rw [List.forall_mem_cons] at each
    obtain ⟨⟨text, spelled⟩, others⟩ := each
    by_cases last : items = []
    · subst last
      exact ⟨text, spelled.singleton⟩
    · obtain ⟨more, later⟩ := ih last others
      exact ⟨_, spelled.cons later⟩

theorem SpellsItems.array {depth : ℕ} {text : List Char} {items : List Json} (spelled : SpellsItems depth text items) :
    Spells (depth + 1) ('[' :: (text ++ [']'])) (.arr items) := by
  refine ⟨?_, ⟨'[', _, rfl, rfl, by decide⟩, ?_⟩
  · simp [spelled.ascii]
  · intro fuel rest enough _
    rw [List.length_cons, List.length_append, List.length_singleton] at enough
    obtain ⟨fuel, rfl⟩ : ∃ less, fuel = less + 1 := ⟨fuel - 1, by omega⟩
    have read := spelled.read fuel rest (by omega)
    have opens := spelled.opens.append (']' :: rest)
    rw [List.cons_append, List.append_assoc, List.singleton_append, readValue]
    dsimp only
    rw [opens.skipSpace_eq]
    split
    · next same =>
      obtain ⟨c, more, shape, -, inside⟩ := opens
      rw [shape] at same
      exact absurd (List.cons.inj same).1 inside
    · rw [read]
      rfl

/-! ## Objects -/

/-- A text by which fields are read behind those that were read before, with the brace behind the last one. -/
structure SpellsFields (depth : ℕ) (text : List Char) (pairs : List (WideText × Json)) : Prop where
  ascii : IsAscii text
  opens : ∃ more, text = '"' :: more
  read : ∀ fuel fields rest, 2 * text.length < fuel →
    readFields depth fuel fields (text ++ '\x7d' :: rest) = .ok (fields.putAll pairs, rest)

/-- The first field is read, and then what follows it. -/
theorem Spells.readFields_eq {depth fuel : ℕ} {text rest : List Char} {value : Json} (spelled : Spells depth text value)
    {name : WideText} (paired : WellPaired name.units) (fields : Fields Json WideText) (enough : 2 * text.length ≤ fuel)
    (ends : Ends rest) :
    readFields depth (fuel + 1) fields (writeString name ++ ':' :: (text ++ rest)) =
      match skipSpace rest with
      | '\x7d' :: after => .ok (fields.put name value, after)
      | ',' :: more => readFields depth fuel (fields.put name value) (skipSpace more)
      | other => .error (.fault .comma other.length) := by
  have named := stringFrom_written paired (':' :: (text ++ rest))
  have colon : skipSpace (':' :: (text ++ rest)) = ':' :: (text ++ rest) := rfl
  have read := spelled.read fuel rest enough ends
  rw [← (spelled.opens.append rest).skipSpace_eq] at read
  have shape : writeString name ++ ':' :: (text ++ rest) =
      '"' :: (name.units.flatMap writtenUnit ++ '"' :: ':' :: (text ++ rest)) := by simp [writeString]
  rw [shape, readFields]
  simp only [bind, Except.bind, named, colon, read]
  rfl

theorem Spells.field {depth : ℕ} {text : List Char} {value : Json} (spelled : Spells depth text value)
    {name : WideText} (paired : WellPaired name.units) :
    SpellsFields depth (writeString name ++ ':' :: text) [(name, value)] := by
  refine ⟨?_, ⟨_, rfl⟩, ?_⟩
  · simp [isAscii_writeString, spelled.ascii]
  · intro fuel fields rest enough
    rw [List.length_append, List.length_cons] at enough
    obtain ⟨fuel, rfl⟩ := Nat.exists_eq_add_one_of_ne_zero (Nat.ne_zero_of_lt enough)
    rw [List.append_assoc, List.cons_append, spelled.readFields_eq paired fields (by omega) (by simp [Ends, isEnd])]
    rfl

theorem Spells.field_cons {depth : ℕ} {text more : List Char} {value : Json} {pairs : List (WideText × Json)}
    (spelled : Spells depth text value) {name : WideText} (paired : WellPaired name.units)
    (others : SpellsFields depth more pairs) :
    SpellsFields depth (writeString name ++ ':' :: (text ++ ',' :: more)) ((name, value) :: pairs) := by
  refine ⟨?_, ⟨_, rfl⟩, ?_⟩
  · simp [isAscii_writeString, spelled.ascii, others.ascii]
  · intro fuel fields rest enough
    rw [List.length_append, List.length_cons, List.length_append, List.length_cons] at enough
    obtain ⟨fuel, rfl⟩ := Nat.exists_eq_add_one_of_ne_zero (Nat.ne_zero_of_lt enough)
    have later := others.read fuel (fields.put name value) rest (by omega)
    obtain ⟨left, rfl⟩ := others.opens
    rw [List.append_assoc, List.cons_append, List.append_assoc,
      spelled.readFields_eq paired fields (by omega) (by simp [Ends, isEnd])]
    exact later

theorem exists_spellsFields {depth : ℕ} {pairs : List (WideText × Json)} (nonempty : pairs ≠ [])
    (each : ∀ pair ∈ pairs, WellPaired pair.1.units ∧ ∃ text, Spells depth text pair.2) :
    ∃ text, SpellsFields depth text pairs := by
  induction pairs with
  | nil => contradiction
  | cons pair pairs ih =>
    rw [List.forall_mem_cons] at each
    obtain ⟨⟨paired, text, spelled⟩, others⟩ := each
    by_cases last : pairs = []
    · subst last
      exact ⟨_, spelled.field paired⟩
    · obtain ⟨more, later⟩ := ih last others
      exact ⟨_, spelled.field_cons paired later⟩

theorem SpellsFields.object {depth : ℕ} {text : List Char} {pairs : List (WideText × Json)}
    (spelled : SpellsFields depth text pairs) (distinct : (pairs.map (·.1)).Nodup) :
    Spells (depth + 1) ('\x7b' :: (text ++ ['\x7d'])) (.obj pairs) := by
  refine ⟨?_, ⟨'\x7b', _, rfl, rfl, by decide⟩, ?_⟩
  · simp [spelled.ascii]
  · intro fuel rest enough _
    rw [List.length_cons, List.length_append, List.length_singleton] at enough
    obtain ⟨fuel, rfl⟩ : ∃ less, fuel = less + 1 := ⟨fuel - 1, by omega⟩
    have read := spelled.read fuel {} rest (by omega)
    have same : Fields.putAll {} pairs = ⟨pairs⟩ := Fields.ofList_of_nodup distinct
    obtain ⟨more, rfl⟩ := spelled.opens
    have quote : skipSpace ('"' :: more ++ '\x7d' :: rest) = '"' :: more ++ '\x7d' :: rest := rfl
    rw [List.cons_append, List.append_assoc, List.singleton_append, readValue]
    dsimp only
    rw [quote]
    change (do
      let read ← readFields depth fuel {} ('"' :: more ++ '\x7d' :: rest)
      return (Json.obj read.1.entries, read.2)) = _
    rw [read, same]
    rfl

theorem spells_empty_array (depth : ℕ) : Spells (depth + 1) ['[', ']'] (.arr []) := by
  refine ⟨by simp, ⟨'[', _, rfl, rfl, by decide⟩, ?_⟩
  intro fuel rest enough _
  obtain ⟨fuel, rfl⟩ : ∃ less, fuel = less + 1 := ⟨fuel - 1, by simp at enough; omega⟩
  rfl

theorem spells_empty_object (depth : ℕ) : Spells (depth + 1) ['\x7b', '\x7d'] (.obj []) := by
  refine ⟨by simp, ⟨'\x7b', _, rfl, rfl, by decide⟩, ?_⟩
  intro fuel rest enough _
  obtain ⟨fuel, rfl⟩ : ∃ less, fuel = less + 1 := ⟨fuel - 1, by simp at enough; omega⟩
  rfl

/-! ## Values that are read -/

/-- What may be read with `depth` levels of nesting left. -/
inductive Readable : ℕ → Json → Prop
  | word {depth : ℕ} {word : List Char} {value : Json} (listed : (word, value) ∈ words) : Readable depth value
  | number {depth : ℕ} {text rest : List Char} {value : Json} (read : readNumber text = .ok (value, rest)) :
      Readable depth value
  | str {depth : ℕ} {s : WideText} (paired : WellPaired s.units) : Readable depth (.str s)
  | arr {depth : ℕ} {items : List Json} (each : ∀ item ∈ items, Readable depth item) : Readable (depth + 1) (.arr items)
  | obj {depth : ℕ} {pairs : List (WideText × Json)} (distinct : (pairs.map (·.1)).Nodup)
      (paired : ∀ pair ∈ pairs, WellPaired pair.1.units) (each : ∀ pair ∈ pairs, Readable depth pair.2) :
      Readable (depth + 1) (.obj pairs)

theorem Readable.exists_spells {depth : ℕ} {value : Json} (readable : Readable depth value) :
    ∃ text, Spells depth text value := by
  induction readable with
  | word listed => exact ⟨_, spells_of_listed listed _⟩
  | number read =>
    obtain ⟨literal, spelled⟩ := exists_spellsNumber read
    exact ⟨literal, spells_number spelled _⟩
  | str paired => exact ⟨_, spells_string paired _⟩
  | @arr depth items each ih =>
    by_cases empty : items = []
    · exact empty ▸ ⟨_, spells_empty_array depth⟩
    · obtain ⟨text, spelled⟩ := exists_spellsItems empty ih
      exact ⟨_, spelled.array⟩
  | @obj depth pairs distinct paired each ih =>
    by_cases empty : pairs = []
    · exact empty ▸ ⟨_, spells_empty_object depth⟩
    · obtain ⟨text, spelled⟩ := exists_spellsFields empty fun pair member => ⟨paired pair member, ih pair member⟩
      exact ⟨_, spelled.object distinct⟩

/-- What the three readers read with this fuel may be read. -/
structure ReadersReadable (fuel : ℕ) : Prop where
  value : ∀ {depth text value rest}, readValue depth fuel text = .ok (value, rest) → Readable depth value
  items : ∀ {depth text items rest}, readItems depth fuel text = .ok (items, rest) → ∀ item ∈ items, Readable depth item
  fields : ∀ {depth fields text result rest}, readFields depth fuel fields text = .ok (result, rest) →
    Readable (depth + 1) (.obj fields.entries) → Readable (depth + 1) (.obj result.entries)

theorem readable_obj_iff {depth : ℕ} {pairs : List (WideText × Json)} : Readable (depth + 1) (.obj pairs) ↔
    (pairs.map (·.1)).Nodup ∧ ∀ pair ∈ pairs, WellPaired pair.1.units ∧ Readable depth pair.2 := by
  constructor
  · intro readable
    cases readable with
    | word listed => simp [words] at listed
    | number read => rcases isNumber_of_readNumber read with ⟨_, same⟩ | ⟨_, same⟩ <;> cases same
    | obj distinct paired each => exact ⟨distinct, fun pair member => ⟨paired pair member, each pair member⟩⟩
  · rintro ⟨distinct, each⟩
    exact .obj distinct (fun pair member => (each pair member).1) fun pair member => (each pair member).2

theorem readable_arr_iff {depth : ℕ} {items : List Json} :
    Readable (depth + 1) (.arr items) ↔ ∀ item ∈ items, Readable depth item := by
  constructor
  · intro readable
    cases readable with
    | word listed => simp [words] at listed
    | number read => rcases isNumber_of_readNumber read with ⟨_, same⟩ | ⟨_, same⟩ <;> cases same
    | arr each => exact each
  · exact .arr

/-- What may be read may be read deeper. -/
theorem Readable.mono {depth deeper : ℕ} {value : Json} (readable : Readable depth value) (more : depth ≤ deeper) :
    Readable deeper value := by
  induction readable generalizing deeper with
  | word listed => exact .word listed
  | number read => exact .number read
  | str paired => exact .str paired
  | arr each ih =>
    obtain ⟨deeper, rfl⟩ := Nat.exists_eq_add_one_of_ne_zero (Nat.ne_zero_of_lt more)
    exact .arr fun item member => ih item member (Nat.le_of_succ_le_succ more)
  | obj distinct paired each ih =>
    obtain ⟨deeper, rfl⟩ := Nat.exists_eq_add_one_of_ne_zero (Nat.ne_zero_of_lt more)
    exact .obj distinct paired fun pair member => ih pair member (Nat.le_of_succ_le_succ more)

/-- The text that a value stands for has no pair in halves either. -/
theorem Readable.wellPaired_toText {depth : ℕ} {value : Json} (readable : Readable depth value) :
    WellPaired value.toText.units := by
  cases readable with
  | str paired => exact paired
  | word listed =>
    simp only [words, List.mem_cons, Prod.mk.injEq, List.not_mem_nil, or_false] at listed
    rcases listed with ⟨-, rfl⟩ | ⟨-, rfl⟩ | ⟨-, rfl⟩ | ⟨-, rfl⟩ | ⟨-, rfl⟩ | ⟨-, rfl⟩ <;> exact wellPaired_chars _
  | number read => rcases isNumber_of_readNumber read with ⟨_, rfl⟩ | ⟨_, rfl⟩ <;> exact wellPaired_chars _
  | arr each => exact wellPaired_chars _
  | obj distinct paired each => exact wellPaired_chars _

theorem Readable.field? {depth : ℕ} {json value : Json} {name : String} (readable : Readable (depth + 1) json)
    (found : json.field? name = some value) : Readable depth value := by
  cases json with
  | obj pairs =>
    obtain ⟨before, after, rfl, -⟩ := List.lookup_eq_some_iff.mp found
    exact ((readable_obj_iff.mp readable).2 _ (List.mem_append_right _ (List.mem_cons_self ..))).2
  | _ => contradiction

theorem Readable.fieldOrNull {depth : ℕ} {json : Json} (readable : Readable (depth + 1) json) (name : String) :
    Readable depth (json.fieldOrNull name) := by
  cases found : json.field? name with
  | some value =>
    rw [Json.fieldOrNull, found]
    exact readable.field? found
  | none =>
    rw [Json.fieldOrNull, found]
    exact .word (List.mem_cons_self ..)

theorem Readable.put {depth : ℕ} {fields : Fields Json WideText} {value : Json}
    (readable : Readable (depth + 1) (.obj fields.entries)) {name : WideText} (paired : WellPaired name.units)
    (added : Readable depth value) : Readable (depth + 1) (.obj (fields.put name value).entries) := by
  obtain ⟨distinct, each⟩ := readable_obj_iff.mp readable
  refine readable_obj_iff.mpr ⟨Fields.nodup_keys_put distinct name value, fun pair member => ?_⟩
  rcases Fields.mem_putIn member with rfl | earlier
  · exact ⟨paired, added⟩
  · exact each pair earlier

theorem readable_of_readValue {fuel : ℕ} (readers : ReadersReadable fuel) {depth : ℕ} {text rest : List Char}
    {value : Json} (read : readValue depth (fuel + 1) text = .ok (value, rest)) : Readable depth value := by
  unfold readValue at read
  split at read
  · contradiction
  · next after =>
    obtain ⟨⟨s, left⟩, string, same⟩ := bind_eq_ok_iff.mp read
    obtain ⟨rfl, -⟩ := Prod.mk.inj (Except.ok.inj same)
    exact .str (wellPaired_of_stringFrom string)
  · cases depth with
    | zero => contradiction
    | succ depth =>
      dsimp only at read
      split at read
      · obtain ⟨rfl, -⟩ := Prod.mk.inj (Except.ok.inj read)
        exact .arr (by simp)
      · obtain ⟨⟨items, left⟩, inside, same⟩ := bind_eq_ok_iff.mp read
        obtain ⟨rfl, -⟩ := Prod.mk.inj (Except.ok.inj same)
        exact .arr (readers.items inside)
  · cases depth with
    | zero => contradiction
    | succ depth =>
      dsimp only at read
      split at read
      · obtain ⟨rfl, -⟩ := Prod.mk.inj (Except.ok.inj read)
        exact .obj (by simp) (by simp) (by simp)
      · obtain ⟨⟨fields, left⟩, inside, same⟩ := bind_eq_ok_iff.mp read
        obtain ⟨rfl, -⟩ := Prod.mk.inj (Except.ok.inj same)
        exact readers.fields inside (.obj (by simp) (by simp) (by simp))
  · split at read
    · next found known =>
      obtain rfl := Except.ok.inj read
      obtain ⟨⟨word, meant⟩, listed, same⟩ := List.exists_of_findSome?_eq_some known
      dsimp only at same
      split_ifs at same
      obtain ⟨rfl, -⟩ := Prod.mk.inj (Option.some.inj same)
      exact .word listed
    · exact .number read

theorem readable_of_readItems {fuel : ℕ} (readers : ReadersReadable fuel) {depth : ℕ} {text rest : List Char}
    {items : List Json} (read : readItems depth (fuel + 1) text = .ok (items, rest)) :
    ∀ item ∈ items, Readable depth item := by
  unfold readItems at read
  obtain ⟨⟨item, left⟩, first, read⟩ := bind_eq_ok_iff.mp read
  dsimp only at read
  split at read
  · obtain ⟨rfl, -⟩ := Prod.mk.inj (Except.ok.inj read)
    exact List.forall_mem_singleton.mpr (readers.value first)
  · obtain ⟨⟨others, _⟩, later, same⟩ := bind_eq_ok_iff.mp read
    obtain ⟨rfl, -⟩ := Prod.mk.inj (Except.ok.inj same)
    exact List.forall_mem_cons.mpr ⟨readers.value first, readers.items later⟩
  · contradiction

theorem readable_of_readFields {fuel : ℕ} (readers : ReadersReadable fuel) {depth : ℕ} {text rest : List Char}
    {fields result : Fields Json WideText} (read : readFields depth (fuel + 1) fields text = .ok (result, rest))
    (readable : Readable (depth + 1) (.obj fields.entries)) : Readable (depth + 1) (.obj result.entries) := by
  unfold readFields at read
  split at read
  · obtain ⟨⟨name, left⟩, string, read⟩ := bind_eq_ok_iff.mp read
    dsimp only at read
    split at read
    · obtain ⟨⟨value, behind⟩, first, read⟩ := bind_eq_ok_iff.mp read
      have written := readable.put (wellPaired_of_stringFrom string) (readers.value first)
      dsimp only at read
      split at read
      · obtain ⟨rfl, -⟩ := Prod.mk.inj (Except.ok.inj read)
        exact written
      · exact readers.fields read written
      · contradiction
    · contradiction
  · contradiction

theorem readersReadable (fuel : ℕ) : ReadersReadable fuel := by
  induction fuel with
  | zero => exact ⟨(nomatch ·), (nomatch ·), (nomatch ·)⟩
  | succ fuel ih => exact ⟨readable_of_readValue ih, readable_of_readItems ih, readable_of_readFields ih⟩

/-! ## Documents -/

theorem readable_of_read {depth : ℕ} {text : List Char} {value : Json} (known : read depth text = .ok value) :
    Readable depth value := by
  have document : readDocument depth text = .ok value := by
    unfold read at known
    split at known
    · next read => rw [read, Except.ok.inj known]
    all_goals contradiction
  unfold readDocument at document
  split_ifs at document
  · exact nomatch document
  · obtain ⟨⟨found, rest⟩, read, document⟩ := bind_eq_ok_iff.mp document
    dsimp only at document
    split at document
    · obtain rfl := Except.ok.inj document
      exact (readersReadable _).value read
    · contradiction

/-- A text that spells a value is read as a document that holds it. -/
theorem Spells.read_eq {depth : ℕ} {text : List Char} {value : Json} (spelled : Spells depth text value) :
    Json.read depth text = .ok value := by
  have whole := spelled.read (2 * text.length + 2) [] (Nat.le_add_right ..) (by simp [Ends])
  have markless : text.head? ≠ some '\ufeff' := by
    intro mark
    exact absurd (spelled.ascii _ (List.mem_of_mem_head? mark)) (by decide)
  have document : readDocument depth text = .ok value := by
    rw [List.append_nil] at whole
    rw [readDocument, if_neg markless, spelled.opens.skipSpace_eq]
    simp only [whole]
    rfl
  rw [Json.read, document]

/-- Every value that may be read is read from a text of its own, in ASCII. -/
theorem Readable.exists_text {depth : ℕ} {value : Json} (readable : Readable depth value) :
    ∃ text, IsAscii text ∧ read depth text = .ok value := by
  obtain ⟨text, spelled⟩ := readable.exists_spells
  exact ⟨text, spelled.ascii, spelled.read_eq⟩

end StoryCatalog.Json
