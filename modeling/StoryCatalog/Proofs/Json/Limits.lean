import StoryCatalog.Json.Reader
import StoryCatalog.Proofs.Number.Reading

/-!
# Where reading JSON meets a limit

Reading leaves an end of the text, or it stops. It stops at the limit of digits only in a run of more digits
than the limit, and at the limit of nesting only in a text with more opening brackets than may be open. So
a text with neither is read as a whole, or it is at fault itself.
-/

namespace StoryCatalog.Json

open Number

def isOpening (c : Char) : Bool :=
  c = '[' || c = '\x7b'

/-- So many digits stand somewhere in the text, one after the other. -/
def HasDigits (text : List Char) (count : Nat) : Prop :=
  ∃ digits, digits <:+: text ∧ digits.length = count ∧ ∀ c ∈ digits, c.isDigit

/-- What reading from the start of a text may come to, with `depth` levels of nesting left. -/
def Accounted {α : Type} (depth : Nat) (text : List Char) : Except Stop (α × List Char) → Prop
  | .ok (_, rest) => rest <:+ text
  | .error (.fault _ _) => True
  | .error (.digits error) => digitLimit < error.count ∧ HasDigits text error.count
  | .error (.depth _) => depth < text.countP isOpening

section Accounting

variable {α β : Type} {depth : Nat} {text rest : List Char}

theorem HasDigits.mono {count : Nat} (there : HasDigits rest count) (later : rest <:+ text) :
    HasDigits text count := by
  obtain ⟨digits, within, length, digit⟩ := there
  exact ⟨digits, within.trans later.isInfix, length, digit⟩

theorem Accounted.mono {outcome : Except Stop (α × List Char)} (accounted : Accounted depth rest outcome)
    (later : rest <:+ text) : Accounted depth text outcome := by
  match outcome, accounted with
  | .ok (_, _), suffix => exact List.IsSuffix.trans suffix later
  | .error (.fault _ _), _ => trivial
  | .error (.digits _), ⟨many, there⟩ => exact ⟨many, there.mono later⟩
  | .error (.depth _), deep =>
    have fewer : rest.countP isOpening ≤ text.countP isOpening := later.sublist.countP_le
    exact lt_of_lt_of_le deep fewer

/-- What is read after a part that was read is accounted for by the whole text. -/
theorem Accounted.bind {first : Except Stop (α × List Char)}
    {next : α × List Char → Except Stop (β × List Char)} (start : Accounted depth text first)
    (onward : ∀ value rest, rest <:+ text → Accounted depth text (next (value, rest))) :
    Accounted depth text (first >>= next) := by
  match first, start with
  | .ok (value, rest), suffix => exact onward value rest suffix
  | .error (.fault _ _), _ => trivial
  | .error (.digits _), there => exact there
  | .error (.depth _), deep => exact deep

end Accounting

theorem skipSpace_suffix (text : List Char) : skipSpace text <:+ text :=
  List.dropWhile_suffix isSpace

theorem suffix_of_skipSpace_eq_cons {text rest : List Char} {c : Char} (skipped : skipSpace text = c :: rest) :
    rest <:+ text :=
  (List.suffix_cons c rest).trans (skipped ▸ skipSpace_suffix text)

/-! ## Strings -/

theorem suffix_of_fourHex? {text rest : List Char} {n : Nat} (read : fourHex? text = some (n, rest)) :
    rest <:+ text := by
  unfold fourHex? at read
  split at read
  · simp only [Option.bind_eq_bind, Option.bind_eq_some_iff, Option.pure_def, Option.some.injEq,
      Prod.mk.injEq] at read
    obtain ⟨_, _, _, _, _, _, _, _, _, rfl⟩ := read
    exact ⟨[_, _, _, _], rfl⟩
  · contradiction

theorem accounted_unicodeEscape (depth : Nat) (text : List Char) : Accounted depth text (unicodeEscape text) := by
  unfold unicodeEscape
  split
  · trivial
  · next high rest read =>
    have suffix := suffix_of_fourHex? read
    split_ifs with paired
    · split
      · next _ _ more =>
        have inside : more <:+ text := (List.suffix_append ['\\', 'u'] more).trans suffix
        split
        · trivial
        · next low after second =>
          split_ifs
          · exact (suffix_of_fourHex? second).trans inside
          · exact suffix
      · exact suffix
    · exact suffix

theorem accounted_readString (depth opened fuel : Nat) (text : List Char) :
    Accounted depth text (readString opened fuel text) := by
  induction fuel generalizing text with
  | zero => trivial
  | succ fuel ih =>
    -- Every way on reads a part of the text and then a string from what is left of it.
    have onward {unit : TextUnit} {rest : List Char} (later : rest <:+ text) :
        Accounted depth text (do
          let read ← readString opened fuel rest
          return (unit :: read.1, read.2)) :=
      ((ih rest).mono later).bind fun _ _ suffix => suffix
    unfold readString
    split
    · trivial
    · exact List.suffix_cons _ _
    · trivial
    · next rest =>
      have inside : rest <:+ '\\' :: 'u' :: rest := List.suffix_append ['\\', 'u'] rest
      exact ((accounted_unicodeEscape depth rest).mono inside).bind fun _ _ later => onward later
    · next c rest _ =>
      split
      · trivial
      · exact onward (List.suffix_append ['\\', c] rest)
    · split_ifs
      · trivial
      · exact onward (List.suffix_cons _ _)

theorem accounted_stringFrom (depth : Nat) (text : List Char) : Accounted depth text (stringFrom text) :=
  (accounted_readString depth _ _ text).bind fun _ _ suffix => suffix

/-! ## Numbers -/

theorem append_of_wholePart? {text whole rest : List Char} (read : wholePart? text = some (whole, rest)) :
    whole ++ rest = text ∧ ∀ c ∈ whole, c.isDigit := by
  unfold wholePart? at read
  split at read
  · contradiction
  · next c after =>
    split_ifs at read with zero digit
    · obtain ⟨rfl, rfl⟩ := Prod.mk.inj (Option.some.inj read)
      refine ⟨by rw [zero]; rfl, ?_⟩
      simp
    · obtain ⟨rfl, rfl⟩ := Prod.mk.inj (Option.some.inj read)
      refine ⟨by rw [List.cons_append, List.takeWhile_append_dropWhile], ?_⟩
      intro d member
      rcases List.mem_cons.mp member with rfl | later
      · exact digit
      · exact List.mem_takeWhile_imp later

theorem fractionOf_suffix (text : List Char) : (fractionOf text).2 <:+ text := by
  unfold fractionOf
  split
  · next c rest =>
    split_ifs
    · exact (List.dropWhile_suffix _).trans (List.suffix_append ['.', c] rest)
    · exact List.suffix_rfl
  · exact List.suffix_rfl

theorem exponentOf_suffix (text : List Char) : (exponentOf text).2 <:+ text := by
  unfold exponentOf
  split
  · next e rest =>
    split_ifs with marked
    · dsimp only
      split_ifs
      · exact List.suffix_rfl
      · exact (List.dropWhile_suffix _).trans ((splitSign_suffix rest).trans (List.suffix_cons e rest))
    · exact List.suffix_rfl
  · exact List.suffix_rfl

theorem accounted_readNumber (depth : Nat) (text : List Char) : Accounted depth text (readNumber text) := by
  unfold readNumber
  split
  next negative unsigned signed =>
  have later : unsigned <:+ text := by
    split at signed
    · obtain ⟨-, rfl⟩ := Prod.mk.inj signed
      exact List.suffix_cons _ _
    · obtain ⟨-, rfl⟩ := Prod.mk.inj signed
      exact List.suffix_rfl
  split
  · trivial
  · next whole rest read =>
    obtain ⟨rfl, digit⟩ := append_of_wholePart? read
    have ending : (exponentOf (fractionOf rest).2).2 <:+ text :=
      ((exponentOf_suffix _).trans (fractionOf_suffix rest)).trans ((List.suffix_append whole rest).trans later)
    dsimp only
    split_ifs
    · cases valued : wholeOfDigits (digitsOf whole) with
      | ok n => exact ending
      | error error =>
        obtain ⟨long, rfl⟩ := wholeOfDigits_eq_error_iff.mp valued
        have length : whole.length = (digitsOf whole).length := (List.length_map _).symm
        exact ⟨long, whole, (List.prefix_append whole rest).isInfix.trans later.isInfix, length, digit⟩
    · exact ending

/-! ## Values -/

theorem suffix_of_readWord? {text rest : List Char} {value : Json} (read : readWord? text = some (value, rest)) :
    rest <:+ text := by
  obtain ⟨⟨word, meant⟩, -, found⟩ := List.exists_of_findSome?_eq_some read
  dsimp only at found
  split_ifs at found
  obtain ⟨-, rfl⟩ := Prod.mk.inj (Option.some.inj found)
  exact List.drop_suffix _ _

theorem accounted_depth_cons {α : Type} {c : Char} {rest : List Char} {depth : Nat} (container : Container)
    (opening : isOpening c = true) (deep : depth ≤ rest.countP isOpening) :
    Accounted (α := α) depth (c :: rest) (.error (.depth container)) := by
  change depth < (c :: rest).countP isOpening
  rw [List.countP_cons_of_pos opening]
  omega

/-- A bracket before the text accounts for one level more. -/
theorem Accounted.opened {α : Type} {depth : Nat} {c : Char} {rest inside : List Char}
    {outcome : Except Stop (α × List Char)} (accounted : Accounted depth inside outcome)
    (later : inside <:+ rest) (opening : isOpening c = true) : Accounted (depth + 1) (c :: rest) outcome := by
  match outcome, accounted.mono later with
  | .ok (_, _), suffix => exact List.IsSuffix.trans suffix (List.suffix_cons c rest)
  | .error (.fault _ _), _ => trivial
  | .error (.digits _), ⟨many, there⟩ => exact ⟨many, there.mono (List.suffix_cons c rest)⟩
  | .error (.depth container), deep => exact accounted_depth_cons container opening deep

/-- What the three readers come to with this fuel. -/
structure ReadersAccounted (fuel : Nat) : Prop where
  value : ∀ depth text, Accounted depth text (readValue depth fuel text)
  items : ∀ depth text, Accounted depth text (readItems depth fuel text)
  fields : ∀ depth fields text, Accounted depth text (readFields depth fuel fields text)

theorem accounted_readValue_succ {fuel : Nat} (readers : ReadersAccounted fuel) (depth : Nat) (text : List Char) :
    Accounted depth text (readValue depth (fuel + 1) text) := by
  unfold readValue
  split
  · trivial
  · next rest =>
    exact ((accounted_stringFrom depth rest).mono (List.suffix_cons _ _)).bind fun _ _ suffix => suffix
  · next rest =>
    cases depth with
    | zero => exact accounted_depth_cons _ rfl (Nat.zero_le _)
    | succ depth =>
      dsimp only
      split
      · next after skipped => exact (suffix_of_skipSpace_eq_cons skipped).trans (List.suffix_cons _ _)
      · exact ((readers.items depth _).opened (skipSpace_suffix rest) rfl).bind fun _ _ suffix => suffix
  · next rest =>
    cases depth with
    | zero => exact accounted_depth_cons _ rfl (Nat.zero_le _)
    | succ depth =>
      dsimp only
      split
      · next after skipped => exact (suffix_of_skipSpace_eq_cons skipped).trans (List.suffix_cons _ _)
      · exact ((readers.fields depth _ _).opened (skipSpace_suffix rest) rfl).bind fun _ _ suffix => suffix
  · split
    · next found read => exact suffix_of_readWord? read
    · exact accounted_readNumber depth text

theorem accounted_readItems_succ {fuel : Nat} (readers : ReadersAccounted fuel) (depth : Nat) (text : List Char) :
    Accounted depth text (readItems depth (fuel + 1) text) := by
  unfold readItems
  refine (readers.value depth text).bind fun item rest suffix => ?_
  dsimp only
  split
  · next after skipped => exact (suffix_of_skipSpace_eq_cons skipped).trans suffix
  · next more skipped =>
    have later : skipSpace more <:+ text :=
      (skipSpace_suffix more).trans ((suffix_of_skipSpace_eq_cons skipped).trans suffix)
    exact ((readers.items depth _).mono later).bind fun _ _ ending => ending
  · trivial

theorem accounted_readFields_succ {fuel : Nat} (readers : ReadersAccounted fuel) (depth : Nat)
    (fields : Fields Json WideText) (text : List Char) :
    Accounted depth text (readFields depth (fuel + 1) fields text) := by
  unfold readFields
  split
  · next rest =>
    refine ((accounted_stringFrom depth rest).mono (List.suffix_cons _ _)).bind fun name rest named => ?_
    dsimp only
    split
    · next more skipped =>
      have inside : skipSpace more <:+ _ :=
        (skipSpace_suffix more).trans ((suffix_of_skipSpace_eq_cons skipped).trans named)
      refine ((readers.value depth _).mono inside).bind fun value rest valued => ?_
      dsimp only
      split
      · next after closed => exact (suffix_of_skipSpace_eq_cons closed).trans valued
      · next more separated =>
        have later : skipSpace more <:+ _ :=
          (skipSpace_suffix more).trans ((suffix_of_skipSpace_eq_cons separated).trans valued)
        exact (readers.fields depth _ _).mono later
      · trivial
    · trivial
  · trivial

theorem readersAccounted (fuel : Nat) : ReadersAccounted fuel := by
  induction fuel with
  | zero => exact ⟨fun _ _ => trivial, fun _ _ => trivial, fun _ _ _ => trivial⟩
  | succ fuel ih =>
    exact ⟨accounted_readValue_succ ih, accounted_readItems_succ ih, accounted_readFields_succ ih⟩

/-! ## Documents -/

/-- Whether a document was given up for one of the limits, and not for a fault in it. -/
def ReadError.isLimit : ReadError → Bool
  | .malformed _ _ => false
  | .tooManyDigits _ => true
  | .tooDeep _ => true

section Documents

variable {depth : Nat} {text : List Char}

/-- A text that could meet a limit where `depth` levels of nesting are left: it has more digits in a row, or more
opening brackets, than are read. -/
def IsVast (depth : Nat) (text : List Char) : Prop :=
  (∃ count, digitLimit < count ∧ HasDigits text count) ∨ depth < text.countP isOpening

theorem isVast_of_readDocument {stop : Stop} (stopped : readDocument depth text = .error stop) :
    (∃ fault remaining, stop = .fault fault remaining) ∨ IsVast depth text := by
  have accounted : Accounted depth text (readValue depth (2 * text.length + 2) (skipSpace text)) :=
    ((readersAccounted _).value depth _).mono (skipSpace_suffix text)
  unfold readDocument at stopped
  split_ifs at stopped
  · exact .inl ⟨_, _, (Except.error.inj stopped).symm⟩
  · cases read : readValue depth (2 * text.length + 2) (skipSpace text) with
    | ok found =>
      obtain ⟨value, rest⟩ := found
      simp only [read, bind, Except.bind, pure, Except.pure] at stopped
      split at stopped
      · contradiction
      · exact .inl ⟨_, _, (Except.error.inj stopped).symm⟩
    | error cause =>
      rw [read] at accounted
      simp only [read, bind, Except.bind, Except.error.injEq] at stopped
      subst stopped
      match cause, accounted with
      | .fault fault remaining, _ => exact .inl ⟨fault, remaining, rfl⟩
      | .digits error, ⟨many, there⟩ => exact .inr (.inl ⟨error.count, many, there⟩)
      | .depth _, deep => exact .inr (.inr deep)

/-- Only a vast text is given up for a limit. -/
theorem isVast_of_isLimit {error : ReadError} (failed : read depth text = .error error)
    (limit : error.isLimit = true) : IsVast depth text := by
  unfold read at failed
  cases stopped : readDocument depth text with
  | ok value => simp [stopped] at failed
  | error stop =>
    rcases isVast_of_readDocument stopped with ⟨fault, remaining, rfl⟩ | vast
    · rw [stopped] at failed
      obtain rfl := Except.error.inj failed
      contradiction
    · exact vast

theorem HasDigits.le_length {count : Nat} (there : HasDigits text count) : count ≤ text.length := by
  obtain ⟨digits, within, rfl, -⟩ := there
  exact within.length_le

/-- A text is vast by its length at least. -/
theorem not_isVast_of_length_le (short : text.length ≤ digitLimit) (flat : text.length ≤ depth) :
    ¬IsVast depth text := by
  rintro (⟨count, many, there⟩ | deep)
  · have bound := there.le_length
    omega
  · have bound : text.countP isOpening ≤ text.length := List.countP_le_length
    omega

/-- A whole number of too many digits is not read. -/
theorem read_ones (depth : Nat) {count : Nat} (long : digitLimit < count) :
    read depth (List.replicate count '1') = .error (.tooManyDigits ⟨count⟩) := by
  obtain ⟨more, rfl⟩ : ∃ more, count = more + 1 := ⟨count - 1, by omega⟩
  have whole : wholePart? ('1' :: List.replicate more '1') = some ('1' :: List.replicate more '1', []) := by
    simp [wholePart?]
  have valued : wholeOfDigits (digitsOf ('1' :: List.replicate more '1')) = .error ⟨more + 1⟩ := by
    rw [wholeOfDigits_eq_error_iff, digitsOf, List.length_map, List.length_cons, List.length_replicate]
    exact ⟨long, rfl⟩
  have number : readNumber ('1' :: List.replicate more '1') = .error (.digits ⟨more + 1⟩) := by
    simp [readNumber, whole, fractionOf, exponentOf, valued]
  have value (fuel : Nat) :
      readValue depth (fuel + 1) ('1' :: List.replicate more '1') = .error (.digits ⟨more + 1⟩) := by
    unfold readValue
    exact number
  have document : readDocument depth ('1' :: List.replicate more '1') = .error (.digits ⟨more + 1⟩) := by
    have skipped : skipSpace ('1' :: List.replicate more '1') = '1' :: List.replicate more '1' := rfl
    simp only [readDocument, skipped, value, List.head?_cons]
    rfl
  simp [read, List.replicate_succ, document]

end Documents

end StoryCatalog.Json
