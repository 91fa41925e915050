import StoryCatalog.Proofs.Except
import StoryCatalog.Service.Response

/-!
# What a body holds

Showing a value changes numbers and the names of fields only: texts are as they were, and where no name
holds half a surrogate pair every field is still there under its name. What keeps fields from being written is
decided field by field: how far they are nested, and whether their texts can be encoded.
-/

namespace StoryCatalog

/-- The text has nothing but characters. -/
def Spelled (text : WideText) : Prop :=
  ∃ s : String, text = s

namespace Text

theorem encodingFault?_eq_none_iff {text : WideText} : encodingFault? text = none ↔ ∃ s, text = .whole s := by
  cases text with
  | whole s => simp
  | halved front half rest =>
    have stops (pos : Nat) (chars : List Char) :
        faultFrom? (fun _ => false) pos (chars.map .char ++ .lone half :: rest) ≠ none := by
      induction chars generalizing pos with
      | nil => exact Option.some_ne_none _
      | cons c chars ih => exact ih (pos + 1)
    simp [encodingFault?, WideText.units, stops]

end Text

namespace Json

open Text

/-! ## Showing -/

theorem shownName_whole (name : String) : shownName name = name := by
  rw [shownName, WideText.units_whole, List.flatMap_map, ← List.map_eq_flatMap, WideText.ofUnits_chars,
    String.ofList_toList]

theorem shownItems_eq_map (items : List Json) : shownItems items = items.map shown := by
  induction items with
  | nil => rfl
  | cons item items ih => rw [shownItems, ih, List.map_cons]

theorem shownFields_eq_map (fields : List (WideText × Json)) :
    shownFields fields = fields.map fun (name, value) => (shownName name, shown value) := by
  induction fields with
  | nil => rfl
  | cons field fields ih => rw [shownFields, ih, List.map_cons]

/-- The names of fields are texts of characters. -/
def Named (fields : List (WideText × Json)) : Prop :=
  ∀ field ∈ fields, ∃ name : String, field.1 = name

theorem named_nil : Named [] :=
  fun _ member => absurd member List.not_mem_nil

theorem Named.append {fields more : List (WideText × Json)} (named : Named fields) (others : Named more) :
    Named (fields ++ more) :=
  List.forall_mem_append.mpr ⟨named, others⟩

theorem shown_obj {fields : List (WideText × Json)} (named : Named fields) :
    shown (.obj fields) = .obj (fields.map fun field => (field.1, shown field.2)) := by
  have plain : fields.all (·.1.text?.isSome) = true := by
    rw [List.all_eq_true]
    intro field member
    obtain ⟨name, whole⟩ := named field member
    rw [whole]
    rfl
  rw [shown, if_pos plain, shownFields_eq_map]
  refine congrArg Json.obj (List.map_congr_left fun field member => ?_)
  obtain ⟨key, value⟩ := field
  obtain ⟨name, rfl⟩ : ∃ name : String, key = name := named _ member
  exact congrArg (·, shown value) (shownName_whole name)

theorem shown_eq_str_iff {json : Json} {text : WideText} : shown json = .str text ↔ json = .str text := by
  cases json with
  | float x =>
    rw [shown]
    split <;> simp
  | obj fields =>
    rw [shown]
    split <;> simp
  | _ => simp [shown]

theorem lookup_map_shown (fields : List (WideText × Json)) (name : WideText) :
    (fields.map fun field => (field.1, shown field.2)).lookup name = (fields.lookup name).map shown := by
  induction fields with
  | nil => rfl
  | cons field fields ih =>
    obtain ⟨key, value⟩ := field
    simp only [List.map_cons, List.lookup_cons, ih]
    cases name == key <;> rfl

theorem field?_shown {fields : List (WideText × Json)} (named : Named fields) (name : String) :
    (shown (.obj fields)).field? name = (field? name (.obj fields)).map shown := by
  rw [shown_obj named]
  exact lookup_map_shown fields name

/-! ## Writing -/

mutual

/-- Every text in the value can be encoded; the names of fields need not be. -/
def Encodable : Json → Prop
  | .str text => ∃ s, text = .whole s
  | .arr items => EncodableItems items
  | .obj fields => EncodableFields fields
  | _ => True

def EncodableItems : List Json → Prop
  | [] => True
  | item :: items => Encodable item ∧ EncodableItems items

def EncodableFields : List (WideText × Json) → Prop
  | [] => True
  | (_, value) :: fields => Encodable value ∧ EncodableFields fields

end

theorem heightOfFields_le_iff {fields : List (WideText × Json)} {limit : Nat} :
    heightOfFields fields ≤ limit ↔ ∀ field ∈ fields, height field.2 ≤ limit := by
  induction fields with
  | nil => simp [heightOfFields]
  | cons field fields ih => rw [heightOfFields, Nat.max_le, ih, List.forall_mem_cons]

theorem encodableFields_iff {fields : List (WideText × Json)} :
    EncodableFields fields ↔ ∀ field ∈ fields, Encodable field.2 := by
  induction fields with
  | nil => simp [EncodableFields]
  | cons field fields ih => rw [EncodableFields, ih, List.forall_mem_cons]

theorem height_pos (json : Json) : 0 < height json := by
  cases json <;> simp [height]

mutual

/-- A value can be written exactly where it is low enough and its texts can be encoded. -/
theorem writingFault?_eq_none_iff (limit : Nat) (json : Json) :
    writingFault? limit json = none ↔ height json ≤ limit ∧ Encodable json := by
  cases limit with
  | zero => simpa [writingFault?] using fun low => absurd low (Nat.ne_of_gt (height_pos json))
  | succ limit =>
    cases json with
    | str text =>
      simp [writingFault?, height, Encodable, encodingFault?_eq_none_iff]
    | arr items => rw [writingFault?, itemsFault?_eq_none_iff limit items, height, Encodable, Nat.add_le_add_iff_right]
    | obj fields =>
      rw [writingFault?, fieldsFault?_eq_none_iff limit fields, height, Encodable, Nat.add_le_add_iff_right]
    | _ => simp [writingFault?, height, Encodable]

theorem itemsFault?_eq_none_iff (limit : Nat) (items : List Json) :
    itemsFault? limit items = none ↔ heightOfItems items ≤ limit ∧ EncodableItems items := by
  cases items with
  | nil => simp [itemsFault?, heightOfItems, EncodableItems]
  | cons item items =>
    rw [itemsFault?, Option.or_eq_none_iff, writingFault?_eq_none_iff limit item, itemsFault?_eq_none_iff limit items,
      heightOfItems, EncodableItems, Nat.max_le, and_and_and_comm]

theorem fieldsFault?_eq_none_iff (limit : Nat) (fields : List (WideText × Json)) :
    fieldsFault? limit fields = none ↔ heightOfFields fields ≤ limit ∧ EncodableFields fields := by
  cases fields with
  | nil => simp [fieldsFault?, heightOfFields, EncodableFields]
  | cons field fields =>
    rw [fieldsFault?, Option.or_eq_none_iff, writingFault?_eq_none_iff limit field.2,
      fieldsFault?_eq_none_iff limit fields, heightOfFields, EncodableFields, Nat.max_le, and_and_and_comm]

end

mutual

/-- What keeps a value from being written is nothing of the index. -/
theorem writingFault?_ne_index (limit : Nat) (json : Json) (cause : IndexError) :
    writingFault? limit json ≠ some (.index cause) := by
  cases limit with
  | zero => simp [writingFault?]
  | succ limit =>
    cases json with
    | arr items => exact itemsFault?_ne_index limit items cause
    | obj fields => exact fieldsFault?_ne_index limit fields cause
    | _ => simp [writingFault?]

theorem itemsFault?_ne_index (limit : Nat) (items : List Json) (cause : IndexError) :
    itemsFault? limit items ≠ some (.index cause) := by
  cases items with
  | nil => simp [itemsFault?]
  | cons item items =>
    rw [itemsFault?, Ne, Option.or_eq_some_iff, not_or]
    exact ⟨writingFault?_ne_index limit item cause, fun later => itemsFault?_ne_index limit items cause later.2⟩

theorem fieldsFault?_ne_index (limit : Nat) (fields : List (WideText × Json)) (cause : IndexError) :
    fieldsFault? limit fields ≠ some (.index cause) := by
  cases fields with
  | nil => simp [fieldsFault?]
  | cons field fields =>
    rw [fieldsFault?, Ne, Option.or_eq_some_iff, not_or]
    exact ⟨writingFault?_ne_index limit field.2 cause, fun later => fieldsFault?_ne_index limit fields cause later.2⟩

end

end Json

/-! ## Records -/

/-- The fields are nested no further than can be written, and their texts can be encoded. -/
structure Writable (fields : List (WideText × Json)) : Prop where
  low : Json.heightOfFields fields ≤ heightLimit
  encodable : Json.EncodableFields fields

section Records

variable {fields more : List (WideText × Json)}

theorem fieldsFault?_eq_none_iff_writable : Json.fieldsFault? heightLimit fields = none ↔ Writable fields := by
  rw [Json.fieldsFault?_eq_none_iff]
  exact ⟨fun ⟨low, encodable⟩ => ⟨low, encodable⟩, fun ⟨low, encodable⟩ => ⟨low, encodable⟩⟩

theorem writable_append_iff : Writable (fields ++ more) ↔ Writable fields ∧ Writable more := by
  simp only [← fieldsFault?_eq_none_iff_writable, Json.fieldsFault?_eq_none_iff, Json.heightOfFields_le_iff,
    Json.encodableFields_iff, List.forall_mem_append]
  exact and_and_and_comm

/-- A part of the fields can be written where all of them can. -/
theorem Writable.of_subset (written : Writable fields) (part : more ⊆ fields) : Writable more where
  low := Json.heightOfFields_le_iff.mpr fun field member =>
    Json.heightOfFields_le_iff.mp written.low field (part member)
  encodable := Json.encodableFields_iff.mpr fun field member =>
    Json.encodableFields_iff.mp written.encodable field (part member)

theorem writable_eq_ok_iff : writable fields = .ok more ↔ Writable fields ∧ fields = more := by
  rw [← fieldsFault?_eq_none_iff_writable]
  unfold writable
  cases Json.fieldsFault? heightLimit fields <;> simp

theorem writable_eq_error {error : ServiceError} (failed : writable fields = .error error) :
    ¬Writable fields ∧ ∀ cause, error ≠ .index cause := by
  rw [← fieldsFault?_eq_none_iff_writable]
  unfold writable at failed
  cases found : Json.fieldsFault? heightLimit fields with
  | none => simp [found] at failed
  | some fault =>
    rw [found] at failed
    obtain rfl := Except.error.inj failed
    refine ⟨Option.some_ne_none _, ?_⟩
    rintro cause rfl
    exact Json.fieldsFault?_ne_index heightLimit fields cause found

theorem recordJson_eq_ok_iff {json : Json} : recordJson fields = .ok json ↔ Writable fields ∧ .obj fields = json := by
  unfold recordJson
  cases written : writable fields with
  | ok same =>
    obtain ⟨fits, rfl⟩ := writable_eq_ok_iff.mp written
    simp [fits]
  | error error => simp [(writable_eq_error written).1]

theorem recordJson_eq_error {error : ServiceError} (failed : recordJson fields = .error error) :
    ¬Writable fields ∧ ∀ cause, error ≠ .index cause := by
  unfold recordJson at failed
  cases written : writable fields with
  | ok same => simp [written] at failed
  | error fault =>
    rw [written] at failed
    exact Except.error.inj failed ▸ writable_eq_error written

end Records

/-! ## Failures -/

namespace Response

open Text

theorem sentText_whole (name text : String) : ∃ chars : List Char, sentText name text = chars.map .char := by
  have sent (chars : List Char) : ∃ more : List Char, (chars.map TextUnit.char).flatMap sentUnit = more.map .char := by
    induction chars with
    | nil => exact ⟨[], rfl⟩
    | cons c chars ih =>
      obtain ⟨more, later⟩ := ih
      rw [List.map_cons, List.flatMap_cons, later, sentUnit]
      split_ifs
      · exact ⟨Json.writtenChar c ++ more, (List.map_append ..).symm⟩
      · exact ⟨c :: more, rfl⟩
  obtain ⟨more, same⟩ := sent text.toList
  refine ⟨(",\"" ++ name ++ "\":\"").toList ++ more ++ ['"'], ?_⟩
  rw [sentText, WideText.units_whole, same]
  simp

/-- A failure whose texts are all of characters can be sent. -/
theorem exists_failure_eq_ok (status : Nat) {texts : List (String × WideText)}
    (plain : ∀ text ∈ texts, ∃ s : String, text.2 = s) :
    ∃ body, failure status texts = .ok ⟨status, body⟩ := by
  have sent : ∃ chars : List Char, texts.flatMap (fun text => sentText text.1 text.2) = chars.map .char := by
    induction texts with
    | nil => exact ⟨[], rfl⟩
    | cons text texts ih =>
      obtain ⟨name, text⟩ := text
      obtain ⟨⟨s, rfl⟩, others⟩ := List.forall_mem_cons.mp plain
      obtain ⟨more, later⟩ := ih others
      obtain ⟨chars, first⟩ := sentText_whole name s
      exact ⟨chars ++ more, by simp only [List.flatMap_cons, later, first, List.map_append]⟩
  obtain ⟨chars, same⟩ := sent
  simp only [failure, same, WideText.units_whole, ← List.map_append, WideText.ofUnits_chars, encodingFault?_whole]
  exact ⟨_, rfl⟩

theorem status_failure {status : Nat} {texts : List (String × WideText)} {response : Response}
    (sent : failure status texts = .ok response) : response.status = status := by
  unfold failure at sent
  dsimp only at sent
  split at sent
  · contradiction
  · rw [← Except.ok.inj sent]

theorem status_unexpected (message : WideText) : (unexpected message).status = 500 := by
  unfold unexpected
  split
  · next sent => exact status_failure sent
  · rfl

/-- A failure has a response of its own where that can be sent, and is an internal one where it cannot. -/
theorem status_orUnexpected (status : Nat) (texts : List (String × WideText)) :
    (orUnexpected (failure status texts)).status = status ∨ (orUnexpected (failure status texts)).status = 500 := by
  cases sent : failure status texts with
  | ok response => exact .inl (status_failure sent)
  | error error => exact .inr (status_unexpected error.message)

theorem status_orUnexpected_of_plain (status : Nat) {texts : List (String × WideText)}
    (plain : ∀ text ∈ texts, ∃ s : String, text.2 = s) : (orUnexpected (failure status texts)).status = status := by
  obtain ⟨body, sent⟩ := exists_failure_eq_ok status plain
  rw [sent]
  rfl

/-- A cause without a response of its own is an internal failure. -/
theorem status_ofError {server : WideText} {error : ServiceError}
    (available : ∀ cause, error ≠ .index (.unavailable cause)) (known : ∀ id, error ≠ .index (.notFound id)) :
    (ofError server error).status = 500 := by
  unfold ofError
  split
  · exact absurd rfl (available _)
  · exact absurd rfl (known _)
  · exact status_unexpected _

theorem status_ofError_ne (server : WideText) (error : ServiceError) : (ofError server error).status ≠ 200 := by
  have other {status : Nat} {texts : List (String × WideText)} (failing : status ≠ 200) :
      (orUnexpected (failure status texts)).status ≠ 200 := by
    rcases status_orUnexpected status texts with same | same <;> rw [same]
    · exact failing
    · decide
  unfold ofError
  split
  · exact other (by decide)
  · exact other (by decide)
  · rw [status_unexpected]
    decide

end Response

end StoryCatalog
