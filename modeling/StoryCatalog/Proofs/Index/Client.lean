import StoryCatalog.Index.Client
import StoryCatalog.Proofs.Except
import StoryCatalog.Proofs.Fields
import StoryCatalog.Proofs.Json.Depth
import StoryCatalog.Proofs.Json.Limits

/-!
# What the questions to the index come to

All questions are answered from the same entries, so those that may read as deep fail together, and the only
failure that one of them adds is an id that is not listed. Bytes that hold no document make the index
unavailable; the limits of reading are the only other way in which bytes can fail. To read deeper changes
nothing else.
-/

namespace StoryCatalog.IndexClient

open Text

variable {client : IndexClient} {depth : Nat} {error : IndexError} {bytes : List UInt8}

/-! ## Answers -/

theorem stories_eq_ok_iff {stories : List IndexEntry} :
    client.stories depth = .ok stories ↔ ∃ entries, client.entries depth = .ok entries ∧ entries.values = stories := by
  simp only [IndexClient.stories, bind_eq_ok_iff, pure_eq_ok_iff]

theorem story_eq_ok_iff {id : WideText} {entry : IndexEntry} :
    client.story depth id = .ok entry ↔ ∃ entries, client.entries depth = .ok entries ∧ entries.get? id = some entry := by
  unfold story
  rw [bind_eq_ok_iff]
  refine exists_congr fun entries => and_congr_right fun _ => ?_
  cases entries.get? id with
  | none => exact ⟨fun failed => (nomatch failed), fun found => (nomatch found)⟩
  | some found => rw [pure_eq_ok_iff, Option.some.injEq]

theorem storiesOfKind_eq_ok_iff {kind : WideText} {stories : List IndexEntry} :
    client.storiesOfKind depth kind = .ok stories ↔
      ∃ entries, client.entries depth = .ok entries ∧ entries.values.filter (·.belongsTo kind) = stories := by
  simp only [storiesOfKind, bind_eq_ok_iff, stories_eq_ok_iff, pure_eq_ok_iff]
  constructor
  · rintro ⟨_, ⟨entries, asked, rfl⟩, rfl⟩
    exact ⟨entries, asked, rfl⟩
  · rintro ⟨entries, asked, rfl⟩
    exact ⟨_, ⟨entries, asked, rfl⟩, rfl⟩

/-- No entry is listed twice under one name. -/
theorem nodup_keys_entries {entries : Fields IndexEntry WideText} (asked : client.entries depth = .ok entries) :
    entries.keys.Nodup := by
  simp only [IndexClient.entries, bind_eq_ok_iff, pure_eq_ok_iff] at asked
  obtain ⟨bytes, -, document, -, rfl⟩ := asked
  unfold entriesOf
  split
  · exact Fields.nodup_keys_ofList _
  · exact List.nodup_nil

/-! ## Failures -/

theorem stories_eq_error_iff : client.stories depth = .error error ↔ client.entries depth = .error error := by
  rw [IndexClient.stories, bind_pure_eq_error_iff]

theorem storiesOfKind_eq_error_iff {kind : WideText} :
    client.storiesOfKind depth kind = .error error ↔ client.entries depth = .error error := by
  rw [storiesOfKind, bind_pure_eq_error_iff, stories_eq_error_iff]

theorem story_eq_error_iff {id : WideText} :
    client.story depth id = .error error ↔
      client.entries depth = .error error ∨
        ∃ entries, client.entries depth = .ok entries ∧ entries.get? id = none ∧ error = .notFound id := by
  unfold story
  rw [bind_eq_error_iff]
  refine or_congr_right (exists_congr fun entries => and_congr_right fun _ => ?_)
  cases entries.get? id with
  | none => exact ⟨fun failed => ⟨rfl, (Except.error.inj failed).symm⟩, fun missing => missing.2 ▸ rfl⟩
  | some found => exact ⟨fun failed => (nomatch failed), fun missing => (nomatch missing.1)⟩

/-! ## Documents -/

/-- The bytes are a text, and reading it as a document of such a depth ends at one of the reader's limits. -/
def Overruns (depth : Nat) (bytes : List UInt8) : Prop :=
  ∃ text error, decodeUtf8 bytes = .ok text ∧ Json.read depth text = .error error ∧ error.isLimit = true

theorem entries_eq_error_iff (fetched : client.fetch.result = .ok bytes) :
    client.entries depth = .error error ↔ documentOf depth bytes = .error error := by
  unfold entries
  rw [fetched]
  simp only [bind_eq_error_iff, pure_ne_error, and_false, exists_false, or_false, reduceCtorEq, false_or,
    Except.ok.injEq, exists_eq_left']

theorem documentOf_eq_ok_iff {bytes : List UInt8} {document : Json} : documentOf depth bytes = .ok document ↔
    ∃ text, decodeUtf8 bytes = .ok text ∧ Json.read depth text = .ok document := by
  unfold documentOf
  cases decodeUtf8 bytes with
  | error fault => simp
  | ok text =>
    simp only [Except.ok.injEq, exists_eq_left']
    cases Json.read depth text with
    | ok value => simp
    | error cause => cases cause <;> simp

/-- Bytes that hold no document make the index unavailable, unless a limit was met in reading them. -/
theorem documentOf_eq_error {bytes : List UInt8} (failed : documentOf depth bytes = .error error) :
    (∃ cause, error = .unavailable cause) ∨
      ∃ text cause, decodeUtf8 bytes = .ok text ∧ Json.read depth text = .error cause ∧ cause.isLimit = true ∧
        error = .document cause := by
  unfold documentOf at failed
  cases decoded : decodeUtf8 bytes with
  | error fault =>
    rw [decoded] at failed
    exact .inl ⟨_, (Except.error.inj failed).symm⟩
  | ok text =>
    rw [decoded] at failed
    cases read : Json.read depth text with
    | ok document => simp [read] at failed
    | error cause =>
      simp only [read] at failed
      cases cause with
      | malformed fault position => exact .inl ⟨_, (Except.error.inj failed).symm⟩
      | tooManyDigits digits => exact .inr ⟨text, _, rfl, read, rfl, (Except.error.inj failed).symm⟩
      | tooDeep container => exact .inr ⟨text, _, rfl, read, rfl, (Except.error.inj failed).symm⟩

/-! ## Depth -/

/-- The index is nested deeper than may be read. -/
def TooDeep (client : IndexClient) (depth : Nat) : Prop :=
  ∃ container, client.entries depth = .error (.document (.tooDeep container))

theorem not_tooDeep_of_toBool (read : (client.entries depth).toBool = true) : ¬client.TooDeep depth := by
  rintro ⟨container, unread⟩
  rw [unread] at read
  contradiction

theorem documentOf_of_le {deeper : Nat} (more : depth ≤ deeper)
    (within : ∀ container, documentOf depth bytes ≠ .error (.document (.tooDeep container))) :
    documentOf deeper bytes = documentOf depth bytes := by
  unfold documentOf at within ⊢
  cases decoded : decodeUtf8 bytes with
  | error fault => rfl
  | ok text =>
    have shallow : ∀ container, Json.read depth text ≠ .error (.tooDeep container) := by
      intro container deep
      exact within container (by simp only [decoded, deep])
    dsimp only
    rw [Json.read_of_le more shallow]

/-- An index that is not too deep has the same entries where it may be deeper. -/
theorem entries_of_le {deeper : Nat} (more : depth ≤ deeper) (within : ¬client.TooDeep depth) :
    client.entries deeper = client.entries depth := by
  unfold entries
  cases fetched : client.fetch.result with
  | error failure => rfl
  | ok bytes =>
    have shallow : ∀ container, documentOf depth bytes ≠ .error (.document (.tooDeep container)) :=
      fun container deep => within ⟨container, (entries_eq_error_iff fetched).mpr deep⟩
    change (do return entriesOf (← documentOf deeper bytes)) = (do return entriesOf (← documentOf depth bytes))
    rw [documentOf_of_le more shallow]

theorem TooDeep.mono {deeper : Nat} (deep : client.TooDeep deeper) (more : depth ≤ deeper) : client.TooDeep depth := by
  by_contra within
  obtain ⟨container, unread⟩ := deep
  exact within ⟨container, (entries_of_le more within).symm.trans unread⟩

/-- Entries that are read at one depth are read at every other, unless the index is too deep there. -/
theorem entries_eq_ok_or_tooDeep {entries : Fields IndexEntry WideText} (asked : client.entries depth = .ok entries)
    (other : Nat) : client.entries other = .ok entries ∨ client.TooDeep other := by
  rcases Nat.le_total depth other with more | less
  · refine .inl ((entries_of_le more (not_tooDeep_of_toBool ?_)).trans asked)
    rw [asked]
    rfl
  · by_cases deep : client.TooDeep other
    · exact .inr deep
    · exact .inl ((entries_of_le less deep).symm.trans asked)

/-! ## Containment -/

/-- Every question that may read as deep is answered, or fails because the index is unavailable; one for a story may
also fail because no story has its id. -/
structure Contained (client : IndexClient) (depth : Nat) : Prop where
  entries : ∀ error, client.entries depth = .error error → ∃ cause, error = .unavailable cause
  stories : ∀ error, client.stories depth = .error error → ∃ cause, error = .unavailable cause
  storiesOfKind : ∀ kind error, client.storiesOfKind depth kind = .error error → ∃ cause, error = .unavailable cause
  story : ∀ id error, client.story depth id = .error error →
    (∃ cause, error = .unavailable cause) ∨ error = .notFound id

theorem contained_of_entries
    (contained : ∀ error, client.entries depth = .error error → ∃ cause, error = .unavailable cause) :
    client.Contained depth where
  entries := contained
  stories error failed := contained error (stories_eq_error_iff.mp failed)
  storiesOfKind _ error failed := contained error (storiesOfKind_eq_error_iff.mp failed)
  story id error failed := by
    rcases story_eq_error_iff.mp failed with unasked | ⟨_, _, _, missing⟩
    · exact .inl (contained error unasked)
    · exact .inr missing

/-- The limit that is met in reading fetched bytes is the failure of every question. -/
theorem entries_eq_document_of_overruns (fetched : client.fetch.result = .ok bytes) (overruns : Overruns depth bytes) :
    ∃ cause, client.entries depth = .error (.document cause) := by
  obtain ⟨text, cause, decoded, read, limit⟩ := overruns
  refine ⟨cause, (entries_eq_error_iff fetched).mpr ?_⟩
  unfold documentOf
  rw [decoded]
  cases cause with
  | malformed fault position => contradiction
  | tooManyDigits digits => simp [read]
  | tooDeep container => simp [read]

theorem contained_iff (fetched : client.fetch.result = .ok bytes) : client.Contained depth ↔ ¬Overruns depth bytes := by
  constructor
  · intro contained overruns
    obtain ⟨cause, unread⟩ := entries_eq_document_of_overruns fetched overruns
    obtain ⟨_, unavailable⟩ := contained.entries _ unread
    contradiction
  · intro within
    refine contained_of_entries fun error failed => ?_
    rcases documentOf_eq_error ((entries_eq_error_iff fetched).mp failed) with
      unavailable | ⟨text, cause, decoded, read, limit, -⟩
    · exact unavailable
    · exact absurd ⟨text, cause, decoded, read, limit⟩ within

/-- Only a vast text overruns. -/
theorem not_overruns_of_not_isVast {text : List Char} (decoded : decodeUtf8 bytes = .ok text)
    (small : ¬Json.IsVast depth text) : ¬Overruns depth bytes := by
  rintro ⟨other, error, again, read, limit⟩
  obtain rfl := Except.ok.inj (decoded.symm.trans again)
  exact small (Json.isVast_of_isLimit read limit)

end StoryCatalog.IndexClient
