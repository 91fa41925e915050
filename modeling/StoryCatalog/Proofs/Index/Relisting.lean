import StoryCatalog.Proofs.Index.Client
import StoryCatalog.Proofs.Json.Spelling
import StoryCatalog.Proofs.Text.Utf8

/-!
# Listing entries again

An entry is described by the record of all that it holds, so reading an index made of the listed entries gives
these entries again. An index nests no deeper for being made again, so there are bytes that hold it.
-/

namespace StoryCatalog

namespace IndexEntry

/-- All that the entry holds, as an index could list it. -/
def record (entry : IndexEntry) : Json :=
  .obj entry.fields

/-- A record describes the entry it was made of exactly where the entry has a kind or its title stands in for it. -/
theorem ofRecord_record_iff {entry : IndexEntry} :
    ofRecord entry.record = entry ↔ entry.kind.isGiven = true ∨ entry.kind = entry.title := by
  obtain ⟨id, name, title, kind, importPath, tags, type⟩ := entry
  have texts : (tags.map Json.str).map Json.toText = tags := by
    rw [List.map_map]
    exact List.map_id' tags
  have read : ofRecord (record ⟨id, name, title, kind, importPath, tags, type⟩) =
      ⟨id, name, title, if kind.isGiven then kind else title, importPath, (tags.map Json.str).map Json.toText,
        type⟩ := rfl
  rw [read, texts, mk.injEq]
  cases kind.isGiven <;> simp [eq_comm]

/-- An entry that was read is described by its own record. -/
theorem ofRecord_record (raw : Json) : ofRecord (ofRecord raw).record = ofRecord raw := by
  rw [ofRecord_record_iff]
  cases given : (raw.fieldOrNull "kind").isGiven with
  | true => exact .inl (by simp [ofRecord, given])
  | false => exact .inr (by simp [ofRecord, given])

end IndexEntry

namespace IndexClient

/-- An index of these entries, each by its id. -/
def listing (entries : List IndexEntry) : Json :=
  .obj [("entries", .obj (entries.map fun entry => (entry.id, entry.record)))]

theorem entries_eq_ok_iff {client : IndexClient} {depth : ℕ} {entries : Fields IndexEntry WideText} :
    client.entries depth = .ok entries ↔ ∃ bytes document, client.fetch.result = .ok bytes ∧
      documentOf depth bytes = .ok document ∧ entriesOf document = entries := by
  simp only [IndexClient.entries, bind_eq_ok_iff, pure_eq_ok_iff, exists_and_left]

theorem exists_record_of_mem_entriesOf {document : Json} {pair : WideText × IndexEntry}
    (member : pair ∈ (entriesOf document).entries) :
    ∃ listed record, document.field? "entries" = some (.obj listed) ∧ (pair.1, .obj record) ∈ listed ∧
      pair.2 = .ofRecord (.obj record) := by
  unfold entriesOf at member
  split at member
  · next listed there =>
    obtain ⟨⟨key, value⟩, within, kept⟩ := List.mem_filterMap.mp (Fields.mem_of_mem_ofList member)
    cases value with
    | obj record =>
      obtain rfl := Option.some.inj kept
      exact ⟨listed, record, there, within, rfl⟩
    | _ => contradiction
  · exact absurd member List.not_mem_nil

theorem entriesOf_listing {entries : Fields IndexEntry WideText} (distinct : entries.keys.Nodup)
    (named : ∀ pair ∈ entries.entries, pair.2.id = pair.1)
    (settled : ∀ pair ∈ entries.entries, .ofRecord pair.2.record = pair.2) :
    entriesOf (listing entries.values) = entries := by
  obtain ⟨entries⟩ := entries
  have read : entriesOf (listing (entries.map (·.2))) =
      Fields.ofList (entries.map fun pair => (pair.2.id, .ofRecord pair.2.record)) := by
    change Fields.ofList (((entries.map (·.2)).map fun entry => (entry.id, entry.record)).filterMap _) = _
    rw [List.map_map, List.filterMap_map, ← List.filterMap_eq_map]
    rfl
  have same : entries.map (fun pair => (pair.2.id, IndexEntry.ofRecord pair.2.record)) = entries := by
    refine (List.map_congr_left fun pair member => ?_).trans (List.map_id' entries)
    exact Prod.ext (named pair member) (settled pair member)
  rw [Fields.values, read, same]
  exact Fields.ofList_of_nodup distinct

/-! ## An index nests no deeper for being made again -/

open Json in
theorem readable_record {depth : ℕ} {raw : Json} (readable : Readable (depth + 2) raw) :
    Readable (depth + 2) (IndexEntry.ofRecord raw).record ∧ WellPaired (IndexEntry.ofRecord raw).id.units := by
  have tags : Readable (depth + 1) (.arr ((IndexEntry.ofRecord raw).tags.map .str)) := by
    refine .arr fun item member => ?_
    obtain ⟨tag, listed, rfl⟩ := List.mem_map.mp member
    refine .str ?_
    have given := readable.fieldOrNull "tags"
    dsimp only [IndexEntry.ofRecord] at listed
    split at listed
    · next tags there =>
      obtain ⟨value, held, rfl⟩ := List.mem_map.mp listed
      rw [there] at given
      exact (readable_arr_iff.mp given value held).wellPaired_toText
    · exact absurd listed List.not_mem_nil
  have id : WellPaired (IndexEntry.ofRecord raw).id.units := by
    dsimp only [IndexEntry.ofRecord]
    cases found : raw.field? "id" with
    | none => exact wellPaired_chars _
    | some value => exact (readable.field? found).wellPaired_toText
  have kind : Readable (depth + 1) (IndexEntry.ofRecord raw).kind := by
    dsimp only [IndexEntry.ofRecord]
    split_ifs
    · exact readable.fieldOrNull "kind"
    · exact readable.fieldOrNull "title"
  refine ⟨readable_obj_iff.mpr ⟨by simp [IndexEntry.fields], ?_⟩, id⟩
  simp only [IndexEntry.fields, List.forall_mem_cons]
  exact ⟨⟨wellPaired_chars _, .str id⟩, ⟨wellPaired_chars _, readable.fieldOrNull "name"⟩,
    ⟨wellPaired_chars _, readable.fieldOrNull "title"⟩, ⟨wellPaired_chars _, kind⟩,
    ⟨wellPaired_chars _, readable.fieldOrNull "importPath"⟩, ⟨wellPaired_chars _, tags⟩,
    ⟨wellPaired_chars _, readable.fieldOrNull "type"⟩, nofun⟩

open Json in
theorem readable_listing {depth : ℕ} {document : Json} (readable : Readable (depth + 4) document)
    (distinct : ((entriesOf document).values.map (·.id)).Nodup) :
    Readable (depth + 4) (listing (entriesOf document).values) := by
  have each : ∀ entry ∈ (entriesOf document).values, Readable (depth + 2) entry.record ∧ WellPaired entry.id.units := by
    intro entry member
    obtain ⟨pair, inside, rfl⟩ := List.mem_map.mp member
    obtain ⟨listed, record, there, within, described⟩ := exists_record_of_mem_entriesOf inside
    have read : Readable (depth + 2) (.obj record) := ((readable_obj_iff.mp (readable.field? there)).2 _ within).2
    exact described ▸ readable_record read
  refine readable_obj_iff.mpr ⟨List.nodup_singleton _,
    List.forall_mem_singleton.mpr ⟨wellPaired_chars _, readable_obj_iff.mpr ⟨?_, ?_⟩⟩⟩
  · rwa [List.map_map]
  · intro pair member
    obtain ⟨entry, listed, rfl⟩ := List.mem_map.mp member
    exact (each entry listed).symm

open Json in
/-- There are bytes for every document that may be read. -/
theorem exists_documentOf_eq_ok {depth : ℕ} {document : Json} (readable : Readable depth document) :
    ∃ bytes, documentOf depth bytes = .ok document := by
  obtain ⟨text, ascii, read⟩ := readable.exists_text
  exact ⟨Text.asciiBytes text, documentOf_eq_ok_iff.mpr ⟨text, Text.decodeFrom_asciiBytes ascii 0, read⟩⟩

/-- How deep an index of records is nested, which have lists of tags. -/
def listingDepth : ℕ := 4

/-- Reading an entry's own record gives the entry again. So where each entry is listed by its id, the listed entries
can be served as an index, and any bytes that hold it are read as these entries in their order. -/
theorem entries_survive_relisting :
    (∀ fields, IndexEntry.ofRecord (IndexEntry.ofRecord (.obj fields)).record = .ofRecord (.obj fields)) ∧
    ∀ (client : IndexClient) (depth : ℕ) (entries : Fields IndexEntry WideText), client.entries depth = .ok entries →
      (∀ pair ∈ entries.entries, pair.2.id = pair.1) →
      (∃ bytes, documentOf (max depth listingDepth) bytes = .ok (listing entries.values)) ∧
      ∀ (again : IndexClient) (bytes : List UInt8) (allowed : ℕ), again.fetch.result = .ok bytes →
        documentOf allowed bytes = .ok (listing entries.values) → again.entries allowed = .ok entries := by
  refine ⟨fun fields => IndexEntry.ofRecord_record _, ?_⟩
  intro client depth entries asked named
  have distinct := nodup_keys_entries asked
  obtain ⟨bytes, document, -, known, rfl⟩ := entries_eq_ok_iff.mp asked
  have keyed : (entriesOf document).values.map (·.id) = (entriesOf document).keys := by
    rw [Fields.values, List.map_map]
    exact List.map_congr_left named
  constructor
  · obtain ⟨text, -, read⟩ := documentOf_eq_ok_iff.mp known
    obtain ⟨more, deep⟩ : ∃ more, max depth listingDepth = more + listingDepth :=
      ⟨max depth listingDepth - listingDepth, (Nat.sub_add_cancel (Nat.le_max_right ..)).symm⟩
    have readable : Json.Readable (more + listingDepth) document :=
      deep ▸ (Json.readable_of_read read).mono (Nat.le_max_left ..)
    rw [deep]
    exact exists_documentOf_eq_ok (readable_listing readable (keyed ▸ distinct))
  · intro again bytes allowed fetched held
    refine entries_eq_ok_iff.mpr ⟨bytes, _, fetched, held, entriesOf_listing distinct named ?_⟩
    intro pair member
    obtain ⟨_, record, -, -, described⟩ := exists_record_of_mem_entriesOf member
    rw [described]
    exact IndexEntry.ofRecord_record _

/-- Two entries by numbers: one with an empty kind, a title that is no text and a tag that is null, and one with half a
surrogate pair for a title. -/
def oddIndex : IndexClient :=
  .of "http://localhost:6010" none (.given (.ok (Text.asciiBytes
    ("\x7b\"entries\":\x7b\"7\":\x7b\"id\":7,\"kind\":\"\",\"title\":\x7b\"of\":[]\x7d,\"tags\":[null,\"x\"]\x7d," ++
      "\"3\":\x7b\"id\":3,\"title\":\"\\ud800\"\x7d\x7d\x7d").toList)))

theorem oddIndex_survives_relisting : ∃ entries bytes, oddIndex.entries 5 = .ok entries ∧
    entries.keys = [.whole "7", .whole "3"] ∧
    documentOf 5 bytes = .ok (listing entries.values) ∧
      (IndexClient.of "http://localhost:6011" none (.given (.ok bytes))).entries 5 = .ok entries := by
  have checked : ((oddIndex.entries 5).toOption.any fun entries =>
      entries.keys = [.whole "7", .whole "3"] && entries.entries.all fun pair => pair.2.id = pair.1) = true := by
    decide +kernel
  cases asked : oddIndex.entries 5 with
  | error error =>
    rw [asked] at checked
    contradiction
  | ok entries =>
    rw [asked, Except.toOption, Option.any_some, Bool.and_eq_true, decide_eq_true_eq, List.all_eq_true] at checked
    obtain ⟨keys, named⟩ := checked
    obtain ⟨⟨bytes, held⟩, survives⟩ := entries_survive_relisting.2 oddIndex 5 entries asked
      fun pair member => of_decide_eq_true (named pair member)
    exact ⟨entries, bytes, rfl, keys, held, survives _ bytes 5 rfl held⟩

end IndexClient

end StoryCatalog
