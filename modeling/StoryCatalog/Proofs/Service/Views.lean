import StoryCatalog.Proofs.Fields
import StoryCatalog.Proofs.Index.Client
import StoryCatalog.Proofs.Json.Depth
import StoryCatalog.Proofs.Service.Kinds
import StoryCatalog.Proofs.Service.Story
import StoryCatalog.Proofs.Text.Utf8

/-!
# The views of an index

Every view of the index is made from the same entries: the list is all of them in order, a kind's stories
are a part of the list, and a story is what stands under its key. A story that is asked for by itself is the
listed one with what its file adds behind the listed fields. The list alone may read an index that is nested one
level deeper, though, so such an index is listed and has no other view.
-/

namespace StoryCatalog

namespace IndexEntry

theorem isText_iff {text : WideText} {value : Json} : isText text value = true ↔ value = .str text := by
  cases value <;> simp [isText]

theorem belongsTo_iff {entry : IndexEntry} {kind : WideText} :
    entry.belongsTo kind = true ↔ entry.kind = .str kind ∨ entry.title = .str kind := by
  rw [belongsTo, Bool.or_eq_true, isText_iff, isText_iff]

theorem exists_importPath?_eq_ok {entry : IndexEntry}
    (textual : entry.importPath = .null ∨ ∃ path, entry.importPath = .str path) :
    ∃ path, entry.importPath? = .ok path := by
  unfold importPath?
  rcases textual with absent | ⟨path, given⟩
  · rw [absent]
    exact ⟨none, rfl⟩
  · rw [given]
    split_ifs
    · exact ⟨none, rfl⟩
    · exact ⟨some path, rfl⟩

end IndexEntry

namespace IndexClient

variable {client : IndexClient} {depth : ℕ}

/-- Where these entries are read, each view of the index is the view of them. -/
structure ShowsEntries (client : IndexClient) (depth : ℕ) (entries : Fields IndexEntry WideText) : Prop where
  story : ∀ key entry, client.story depth key = .ok entry ↔ entries.get? key = some entry
  stories : client.stories depth = .ok entries.values
  storiesOfKind : ∀ kind, client.storiesOfKind depth kind = .ok (entries.values.filter (·.belongsTo kind))

theorem showsEntries {entries : Fields IndexEntry WideText} (asked : client.entries depth = .ok entries) :
    client.ShowsEntries depth entries where
  story key entry := by
    rw [story_eq_ok_iff]
    constructor
    · rintro ⟨others, again, found⟩
      obtain rfl := Except.ok.inj (asked.symm.trans again)
      exact found
    · exact fun found => ⟨entries, asked, found⟩
  stories := stories_eq_ok_iff.mpr ⟨entries, asked, rfl⟩
  storiesOfKind kind := storiesOfKind_eq_ok_iff.mpr ⟨entries, asked, rfl⟩

end IndexClient

/-- The story of a response. -/
def Response.story? (response : Response) : Option Json :=
  response.body.bind (·.field? "story")

namespace Service

variable {service : Service}

theorem status_serve_eq_ok_iff {route : Route} :
    (service.serve route).status = 200 ↔ ∃ fields, service.fields route = .ok fields := by
  unfold serve
  cases service.fields route with
  | ok fields => exact ⟨fun _ => ⟨fields, rfl⟩, fun _ => rfl⟩
  | error error =>
    constructor
    · exact fun answered => absurd answered (Response.status_ofError_ne _ _)
    · rintro ⟨fields, made⟩
      contradiction

/-- How deep the index may be nested that a route asks for. -/
def allowedDepth (service : Service) : Route → ℕ
  | .stories => service.depth + 1
  | _ => service.depth

theorem depth_le_allowedDepth (service : Service) (route : Route) : service.depth ≤ service.allowedDepth route := by
  cases route <;> simp [allowedDepth]

/-- A route whose index cannot be read fails for that. -/
theorem fields_of_unread {route : Route} {error : IndexError} (asks : asksIndex route = true)
    (unread : service.client.entries (service.allowedDepth route) = .error error) :
    service.fields route = .error (.index error) := by
  have failing {α : Type} {asked : Except IndexError α} (unasked : asked = .error error) :
      asked.mapError ServiceError.index = .error (.index error) := by
    rw [unasked]
    rfl
  cases route with
  | health => contradiction
  | overview => contradiction
  | stories => exact bind_eq_error_iff.mpr (.inl (failing (IndexClient.stories_eq_error_iff.mpr unread)))
  | storiesOfKind kind =>
    exact bind_eq_error_iff.mpr (.inl (failing (IndexClient.storiesOfKind_eq_error_iff.mpr unread)))
  | story id => exact bind_eq_error_iff.mpr (.inl (failing (IndexClient.story_eq_error_iff.mpr (.inl unread))))
  | docs id => exact bind_eq_error_iff.mpr (.inl (failing (IndexClient.story_eq_error_iff.mpr (.inl unread))))

/-- A route whose index is given up for a limit of reading fails internally. -/
theorem status_serve_of_document {route : Route} {error : Json.ReadError} (asks : asksIndex route = true)
    (unread : service.client.entries (service.allowedDepth route) = .error (.document error)) :
    (service.serve route).status = 500 := by
  rw [serve, fields_of_unread asks unread]
  exact Response.status_ofError (by simp) (by simp)

/-- The list of all stories is answered where every entry can be written. -/
theorem fields_stories_eq_ok_iff {fields : List (WideText × Json)} :
    service.fields .stories = .ok fields ↔
      ∃ entries, service.client.entries (service.depth + 1) = .ok entries ∧
        (∀ entry ∈ entries.values, Writable entry.fields) ∧
          fields = [succeeded, ("count", .int entries.values.length),
            ("stories", .arr (entries.values.map fun entry => .obj entry.fields))] := by
  simp only [Service.fields, bind_eq_ok_iff, mapError_eq_ok_iff, IndexClient.stories_eq_ok_iff, list_eq_ok_iff,
    List.forall_mem_map, List.length_map, List.map_map]
  constructor
  · rintro ⟨_, ⟨entries, asked, rfl⟩, fit, rfl⟩
    exact ⟨entries, asked, fit, rfl⟩
  · rintro ⟨entries, asked, fit, rfl⟩
    exact ⟨_, ⟨entries, asked, rfl⟩, fit, rfl⟩

/-- A story that is asked for by itself is its entry with what its file adds. -/
theorem fields_story_eq_ok_iff {id : String} {fields : List (WideText × Json)} :
    service.fields (.story id) = .ok fields ↔
      ∃ entry path, service.client.story service.depth id = .ok entry ∧ entry.importPath? = .ok path ∧
        Writable entry.fields ∧
          fields = [succeeded,
            ("story", .obj (entry.fields ++ entry.added service.machine service.project path))] := by
  have written {entry : IndexEntry} {path : Option WideText} {json : Json} :
      recordJson (entry.fields ++ entry.added service.machine service.project path) = .ok json ↔
        Writable entry.fields ∧ .obj (entry.fields ++ entry.added service.machine service.project path) = json := by
    have added : Writable (entry.added service.machine service.project path) :=
      writable_iff_fieldsFit.mpr ((IndexEntry.fieldsFit_added path).mono (by decide))
    rw [recordJson_eq_ok_iff, writable_append_iff, and_iff_left added]
  simp only [Service.fields, bind_eq_ok_iff, mapError_eq_ok_iff, IndexEntry.details_eq, pure_eq_ok_iff]
  constructor
  · rintro ⟨entry, found, _, ⟨path, named, rfl⟩, _, shown, rfl⟩
    obtain ⟨fits, rfl⟩ := written.mp shown
    exact ⟨entry, path, found, named, fits, rfl⟩
  · rintro ⟨entry, path, found, named, fits, rfl⟩
    exact ⟨entry, found, _, ⟨path, named, rfl⟩, _, written.mpr ⟨fits, rfl⟩, rfl⟩

theorem answer_stories (service : Service) : (service.answer "GET" "/api/stories").1 = service.serve .stories := rfl

theorem answer_kind {kind : String} (nonempty : kind ≠ "") (plain : '/' ∉ kind.toList) :
    (service.answer "GET" ("/api/stories/kind/" ++ kind)).1 = service.serve (.storiesOfKind kind) := by
  have some_char : kind.toList ≠ [] := by simpa using nonempty
  unfold answer Route.ofPath?
  rw [String.toList_append, Route.ofChars?_kind some_char, if_neg plain, String.ofList_toList]
  rfl

theorem answer_story {id : String} (nonempty : id ≠ "") (plain : '/' ∉ id.toList) :
    (service.answer "GET" ("/api/stories/" ++ id)).1 = service.serve (.story id) := by
  have some_char : id.toList ≠ [] := by simpa using nonempty
  unfold answer Route.ofPath?
  rw [String.toList_append, Route.ofChars?_story some_char plain, String.ofList_toList]
  rfl

theorem stories_answer_stories {entries : Fields IndexEntry WideText}
    (asked : service.client.entries (service.depth + 1) = .ok entries)
    (fit : ∀ entry ∈ entries.values, Writable entry.fields) :
    (service.answer "GET" "/api/stories").1.stories =
      entries.values.map fun entry => Json.shown (.obj entry.fields) := by
  change (service.serve .stories).stories = _
  unfold serve
  rw [fields_stories_eq_ok_iff.mpr ⟨entries, asked, fit, rfl⟩]
  have named : Json.Named [succeeded, ("count", .int entries.values.length),
      ("stories", .arr (entries.values.map fun entry => .obj entry.fields))] := by
    simp [Json.Named, succeeded]
  simp only [Response.ofFields, Response.stories, Option.bind_some, Json.field?_shown named]
  change Json.shownItems _ = _
  rw [Json.shownItems_eq_map, List.map_map]
  rfl

theorem answer_story_of_found {key : String} {entry : IndexEntry} (nonempty : key ≠ "") (plain : '/' ∉ key.toList)
    (found : service.client.story service.depth key = .ok entry) (fits : Writable entry.fields)
    (textual : entry.importPath = .null ∨ ∃ path, entry.importPath = .str path) :
    ∃ path, (service.answer "GET" ("/api/stories/" ++ key)).1 =
      .ofFields [succeeded, ("story", .obj (entry.fields ++ entry.added service.machine service.project path))] := by
  obtain ⟨path, named⟩ := IndexEntry.exists_importPath?_eq_ok textual
  refine ⟨path, ?_⟩
  rw [answer_story nonempty plain, serve, fields_story_eq_ok_iff.mpr ⟨entry, path, found, named, fits, rfl⟩]

theorem story?_ofFields {fields : List (WideText × Json)} (named : Json.Named fields) :
    (Response.ofFields [succeeded, ("story", .obj fields)]).story? =
      some (.obj (fields.map fun field => (field.1, field.2.shown))) := by
  have outer : Json.Named [succeeded, ("story", .obj fields)] := by
    simp [Json.Named, succeeded]
  rw [Response.story?, Response.ofFields, Option.bind_some, Json.field?_shown outer, ← Json.shown_obj named]
  rfl

/-- The story of a key is answered by itself with the fields that are listed in place `i`, and behind them
nothing but what a story file adds. -/
def ShownAsListed (service : Service) (i : ℕ) (key : String) : Prop :=
  ∃ listed more, (service.answer "GET" "/api/stories").1.stories[i]? = some (.obj listed) ∧
    listed.map (·.1) = ["id", "name", "title", "kind", "importPath", "tags", "type"].map .whole ∧
    (service.answer "GET" ("/api/stories/" ++ key)).1.status = 200 ∧
    (service.answer "GET" ("/api/stories/" ++ key)).1.story? = some (.obj (listed ++ more)) ∧
    (more.map (·.1)).Sublist (IndexEntry.addedNames.map .whole)

theorem shownAsListed_iff {entries : Fields IndexEntry WideText}
    (asked : service.client.entries (service.depth + 1) = .ok entries)
    (fit : ∀ entry ∈ entries.values, Writable entry.fields) {i : ℕ} {key : String}
    {entry : IndexEntry} (there : entries.entries[i]? = some (.whole key, entry)) (nonempty : key ≠ "")
    (plain : '/' ∉ key.toList) (textual : entry.importPath = .null ∨ ∃ path, entry.importPath = .str path) :
    service.ShownAsListed i key ↔ ¬service.client.TooDeep service.depth := by
  constructor
  · rintro ⟨_, _, -, -, answered, -⟩ ⟨container, deep⟩
    rw [answer_story nonempty plain, status_serve_eq_ok_iff] at answered
    obtain ⟨_, made⟩ := answered
    obtain ⟨_, _, found, -⟩ := fields_story_eq_ok_iff.mp made
    obtain ⟨_, read, -⟩ := IndexClient.story_eq_ok_iff.mp found
    rw [deep] at read
    contradiction
  · intro shallow
    have again := (IndexClient.entries_eq_ok_or_tooDeep asked service.depth).resolve_right shallow
    have member : (.whole key, entry) ∈ entries.entries := List.mem_of_getElem? there
    have found : entries.get? key = some entry :=
      (Fields.get?_eq_some_iff (IndexClient.nodup_keys_entries asked)).mpr member
    have fits : Writable entry.fields := fit entry (List.mem_map.mpr ⟨_, member, rfl⟩)
    obtain ⟨path, served⟩ := answer_story_of_found nonempty plain
      (IndexClient.story_eq_ok_iff.mpr ⟨entries, again, found⟩) fits textual
    have own : Json.Named (entry.fields ++ entry.added service.machine service.project path) :=
      IndexEntry.named_fields.append (IndexEntry.named_added path)
    unfold ShownAsListed
    rw [served]
    refine ⟨entry.fields.map fun field => (field.1, field.2.shown),
      (entry.added service.machine service.project path).map fun field => (field.1, field.2.shown),
      ?_, rfl, rfl, ?_, ?_⟩
    · rw [stories_answer_stories asked fit, Fields.values, List.map_map, List.getElem?_map, there, Option.map_some,
        Function.comp_apply, Json.shown_obj IndexEntry.named_fields]
    · rw [story?_ofFields own, List.map_append]
    · rw [List.map_map]
      exact IndexEntry.names_added path

/-- A service whose index lists a prose page and a story, and whose project holds the story's file. -/
def buttonService : Service where
  machine :=
    { disk := ({} : Disk).addFile ["ui", "button.stories.ts"]
        (Text.asciiBytes "export const Primary = \x7b args: \x7b size: 'm' \x7d \x7d;".toList)
      here := .root
      home := "/" }
  project := SpelledPath.ofText "/ui"
  framework := "react"
  version := none
  server := "http://localhost:6010"
  client := .of "http://localhost:6010" none (.given (.ok (Text.asciiBytes
    ("\x7b\"entries\":\x7b\"intro\":\x7b\"id\":\"intro\"\x7d,\"button--primary\":" ++
      "\x7b\"id\":\"button--primary\",\"importPath\":\"./button.stories.ts\"\x7d\x7d\x7d").toList)))
  depth := 988

open Json in
/-- The text of a story, with an array inside so many others in a field that nothing reads. -/
def deepRecordText (n : ℕ) : List Char :=
  '\x7b' :: (writeString "id" ++ ':' :: (writeString "a" ++ ',' :: (writeString "title" ++ ':' :: (writeString "K" ++
    ',' :: (writeString "x" ++ ':' :: arraysText n)))) ++ ['\x7d'])

open Json in
/-- The text of an index of this story. -/
def deepIndexText (n : ℕ) : List Char :=
  '\x7b' :: (writeString "entries" ++ ':' :: '\x7b' :: (writeString "a" ++ ':' :: deepRecordText n ++ ['\x7d']) ++
    ['\x7d'])

example : deepIndexText 1 =
    "\x7b\"entries\":\x7b\"a\":\x7b\"id\":\"a\",\"title\":\"K\",\"x\":[[]]\x7d\x7d\x7d".toList := by
  decide

def deepIndex (n : ℕ) : Json :=
  .obj [("entries", .obj [("a", .obj [("id", .text "a"), ("title", .text "K"), ("x", Json.arrays n)])])]

open Json in
theorem spells_deepIndex (n : ℕ) : Spells (n + 4) (deepIndexText n) (deepIndex n) := by
  have paired (name : String) : WellPaired (WideText.whole name).units := wellPaired_chars _
  have text (s : String) : Spells (n + 1) (writeString s) (.text s) := spells_string (paired s) _
  have record : Spells (n + 2) (deepRecordText n) _ := ((text "a").field_cons (paired "id")
    ((text "K").field_cons (paired "title") ((spells_arrays n).field (paired "x")))).object (by simp)
  exact (((record.field (paired "a")).object (by simp)).field (paired "entries")).object (by simp)

open Json in
theorem not_readable_deepIndex (n : ℕ) : ¬Readable (n + 3) (deepIndex n) := by
  intro readable
  have entries := ((readable_obj_iff.mp readable).2 _ (List.mem_singleton.mpr rfl)).2
  have record := ((readable_obj_iff.mp entries).2 _ (List.mem_singleton.mpr rfl)).2
  exact not_readable_arrays n ((readable_obj_iff.mp record).2 (.whole "x", arrays n) (by simp)).2

/-- A service without a project whose story server answers with such an index, which only the list of all stories
may read. -/
def overDeepIndex (n : ℕ) : Service where
  machine := { here := .root, home := "/" }
  project := SpelledPath.ofText "/"
  framework := "react"
  version := none
  server := "http://localhost:6010"
  client := .of "http://localhost:6010" none (.given (.ok (Text.asciiBytes (deepIndexText n))))
  depth := n + 3

/-- What is listed of such an index does not hold the arrays. -/
def deepEntries : Fields IndexEntry WideText :=
  ⟨[("a", { id := "a", title := .text "K", kind := .text "K" })]⟩

theorem entries_overDeepIndex (n : ℕ) :
    (overDeepIndex n).client.entries (n + 4) = .ok deepEntries ∧ (overDeepIndex n).client.TooDeep (n + 3) := by
  have spelled := spells_deepIndex n
  have decoded := Text.decodeFrom_asciiBytes spelled.ascii 0
  have fetched : (overDeepIndex n).client.fetch.result = .ok (Text.asciiBytes (deepIndexText n)) := rfl
  constructor
  · simp only [IndexClient.entries, bind_eq_ok_iff, pure_eq_ok_iff]
    exact ⟨_, fetched, _, IndexClient.documentOf_eq_ok_iff.mpr ⟨_, decoded, spelled.read_eq⟩, rfl⟩
  · obtain ⟨container, deep⟩ := Json.exists_read_eq_tooDeep spelled.read_eq (not_readable_deepIndex n)
    refine ⟨container, (IndexClient.entries_eq_error_iff fetched).mpr ?_⟩
    simp only [IndexClient.documentOf, Text.decodeUtf8, decoded, deep]

theorem writable_deepEntries : ∀ entry ∈ deepEntries.values, Writable entry.fields := by
  have listed : deepEntries.values = [{ id := "a", title := .text "K", kind := .text "K" }] := rfl
  rw [listed, List.forall_mem_singleton, ← fieldsFault?_eq_none_iff_writable]
  rfl

end Service

end StoryCatalog
