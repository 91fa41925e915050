import StoryCatalog.Proofs.Except
import StoryCatalog.Proofs.Index.Client
import StoryCatalog.Proofs.Service.Response
import StoryCatalog.Proofs.Service.Route
import StoryCatalog.Service.App

/-!
# Finding stories by their kind

Every listed story belongs to its kind, and the list of a kind shows it with five of its fields. The kind
is one segment of the path, however, so the stories of a kind with a slash in it cannot be asked for, and where
the index is nested as deep as the list of all stories may read it, no kind can.
-/

namespace StoryCatalog

/-- The stories that a response lists. -/
def Response.stories (response : Response) : List Json :=
  match response.body.bind (·.field? "stories") with
  | some (.arr items) => items
  | _ => []

/-- The response is an answer that lists this story. -/
def Response.Lists (response : Response) (record : Json) : Prop :=
  response.status = 200 ∧ record ∈ response.stories

/-- What the list of a kind shows of a story that is listed with all its fields. -/
def summaryOf (record : Json) : Json :=
  .obj (["id", "name", "title", "kind", "type"].map fun name => (.whole name, record.fieldOrNull name))

namespace IndexEntry

variable {entry : IndexEntry}

theorem named_fields : Json.Named entry.fields := by
  simp [Json.Named, fields]

theorem summary_subset_fields : entry.summary ⊆ entry.fields := by
  simp [summary, fields]

theorem summaryOf_fields : summaryOf (Json.shown (.obj entry.fields)) = Json.shown (.obj entry.summary) := by
  rw [Json.shown_obj named_fields, Json.shown_obj fun field member => named_fields field (summary_subset_fields member)]
  rfl

end IndexEntry

namespace Service

theorem list_eq_ok_iff {stories : List (List (WideText × Json))} {fields : List (WideText × Json)} :
    list stories = .ok fields ↔
      (∀ story ∈ stories, Writable story) ∧
        fields = [succeeded, ("count", .int stories.length), ("stories", .arr (stories.map .obj))] := by
  have written {items : List Json} : stories.mapM recordJson = .ok items ↔
      (∀ story ∈ stories, Writable story) ∧ stories.map .obj = items := by
    simp only [mapM_eq_ok_iff, recordJson_eq_ok_iff]
    rw [List.forall₂_and_left, ← List.forall₂_eq_eq_eq, List.forall₂_map_left_iff]
  simp only [list, bind_eq_ok_iff, written, pure_eq_ok_iff]
  constructor
  · rintro ⟨_, ⟨fits, rfl⟩, rfl⟩
    exact ⟨fits, rfl⟩
  · rintro ⟨fits, rfl⟩
    exact ⟨_, ⟨fits, rfl⟩, rfl⟩

theorem lists_ofFields_iff {stories : List (List (WideText × Json))} {fields : List (WideText × Json)}
    (written : list stories = .ok fields) {more : List (WideText × Json)} (named : Json.Named more) {record : Json} :
    (Response.ofFields (fields ++ more)).Lists record ↔ ∃ story ∈ stories, Json.shown (.obj story) = record := by
  obtain ⟨-, rfl⟩ := list_eq_ok_iff.mp written
  have listed : (Response.ofFields ([succeeded, ("count", .int stories.length),
      ("stories", .arr (stories.map .obj))] ++ more)).stories = (stories.map .obj).map Json.shown := by
    have own : Json.Named [succeeded, ("count", .int stories.length), ("stories", .arr (stories.map .obj))] := by
      simp [Json.Named, succeeded]
    rw [← Json.shownItems_eq_map, Response.ofFields, Response.stories, Option.bind_some,
      Json.field?_shown (own.append named)]
    rfl
  simp only [Response.Lists, listed, List.map_map, List.mem_map, Function.comp_apply]
  exact and_iff_right rfl

/-- A failure lists nothing. -/
theorem lists_serve_iff {service : Service} {route : Route} {record : Json} :
    (service.serve route).Lists record ↔
      ∃ fields, service.fields route = .ok fields ∧ (Response.ofFields fields).Lists record := by
  unfold serve
  cases made : service.fields route with
  | ok fields => simp
  | error error =>
    simp only [reduceCtorEq, false_and, exists_false, iff_false]
    exact fun listed => Response.status_ofError_ne _ _ listed.1

theorem lists_stories_iff {service : Service} {record : Json} :
    (service.answer "GET" "/api/stories").1.Lists record ↔
      ∃ entries, service.client.stories (service.depth + 1) = .ok entries ∧
        (∀ entry ∈ entries, Writable entry.fields) ∧ ∃ entry ∈ entries, Json.shown (.obj entry.fields) = record := by
  change (service.serve .stories).Lists record ↔ _
  simp only [lists_serve_iff, fields, bind_eq_ok_iff, mapError_eq_ok_iff]
  constructor
  · rintro ⟨fields, ⟨entries, asked, written⟩, listed⟩
    rw [← List.append_nil fields, lists_ofFields_iff written Json.named_nil] at listed
    exact ⟨entries, asked, by simpa using (list_eq_ok_iff.mp written).1, by simpa using listed⟩
  · rintro ⟨entries, asked, fits, listed⟩
    have allFit : ∀ story ∈ entries.map (·.fields), Writable story := by
      simpa using fits
    have written := list_eq_ok_iff.mpr ⟨allFit, rfl⟩
    refine ⟨_, ⟨entries, asked, written⟩, ?_⟩
    rw [← List.append_nil (_ :: _), lists_ofFields_iff written Json.named_nil]
    simpa using listed

theorem lists_storiesOfKind_iff {service : Service} {kind : String} {record : Json} :
    (service.serve (.storiesOfKind kind)).Lists record ↔
      ∃ entries, service.client.stories service.depth = .ok entries ∧
        (∀ entry ∈ entries, entry.belongsTo kind → Writable entry.summary) ∧
          ∃ entry ∈ entries, entry.belongsTo kind ∧ Json.shown (.obj entry.summary) = record := by
  have named : Json.Named [("kind", .text kind)] := by
    simp [Json.Named]
  simp only [lists_serve_iff, fields, IndexClient.storiesOfKind, bind_eq_ok_iff, mapError_eq_ok_iff,
    pure_eq_ok_iff]
  constructor
  · rintro ⟨_, ⟨_, ⟨entries, asked, rfl⟩, fields, written, rfl⟩, listed⟩
    rw [lists_ofFields_iff written named] at listed
    refine ⟨entries, asked, ?_, by simpa [and_assoc] using listed⟩
    intro entry member belongs
    exact (list_eq_ok_iff.mp written).1 _ (List.mem_map_of_mem (List.mem_filter.mpr ⟨member, belongs⟩))
  · rintro ⟨entries, asked, fits, listed⟩
    have allFit : ∀ story ∈ (entries.filter (·.belongsTo kind)).map (·.summary), Writable story := by
      simp only [List.forall_mem_map, List.mem_filter]
      exact fun entry kept => fits entry kept.1 kept.2
    have written := list_eq_ok_iff.mpr ⟨allFit, rfl⟩
    refine ⟨_, ⟨_, ⟨entries, asked, rfl⟩, _, written, rfl⟩, ?_⟩
    rw [lists_ofFields_iff written named]
    simpa [and_assoc] using listed

/-- A listed story belongs to its kind, whose list shows its summary unless the index is too deep for that list. -/
theorem lists_summary_iff_of_lists {service : Service} {record : Json} {kind : String}
    (listed : (service.answer "GET" "/api/stories").1.Lists record)
    (its : record.field? "kind" = some (.text kind)) :
    (service.serve (.storiesOfKind kind)).Lists (summaryOf record) ↔ ¬service.client.TooDeep service.depth := by
  obtain ⟨stories, asked, fits, entry, member, rfl⟩ := lists_stories_iff.mp listed
  obtain ⟨entries, read, rfl⟩ := IndexClient.stories_eq_ok_iff.mp asked
  rw [lists_storiesOfKind_iff]
  constructor
  · rintro ⟨_, again, -⟩ ⟨container, deep⟩
    obtain ⟨_, reread, -⟩ := IndexClient.stories_eq_ok_iff.mp again
    rw [deep] at reread
    contradiction
  · intro shallow
    have again := (IndexClient.entries_eq_ok_or_tooDeep read service.depth).resolve_right shallow
    rw [Json.field?_shown IndexEntry.named_fields, Option.map_eq_some_iff] at its
    obtain ⟨value, found, text⟩ := its
    obtain rfl := Json.shown_eq_str_iff.mp text
    have kindOf : entry.kind = .text kind := Option.some.inj found
    have belongs : entry.belongsTo kind = true := by simp [IndexEntry.belongsTo, IndexEntry.isText, kindOf]
    exact ⟨_, IndexClient.stories_eq_ok_iff.mpr ⟨entries, again, rfl⟩,
      fun other present _ => (fits other present).of_subset IndexEntry.summary_subset_fields, entry, member, belongs,
      IndexEntry.summaryOf_fields.symm⟩

/-- The path of a kind leads to the kind's list exactly when it holds no slash. -/
theorem lists_kind_iff {service : Service} {kind : String} (nonempty : kind ≠ "") {record : Json} :
    (service.answer "GET" ("/api/stories/kind/" ++ kind)).1.Lists record ↔
      '/' ∉ kind.toList ∧ (service.serve (.storiesOfKind kind)).Lists record := by
  have some_char : kind.toList ≠ [] := by simpa using nonempty
  unfold answer Route.ofPath?
  rw [String.toList_append, Route.ofChars?_kind some_char]
  by_cases slash : '/' ∈ kind.toList
  · simp only [slash, if_true, not_true, false_and, iff_false]
    rintro ⟨status, -⟩
    split_ifs at status <;> contradiction
  · simp [slash]

/-- A service without a project whose story server answers with an index of one entry, of this title. -/
def ofTitle (title : String) : Service where
  machine := { here := .root, home := "/" }
  project := SpelledPath.ofText "/"
  framework := "react"
  version := none
  server := "http://localhost:6010"
  client := .of "http://localhost:6010" none (.given (.ok
    (("\x7b\"entries\":\x7b\"a\":\x7b\"id\":\"a\",\"title\":\"" ++ title ++
      "\"\x7d\x7d\x7d").toList.map fun c => c.toNat.toUInt8)))
  depth := 988

theorem exists_listed_of_any {service : Service} {kind : String}
    (answered : (service.answer "GET" "/api/stories").1.status = 200)
    (present : ((service.answer "GET" "/api/stories").1.stories.any fun record =>
      IndexEntry.isText kind (record.fieldOrNull "kind")) = true) :
    ∃ record, (service.answer "GET" "/api/stories").1.Lists record ∧
      record.field? "kind" = some (.text kind) := by
  obtain ⟨record, member, held⟩ := List.any_eq_true.mp present
  refine ⟨record, ⟨answered, member⟩, ?_⟩
  unfold Json.fieldOrNull at held
  cases found : record.field? "kind" with
  | none => simp [found, IndexEntry.isText] at held
  | some value =>
    cases value with
    | str text =>
      rw [found, Option.getD_some, IndexEntry.isText, decide_eq_true_eq] at held
      rw [held]
    | _ => simp [found, IndexEntry.isText] at held

end Service

end StoryCatalog
