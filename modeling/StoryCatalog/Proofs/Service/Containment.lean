import StoryCatalog.Proofs.Service.Views

/-!
# What a faulty index does to the service

Bytes that hold no document make the index unavailable, which every route from the index answers as such. An
internal failure has a cause of its own: a limit that was met in reading the bytes, one listed entry that
cannot be shown, or a name in the service's own settings that cannot be encoded.
-/

namespace StoryCatalog

open Text

theorem status_unavailable {server : WideText} (spelled : Spelled server) (cause : Unavailable) :
    (Response.ofError server (.index (.unavailable cause))).status = 503 := by
  obtain ⟨address, rfl⟩ := spelled
  rw [Response.ofError]
  exact Response.status_orUnexpected_of_plain 503 (by simp)

theorem status_notFound (server : WideText) (id : String) :
    (Response.ofError server (.index (.notFound id))).status = 404 := by
  rw [Response.ofError]
  exact Response.status_orUnexpected_of_plain 404 (by simp [IndexError.message])

namespace Service

variable {service : Service}

/-- The entry cannot be shown: a value in it is nested too far or holds a text that cannot be encoded, what it gives
as its import path is no text, or a fault is met at the file that it names. -/
def Refuses (service : Service) (entry : IndexEntry) : Prop :=
  ¬Writable entry.fields ∨ (∀ path, entry.importPath? ≠ .ok path) ∨
    ∃ path fault, entry.importPath? = .ok (some path) ∧
      entry.documented service.machine service.project service.framework path = .error fault

/-- The index could not be read, and for a reason that has no response of its own. -/
def FailsForIndex (service : Service) (route : Route) : Prop :=
  ∃ error, service.fields route = .error (.index error) ∧ (∀ cause, error ≠ .unavailable cause) ∧
    ∀ id, error ≠ .notFound id

theorem status_of_failsForIndex {route : Route} (fails : service.FailsForIndex route) :
    (service.serve route).status = 500 := by
  obtain ⟨error, failed, available, known⟩ := fails
  rw [serve, failed]
  exact Response.status_ofError (fun cause same => available cause (ServiceError.index.inj same))
    fun id same => known id (ServiceError.index.inj same)

theorem status_serve_eq_failed_iff {route : Route} :
    (service.serve route).status = 500 ↔
      ∃ error, service.fields route = .error error ∧ (Response.ofError service.server error).status = 500 := by
  unfold serve
  cases service.fields route with
  | ok fields =>
    simp only [reduceCtorEq, false_and, exists_false, iff_false]
    exact (by decide : (200 : ℕ) ≠ 500)
  | error error => simp

/-- Only a route fails internally. -/
theorem exists_route_of_failed {method path : String} (status : (service.answer method path).1.status = 500) :
    ∃ route, Route.ofPath? path = some route ∧ (service.serve route).status = 500 := by
  unfold answer at status
  split at status
  · next route found =>
    split_ifs at status
    · contradiction
    · exact ⟨route, found, status⟩
    · exact ⟨route, found, status⟩
  · split_ifs at status <;> contradiction

/-! ## What makes a route fail -/

/-- One of the entries that a route may read cannot be shown. -/
def ListsRefused (service : Service) (route : Route) : Prop :=
  ∃ entries, service.client.entries (service.allowedDepth route) = .ok entries ∧
    ∃ entry ∈ entries.values, service.Refuses entry

theorem refuses_of_importPath?_error {entry : IndexEntry} {error : ServiceError}
    (failed : entry.importPath? = .error error) : (∀ cause, error ≠ .index cause) ∧ service.Refuses entry := by
  obtain ⟨typeName, rfl⟩ := IndexEntry.importPath?_eq_error failed
  refine ⟨fun cause => ServiceError.noConfusion, .inr (.inl fun path named => ?_)⟩
  rw [failed] at named
  contradiction

/-- What files add can be written, so what cannot be is the entry. -/
theorem refuses_of_details_error {entry : IndexEntry} {error : ServiceError}
    (failed : (entry.details service.machine service.project >>= recordJson) = .error error) :
    (∀ cause, error ≠ .index cause) ∧ service.Refuses entry := by
  rw [IndexEntry.details_eq, bind_eq_error_iff] at failed
  rcases failed with unmade | ⟨shown, made, unwritten⟩
  · exact refuses_of_importPath?_error (bind_pure_eq_error_iff.mp unmade)
  · simp only [bind_eq_ok_iff, pure_eq_ok_iff] at made
    obtain ⟨path, -, rfl⟩ := made
    obtain ⟨unfit, other⟩ := recordJson_eq_error unwritten
    have added : Writable (entry.added service.machine service.project path) :=
      writable_iff_fieldsFit.mpr ((IndexEntry.fieldsFit_added path).mono (by decide))
    exact ⟨other, .inl fun fits => unfit (writable_append_iff.mpr ⟨fits, added⟩)⟩

theorem refuses_of_documentation_error {entry : IndexEntry} {error : ServiceError}
    (failed : (entry.documentation service.machine service.project service.framework >>= recordJson) =
      .error error) :
    (∀ cause, error ≠ .index cause) ∧ (service.Refuses entry ∨ ¬Spelled service.framework) := by
  have heading {more : List (WideText × Json)} (unfit : ¬Writable (entry.heading service.framework ++ more))
      (written : Writable more) : service.Refuses entry ∨ ¬Spelled service.framework := by
    by_contra! shown
    refine unfit (writable_append_iff.mpr ⟨IndexEntry.writable_heading ?_ shown.2, written⟩)
    exact not_not.mp fun unwritten => shown.1 (.inl unwritten)
  rw [IndexEntry.documentation_eq, bind_eq_error_iff] at failed
  rcases failed with unmade | ⟨shown, made, unwritten⟩
  · rcases bind_eq_error_iff.mp unmade with unnamed | ⟨path, named, stopped⟩
    · exact (refuses_of_importPath?_error unnamed).imp_right .inl
    · cases path with
      | none => exact absurd stopped pure_ne_error
      | some path =>
        obtain ⟨fault, met, rfl⟩ := mapError_eq_error_iff.mp (bind_pure_eq_error_iff.mp stopped)
        exact ⟨fun cause => ServiceError.noConfusion, .inl (.inr (.inr ⟨path, fault, named, met⟩))⟩
  · obtain ⟨unfit, other⟩ := recordJson_eq_error unwritten
    refine ⟨other, ?_⟩
    obtain ⟨path, named, written⟩ := bind_eq_ok_iff.mp made
    cases path with
    | none =>
      rw [← pure_eq_ok_iff.mp written, ← List.append_nil (entry.heading _)] at unfit
      exact heading unfit (writable_iff_fieldsFit.mpr Json.fieldsFit_nil)
    | some path =>
      simp only [bind_eq_ok_iff, mapError_eq_ok_iff, pure_eq_ok_iff] at written
      obtain ⟨more, documented, rfl⟩ := written
      exact heading unfit
        (writable_iff_fieldsFit.mpr ((IndexEntry.fieldsFit_documented documented).mono (by decide)))

/-- A list that is not made holds an entry that cannot be written, if every entry can be that can be with all its
fields. -/
theorem refuses_of_list_error {entries : List IndexEntry} {shown : IndexEntry → List (WideText × Json)}
    {error : ServiceError} (failed : list (entries.map shown) = .error error)
    (part : ∀ entry : IndexEntry, shown entry ⊆ entry.fields) :
    (∀ cause, error ≠ .index cause) ∧ ∃ entry ∈ entries, service.Refuses entry := by
  rw [list, bind_pure_eq_error_iff] at failed
  obtain ⟨story, member, stopped⟩ := exists_of_mapM_eq_error failed
  obtain ⟨unfit, other⟩ := recordJson_eq_error stopped
  obtain ⟨entry, listed, rfl⟩ := List.mem_map.mp member
  exact ⟨other, entry, listed, .inl fun fits => unfit (fits.of_subset (part entry))⟩

theorem writable_overview (spelled : Spelled service.framework) : Writable service.overview := by
  have texts (pairs : List (String × String)) : Json.FitsIn 2 (textsJson pairs) := by
    refine Json.fits_obj_iff.mpr fun field member => ?_
    obtain ⟨pair, -, rfl⟩ := List.mem_map.mp member
    exact Json.fits_text pair.2
  obtain ⟨name, same⟩ := spelled
  have flat : Json.FieldsFit 2 service.overview := by
    unfold overview
    rw [same]
    simp only [succeeded, Json.fieldsFit_cons_iff]
    refine ⟨⟨Nat.le_add_left 1 1, trivial⟩, Json.fits_text _, Json.fits_text _, ?_, Json.fits_text _, texts _, texts _,
      Json.fieldsFit_nil⟩
    split
    · split_ifs
      · exact Json.fits_text _
      · exact ⟨Nat.le_add_left 1 1, trivial⟩
    · exact Json.fits_text _
  exact writable_iff_fieldsFit.mpr (flat.mono (by decide))

/-- The failure is that of an index that is not read or lists no such story, or it comes from an entry or the
framework's name. -/
def IsAccounted (service : Service) (route : Route) (error : ServiceError) : Prop :=
  (∃ cause, error = .index cause ∧ asksIndex route = true ∧
    (service.client.entries (service.allowedDepth route) = .error cause ∨ ∃ id : String, cause = .notFound id)) ∨
    ((∀ cause, error ≠ .index cause) ∧ (service.ListsRefused route ∨ ¬Spelled service.framework))

section Accounting

variable {route : Route} {error : ServiceError} (asks : asksIndex route = true)

include asks

/-- Every route from the index asks first, and goes on with the answer. -/
theorem isAccounted_of_asked {α β : Type} {asked : Except IndexError α} {next : α → Except ServiceError β}
    (failed : (asked.mapError .index >>= next) = .error error)
    (unread : ∀ cause, asked = .error cause →
      service.client.entries (service.allowedDepth route) = .error cause ∨ ∃ id : String, cause = .notFound id)
    (unmade : ∀ answer, asked = .ok answer → next answer = .error error →
      (∀ cause, error ≠ .index cause) ∧ (service.ListsRefused route ∨ ¬Spelled service.framework)) :
    service.IsAccounted route error := by
  rcases bind_eq_error_iff.mp failed with unasked | ⟨answer, given, stopped⟩
  · obtain ⟨cause, met, rfl⟩ := mapError_eq_error_iff.mp unasked
    exact .inl ⟨cause, rfl, asks, unread cause met⟩
  · exact .inr (unmade answer (mapError_eq_ok_iff.mp given) stopped)

theorem isAccounted_of_story {β : Type} {id : String} {next : IndexEntry → Except ServiceError β}
    (failed : ((service.client.story (service.allowedDepth route) id).mapError .index >>= next) = .error error)
    (unmade : ∀ entry, next entry = .error error →
      (∀ cause, error ≠ .index cause) ∧ (service.Refuses entry ∨ ¬Spelled service.framework)) :
    service.IsAccounted route error := by
  refine isAccounted_of_asked asks failed ?_ ?_
  · intro cause unread
    rcases IndexClient.story_eq_error_iff.mp unread with missed | ⟨_, _, _, missing⟩
    · exact .inl missed
    · exact .inr ⟨id, missing⟩
  · intro entry asked stopped
    obtain ⟨entries, read, there⟩ := IndexClient.story_eq_ok_iff.mp asked
    have listed := (Fields.get?_eq_some_iff (IndexClient.nodup_keys_entries read)).mp there
    obtain ⟨other, cause⟩ := unmade entry stopped
    exact ⟨other, cause.imp_left fun refused => ⟨entries, read, entry, List.mem_map.mpr ⟨_, listed, rfl⟩, refused⟩⟩

end Accounting

/-- A route that fails does so because the index is not read or lists no such story, or because of an entry or the
framework's name. -/
theorem fields_eq_error {route : Route} {error : ServiceError} (failed : service.fields route = .error error) :
    service.IsAccounted route error := by
  cases route with
  | health => contradiction
  | overview =>
    obtain ⟨unfit, other⟩ := writable_eq_error failed
    exact .inr ⟨other, .inr fun spelled => unfit (writable_overview spelled)⟩
  | stories =>
    refine isAccounted_of_asked rfl failed (fun _ unread => .inl (IndexClient.stories_eq_error_iff.mp unread)) ?_
    intro stories asked unlisted
    obtain ⟨entries, read, rfl⟩ := IndexClient.stories_eq_ok_iff.mp asked
    obtain ⟨other, entry, listed, refused⟩ := refuses_of_list_error unlisted fun _ => List.Subset.refl _
    exact ⟨other, .inl ⟨entries, read, entry, listed, refused⟩⟩
  | storiesOfKind kind =>
    refine isAccounted_of_asked rfl failed
      (fun _ unread => .inl (IndexClient.storiesOfKind_eq_error_iff.mp unread)) ?_
    intro stories asked unlisted
    obtain ⟨entries, read, rfl⟩ := IndexClient.storiesOfKind_eq_ok_iff.mp asked
    obtain ⟨other, entry, kept, refused⟩ :=
      refuses_of_list_error (bind_pure_eq_error_iff.mp unlisted) fun _ => IndexEntry.summary_subset_fields
    exact ⟨other, .inl ⟨entries, read, entry, List.mem_of_mem_filter kept, refused⟩⟩
  | story id =>
    refine isAccounted_of_story rfl failed fun entry unmade => ?_
    rw [← bind_assoc, bind_pure_eq_error_iff] at unmade
    exact (refuses_of_details_error unmade).imp_right .inl
  | docs id =>
    refine isAccounted_of_story rfl failed fun entry unmade => ?_
    rw [← bind_assoc, bind_pure_eq_error_iff] at unmade
    exact refuses_of_documentation_error unmade

/-! ## Faulty bytes -/

variable {bytes : List UInt8}

/-- A route fails for the index exactly where it asks it and meets a limit in reading the bytes. -/
theorem failsForIndex_iff (fetched : service.client.fetch.result = .ok bytes) {route : Route} :
    service.FailsForIndex route ↔
      asksIndex route = true ∧ IndexClient.Overruns (service.allowedDepth route) bytes := by
  constructor
  · rintro ⟨error, failed, available, known⟩
    rcases fields_eq_error failed with ⟨cause, same, asks, unread | ⟨id, missing⟩⟩ | ⟨other, -⟩
    · obtain rfl := ServiceError.index.inj same
      refine ⟨asks, ?_⟩
      by_contra within
      obtain ⟨cause, met⟩ := ((IndexClient.contained_iff fetched).mpr within).entries error unread
      exact available cause met
    · exact absurd (ServiceError.index.inj same ▸ missing) (known id)
    · exact absurd rfl (other error)
  · rintro ⟨asks, overruns⟩
    obtain ⟨error, unread⟩ := IndexClient.entries_eq_document_of_overruns fetched overruns
    exact ⟨_, fields_of_unread asks unread, fun _ => IndexError.noConfusion, fun _ => IndexError.noConfusion⟩

/-- A service without a project whose story server answers with these bytes. -/
def ofPayload (payload : List UInt8) : Service where
  machine := { here := .root, home := "/" }
  project := SpelledPath.ofText "/"
  framework := "react"
  version := none
  server := "http://localhost:6010"
  client := .of "http://localhost:6010" none (.given (.ok payload))
  depth := 988

/-- A page in place of an index. -/
def page : List UInt8 := asciiBytes "<html></html>".toList

/-- A whole number of one digit more than are read. -/
def longNumber : List UInt8 := asciiBytes (List.replicate (Number.digitLimit + 1) '1')

end Service

end StoryCatalog
