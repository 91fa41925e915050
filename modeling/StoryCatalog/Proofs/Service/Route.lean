import StoryCatalog.Proofs.Text.Scan
import StoryCatalog.Service.Route

/-!
# Which paths are routes

The variable part of a path is its last segment, so a path with a slash in that part is no route at all.
-/

namespace StoryCatalog.Route

open Text

theorem segment?_append (start : String) {segment : List Char} (nonempty : segment ≠ []) :
    segment? start (start.toList ++ segment) =
      if '/' ∈ segment then none else some (String.ofList segment) := by
  unfold segment?
  rw [dropWord?_append]
  cases segment with
  | nil => contradiction
  | cons c segment => simp only [List.contains_eq_mem, decide_eq_true_eq]

/-- A path that starts like the route of a kind is no other route. -/
theorem ofChars?_kind {kind : List Char} (nonempty : kind ≠ []) :
    ofChars? ("/api/stories/kind/".toList ++ kind) =
      if '/' ∈ kind then none else some (.storiesOfKind (String.ofList kind)) := by
  have story : segment? "/api/stories/" ("/api/stories/kind/".toList ++ kind) = none := by
    have parts : "/api/stories/kind/".toList ++ kind =
        "/api/stories/".toList ++ ("kind/".toList ++ kind) := rfl
    rw [parts, segment?_append _ (by simp), if_pos (by simp)]
  have docs : segment? "/api/docs/" ("/api/stories/kind/".toList ++ kind) = none := rfl
  rw [ofChars?, List.find?_eq_none.mpr ?unfixed]
  · simp only [segmented, List.findSome?_cons, segment?_append _ nonempty, story, docs]
    split_ifs <;> rfl
  · simp only [fixed, List.forall_mem_cons]
    exact ⟨Bool.false_ne_true, Bool.false_ne_true, Bool.false_ne_true, by simp⟩

theorem segment?_kind_eq_none {id : List Char} (plain : '/' ∉ id) :
    segment? "/api/stories/kind/" ("/api/stories/".toList ++ id) = none := by
  unfold segment?
  cases cut : dropWord? "/api/stories/kind/".toList ("/api/stories/".toList ++ id) with
  | none => rfl
  | some rest =>
    rw [dropWord?_eq_some_iff] at cut
    have same : id = "kind/".toList ++ rest := List.append_cancel_left cut
    rw [same] at plain
    simp at plain

/-- An id without a slash is asked for behind the path of all stories. -/
theorem ofChars?_story {id : List Char} (nonempty : id ≠ []) (plain : '/' ∉ id) :
    ofChars? ("/api/stories/".toList ++ id) = some (.story (String.ofList id)) := by
  rw [ofChars?, List.find?_eq_none.mpr ?unfixed]
  · simp only [segmented, List.findSome?_cons, segment?_append _ nonempty, segment?_kind_eq_none plain,
      if_neg plain]
    rfl
  · simp only [fixed, List.forall_mem_cons]
    exact ⟨Bool.false_ne_true, Bool.false_ne_true, Bool.false_ne_true, by simp⟩

/-- An id without a slash is asked for behind the path of all documentation. -/
theorem ofChars?_docs {id : List Char} (nonempty : id ≠ []) (plain : '/' ∉ id) :
    ofChars? ("/api/docs/".toList ++ id) = some (.docs (String.ofList id)) := by
  have kind : segment? "/api/stories/kind/" ("/api/docs/".toList ++ id) = none := rfl
  have story : segment? "/api/stories/" ("/api/docs/".toList ++ id) = none := rfl
  rw [ofChars?, List.find?_eq_none.mpr ?unfixed]
  · simp only [segmented, List.findSome?_cons, segment?_append _ nonempty, kind, story, if_neg plain]
    rfl
  · simp only [fixed, List.forall_mem_cons]
    exact ⟨Bool.false_ne_true, Bool.false_ne_true, Bool.false_ne_true, by simp⟩

end StoryCatalog.Route
