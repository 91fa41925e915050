import StoryCatalog.Path.Spelled
import StoryCatalog.Proofs.Path.Normal

/-!
# Texts of spelled paths

A path that was read from texts is read again from its own text, so a file is the same by its path and by
the text of its path. The text of a path in normal form is read as that path, and the character that no name may
hold is read into a name.
-/

namespace StoryCatalog

open Text NormalPath

namespace SpelledPath

/-- The names are such as a text is cut into. -/
def Plain (path : SpelledPath) : Prop :=
  ∀ name ∈ path.names, name ≠ "" ∧ name ≠ "." ∧ '/' ∉ name.toList

variable {path : SpelledPath}

theorem filter_components_namesText {names : List String}
    (plain : ∀ name ∈ names, name ≠ "" ∧ name ≠ "." ∧ '/' ∉ name.toList) :
    (components (namesText names)).filter (fun name => name ≠ "" && name ≠ ".") = names := by
  by_cases empty : names = []
  · subst empty
    simp [namesText, components, split]
  · have spelled := components_namesText_of_ne_nil empty fun name member => (plain name member).2.2
    rw [spelled, List.filter_eq_self]
    intro name member
    simp [(plain name member).1, (plain name member).2.1]

theorem toList_toText (path : SpelledPath) :
    path.toText.toList =
      match path.root with
      | .relative => if namesText path.names = [] then ['.'] else namesText path.names
      | .single => '/' :: namesText path.names
      | .double => '/' :: '/' :: namesText path.names := by
  obtain ⟨root, names⟩ := path
  cases root with
  | relative =>
    simp only [toText, namesText, String.toList_eq_nil_iff]
    split_ifs <;> rfl
  | single => simp [toText, namesText, String.toList_append]
  | double => simp [toText, namesText, String.toList_append]

/-- How many slashes a text starts with decides its root; what stands behind them decides its names. -/
theorem ofText_slashes {text : List Char} (stops : Stops (· = '/') text) :
    ofText (String.ofList text) = ⟨.relative, (components text).filter fun name => name ≠ "" && name ≠ "."⟩ ∧
    ofText (String.ofList ('/' :: text)) =
      ⟨.single, (components text).filter fun name => name ≠ "" && name ≠ "."⟩ ∧
    ofText (String.ofList ('/' :: '/' :: text)) =
      ⟨.double, (components text).filter fun name => name ≠ "" && name ≠ "."⟩ := by
  have slash (rest : List Char) : components ('/' :: rest) = "" :: components rest := by
    simp [components, split]
  simp only [ofText, String.toList_ofList, slash]
  cases text with
  | nil => exact ⟨rfl, rfl, rfl⟩
  | cons c rest =>
    have other : c ≠ '/' := by simpa using stops
    simp [isDoubled, isAbsolute, other]

/-- The text of a path stands for it. -/
theorem ofText_toText (plain : path.Plain) : ofText path.toText = path := by
  have stops : Stops (· = '/') (namesText path.names) :=
    stops_namesText_of_no_slash fun name member => ⟨(plain name member).1, (plain name member).2.2⟩
  obtain ⟨relative, single, double⟩ := ofText_slashes stops
  rw [filter_components_namesText plain] at relative single double
  rw [← String.ofList_toList (s := path.toText), toList_toText]
  obtain ⟨root, names⟩ := path
  cases root with
  | single => exact single
  | double => exact double
  | relative =>
    dsimp only at relative ⊢
    split_ifs with empty
    · rw [← relative, empty]
      rfl
    · exact relative

/-! ## The character that no name may hold -/

theorem hasNul_iff {path : SpelledPath} : path.hasNul = true ↔ ∃ name ∈ path.names, '\x00' ∈ name.toList := by
  simp [hasNul, List.any_eq_true]

/-- A path holds the character that no name may hold exactly where its text does. -/
theorem hasNul_ofText {text : String} : (ofText text).hasNul = true ↔ '\x00' ∈ text.toList := by
  rw [hasNul_iff, ← exists_mem_split_iff (show '\x00' ≠ '/' by decide)]
  constructor
  · rintro ⟨name, member, nul⟩
    obtain ⟨piece, present, rfl⟩ := List.mem_map.mp (List.mem_of_mem_filter member)
    exact ⟨piece, present, by rwa [String.toList_ofList] at nul⟩
  · rintro ⟨piece, present, nul⟩
    refine ⟨String.ofList piece, List.mem_filter.mpr ⟨List.mem_map_of_mem present, ?_⟩, by
      rwa [String.toList_ofList]⟩
    have differ (text : String) (free : '\x00' ∉ text.toList) : String.ofList piece ≠ text := by
      rintro rfl
      rw [String.toList_ofList] at free
      exact free nul
    rw [Bool.and_eq_true, decide_eq_true_eq, decide_eq_true_eq]
    exact ⟨differ "" (by decide), differ "." (by decide)⟩

theorem hasNul_joinText {path : SpelledPath} (plain : path.hasNul = false) {text : String} :
    (path.joinText text).hasNul = true ↔ '\x00' ∈ text.toList := by
  rw [← hasNul_ofText]
  have free : ¬∃ name ∈ path.names, '\x00' ∈ name.toList := by
    rw [← hasNul_iff, plain]
    exact Bool.false_ne_true
  unfold joinText join
  split_ifs
  · simp only [hasNul_iff, List.mem_append, or_and_right, exists_or, free, false_or]
  · rfl

theorem hasNul_parent {path : SpelledPath} (plain : path.hasNul = false) : path.parent.hasNul = false := by
  rw [Bool.eq_false_iff] at plain ⊢
  intro nul
  obtain ⟨name, member, holds⟩ := hasNul_iff.mp nul
  exact plain (hasNul_iff.mpr ⟨name, List.dropLast_subset _ member, holds⟩)

end SpelledPath

namespace NormalPath

/-- A normal form as a spelling. -/
def spelled (path : NormalPath) : SpelledPath :=
  ⟨if path.doubled then .double else .single, path.names⟩

theorem toText_spelled (path : NormalPath) : path.spelled.toText = path.toText := by
  obtain ⟨doubled, names⟩ := path
  cases doubled <;> rfl

theorem ofText_toText {path : NormalPath} (canonical : path.Canonical) :
    SpelledPath.ofText path.toText = path.spelled := by
  rw [← toText_spelled]
  exact SpelledPath.ofText_toText fun name member =>
    ⟨(canonical name member).ne_empty, (canonical name member).ne_here, (canonical name member).no_slash⟩

end NormalPath

end StoryCatalog
