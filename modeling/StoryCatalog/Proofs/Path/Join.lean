import StoryCatalog.Proofs.Path.Normal

/-!
# Joining and normalizing

The text of a normal form has one slash or exactly two in front and only names behind, and is its own normal
form. A reference joined to a directory as texts stands for the reference seen from the directory, so it does
not matter whether a path is normalized before more is joined to it or only at the end.
-/

namespace StoryCatalog.NormalPath

open Text

/-- The text of the normal form of a path that is seen from a directory. -/
def normalText (here : NormalPath) (path : String) : String :=
  (here.resolveIn path).toText

/-- A reference behind a directory, as one text. An absolute reference stands for itself, and a slash is put
between the two where none is. -/
def joined (directory reference : String) : String :=
  if isAbsolute reference.toList then reference
  else if directory = "" ∨ directory.toList.getLast? = some '/' then directory ++ reference
  else directory ++ "/" ++ reference

/-- A text with one slash or exactly two in front and, unless it ends there, no empty, `.` or `..` component
behind. -/
def IsNormalText (text : String) : Prop :=
  ∃ slashes rest, text.toList = slashes ++ rest ∧ (slashes = ['/'] ∨ slashes = ['/', '/']) ∧ Stops (· = '/') rest ∧
    (rest ≠ [] → ∀ component ∈ components rest, component ≠ "" ∧ component ≠ "." ∧ component ≠ "..")

/-! ## Normal forms -/

theorem isNormalText_toText {path : NormalPath} (canonical : path.Canonical) : IsNormalText path.toText := by
  refine ⟨_, _, toList_toText path, ?_, stops_namesText canonical, ?_⟩
  · cases path.doubled with
    | false => exact .inl rfl
    | true => exact .inr rfl
  · intro nonempty component member
    have names_ne : path.names ≠ [] := by
      intro none
      rw [none] at nonempty
      exact nonempty rfl
    rw [components_namesText_of_ne_nil names_ne fun name listed => (canonical name listed).no_slash] at member
    have isName := canonical component member
    exact ⟨isName.ne_empty, isName.ne_here, isName.ne_parent⟩

theorem isAbsolute_toText (path : NormalPath) : isAbsolute path.toText.toList = true := by
  rw [toList_toText]
  cases path.doubled <;> rfl

/-! ## Joining -/

theorem resolveIn_of_isAbsolute {path : String} (absolute : isAbsolute path.toList = true) (here other : NormalPath) :
    here.resolveIn path = other.resolveIn path := by
  rw [resolveIn, resolveIn, if_pos absolute, if_pos absolute]

theorem components_append_slash (before after : List Char) :
    components (before ++ '/' :: after) = components before ++ components after := by
  rw [components, split_append_cons, List.map_append]
  rfl

theorem isAbsolute_iff {text : List Char} : isAbsolute text = true ↔ ∃ rest, text = '/' :: rest := by
  constructor
  · intro absolute
    unfold isAbsolute at absolute
    split at absolute
    · exact ⟨_, rfl⟩
    · contradiction
  · rintro ⟨rest, rfl⟩
    rfl

theorem isAbsolute_append {directory : List Char} (absolute : isAbsolute directory = true) (more : List Char) :
    isAbsolute (directory ++ more) = true := by
  obtain ⟨rest, rfl⟩ := isAbsolute_iff.mp absolute
  rfl

theorem stops_of_not_isAbsolute {text : List Char} (relative : ¬isAbsolute text = true) : Stops (· = '/') text := by
  cases text with
  | nil => exact stops_nil _
  | cons c text =>
    rw [stops_cons, decide_eq_false_iff_not]
    rintro rfl
    exact relative rfl

theorem isDoubled_iff {text : List Char} :
    isDoubled text = true ↔ ∃ rest, text = '/' :: '/' :: rest ∧ Stops (· = '/') rest := by
  constructor
  · intro doubled
    unfold isDoubled at doubled
    split at doubled
    · contradiction
    · next rest third =>
      refine ⟨rest, rfl, stops_of_not_isAbsolute fun absolute => ?_⟩
      obtain ⟨more, rfl⟩ := isAbsolute_iff.mp absolute
      exact third more rfl
    · contradiction
  · rintro ⟨rest, rfl, stops⟩
    cases rest with
    | nil => rfl
    | cons c rest =>
      have other : c ≠ '/' := by simpa using stops
      simp [isDoubled, other]

/-- Whether a path has exactly two slashes in front is settled by its directory, where slashes do not meet. -/
theorem isDoubled_append {directory more : List Char} (absolute : isAbsolute directory = true)
    (apart : directory.getLast? = some '/' → Stops (· = '/') more) :
    isDoubled (directory ++ more) = isDoubled directory := by
  obtain ⟨rest, rfl⟩ := isAbsolute_iff.mp absolute
  rw [Bool.eq_iff_iff, isDoubled_iff, isDoubled_iff]
  constructor
  · rintro ⟨behind, spelled, stops⟩
    cases rest with
    | nil =>
      obtain ⟨-, rfl⟩ := List.cons.inj spelled
      exact absurd (apart rfl) (by simp)
    | cons c rest =>
      simp only [List.cons_append, List.cons.injEq, true_and] at spelled
      obtain ⟨rfl, rfl⟩ := spelled
      exact ⟨rest, rfl, fun d first => stops d (by rw [List.head?_append, first]; rfl)⟩
  · rintro ⟨behind, spelled, stops⟩
    obtain ⟨-, rfl⟩ := List.cons.inj spelled
    refine ⟨behind ++ more, rfl, ?_⟩
    cases behind with
    | nil => exact apart rfl
    | cons d behind => exact (stops_cons ..).mpr ((stops_cons ..).mp stops)

theorem isAbsolute_joined {directory : String} (absolute : isAbsolute directory.toList = true) (reference : String) :
    isAbsolute (joined directory reference).toList = true := by
  unfold joined
  split_ifs with same
  · exact same
  · rw [String.toList_append]
    exact isAbsolute_append absolute _
  · rw [String.toList_append, String.toList_append, List.append_assoc]
    exact isAbsolute_append absolute _

theorem isAbsolute_of_isDoubled {text : List Char} (doubled : isDoubled text = true) : isAbsolute text = true := by
  obtain ⟨rest, rfl, -⟩ := isDoubled_iff.mp doubled
  rfl

/-- A reference that is not absolute goes on from where its directory ends: no slash is added to slashes in
front, and the components are those of both, without the empty one that a slash at the directory's end makes. -/
theorem exists_joined {directory reference : String} (given : directory ≠ "")
    (relative : ¬isAbsolute reference.toList = true) :
    ∃ more front, (joined directory reference).toList = directory.toList ++ more ∧
      (directory.toList.getLast? = some '/' → Stops (· = '/') more) ∧
      (components directory.toList = front ∨ components directory.toList = front ++ [""]) ∧
      components (joined directory reference).toList = front ++ components reference.toList := by
  rw [joined, if_neg relative]
  split_ifs with ending
  · obtain ⟨front, spelled⟩ := List.getLast?_eq_some_iff.mp (ending.resolve_left given)
    refine ⟨reference.toList, components front, String.toList_append .., fun _ => stops_of_not_isAbsolute relative,
      .inr ?_, ?_⟩
    · rw [spelled, components_append_slash]
      rfl
    · rw [String.toList_append, spelled, List.append_assoc, List.singleton_append, components_append_slash]
  · rw [not_or] at ending
    have spelled : (directory ++ "/" ++ reference).toList = directory.toList ++ '/' :: reference.toList := by
      simp [String.toList_append]
    refine ⟨'/' :: reference.toList, components directory.toList, spelled, fun last => absurd last ending.2,
      .inl rfl, ?_⟩
    rw [spelled, components_append_slash]

/-- What is joined to an absolute directory is seen from that directory. -/
theorem resolveIn_joined {directory : String} (absolute : isAbsolute directory.toList = true) (reference : String)
    (here : NormalPath) : here.resolveIn (joined directory reference) = (here.resolveIn directory).resolveIn reference := by
  by_cases same : isAbsolute reference.toList = true
  · rw [joined, if_pos same]
    exact resolveIn_of_isAbsolute same here _
  · have given : directory ≠ "" := by
      rintro rfl
      contradiction
    obtain ⟨more, front, spelled, apart, ends, onward⟩ := exists_joined given same
    have closed (names : List String) : follow names (components directory.toList) = follow names front := by
      rcases ends with plain | slashed
      · rw [plain]
      · rw [slashed, follow_append, follow_cons_empty]
        exact List.reverse_reverse _
    have doubled : isDoubled (joined directory reference).toList = isDoubled directory.toList :=
      spelled ▸ isDoubled_append absolute apart
    rw [resolveIn, if_pos (isAbsolute_joined absolute reference), resolveIn, if_neg same, resolveIn, if_pos absolute,
      doubled, onward, follow_append, closed]

/-- A reference in a file is joined to the directory that the file stands in. -/
theorem resolveBeside_eq_joined {here : NormalPath} (canonical : here.Canonical) (base reference : String) :
    here.resolveBeside base reference = here.resolveIn (joined (here.resolveIn base).parent.toText reference) := by
  have directory : (here.resolveIn base).parent.Canonical := fun name member =>
    canonical_resolveIn canonical base name (List.dropLast_subset _ member)
  rw [resolveIn_joined (isAbsolute_toText _), resolveIn_toText here directory, resolveBeside]

/-- Every path has a normal form as described, which stays what it is when it is normalized again. A path may
be normalized or left as it is before more is joined to it; and a reference found in a file is joined to the
directory of that file. -/
theorem normalizing_fits_joining :
    (∀ path, IsNormalText (root.normalText path) ∧ root.normalText (root.normalText path) = root.normalText path) ∧
    (∀ directory first second, isAbsolute directory.toList = true →
      root.normalText (joined (root.normalText (joined directory first)) second) =
        root.normalText (joined (joined directory first) second)) ∧
    ∀ base reference, (root.resolveBeside base reference).toText =
      root.normalText (joined (root.resolveIn base).parent.toText reference) := by
  have canonical (path : String) : (root.resolveIn path).Canonical := canonical_resolveIn canonical_root path
  refine ⟨fun path => ⟨isNormalText_toText (canonical path), ?_⟩, ?_, fun base reference => ?_⟩
  · exact congrArg toText (resolveIn_toText root (canonical path))
  · intro directory first second absolute
    have whole := isAbsolute_joined absolute first
    calc
      root.normalText (joined (root.normalText (joined directory first)) second)
      _ = ((root.resolveIn (joined directory first)).resolveIn second).toText := by
        rw [normalText, normalText, resolveIn_joined (isAbsolute_toText _), resolveIn_toText root (canonical _)]
      _ = root.normalText (joined (joined directory first) second) := by
        rw [normalText, resolveIn_joined whole]
  · exact congrArg toText (resolveBeside_eq_joined canonical_root base reference)

/-- A reference that climbs past a root of two slashes, and one with slashes in a row behind it. -/
theorem climbing_references_join :
    isAbsolute "//ui/button".toList = true ∧
    root.normalText (joined (root.normalText (joined "//ui/button" "../../../shared/.")) "..//theme/") = "//theme" ∧
    root.normalText (joined (joined "//ui/button" "../../../shared/.") "..//theme/") = "//theme" := by
  obtain ⟨-, moved, -⟩ := normalizing_fits_joining
  have absolute : isAbsolute "//ui/button".toList = true := by decide
  have early : root.normalText (joined (root.normalText (joined "//ui/button" "../../../shared/.")) "..//theme/") =
      "//theme" := by decide +kernel
  exact ⟨absolute, early, (moved _ _ _ absolute).symm.trans early⟩

end StoryCatalog.NormalPath
