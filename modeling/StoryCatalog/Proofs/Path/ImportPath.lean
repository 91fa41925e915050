import StoryCatalog.Proofs.Path.Join
import StoryCatalog.Proofs.Path.Wide

/-!
# The file that an import path names

A path joined to a directory is the path that the joined texts spell. A leading `./` may be cut off an import
path as long as the rest is relative. A rest with a slash in front starts from a root: it is the same file only
in a project that is this root, and a file of the project only where it leads there by itself.
-/

namespace StoryCatalog

open Text

namespace SpelledPath

open NormalPath

variable {text : String}

theorem root_ofText_eq_relative_iff : (ofText text).root = .relative ↔ ¬isAbsolute text.toList = true := by
  unfold ofText
  split_ifs with doubled absolute
  · simp [isAbsolute_of_isDoubled doubled]
  · simp [absolute]
  · simp [absolute]

/-- The root of a path is settled by its directory, where slashes do not meet. -/
theorem root_ofText_append {directory whole : String} {more : List Char} (given : directory ≠ "")
    (spelled : whole.toList = directory.toList ++ more)
    (apart : directory.toList.getLast? = some '/' → Stops (· = '/') more) :
    (ofText whole).root = (ofText directory).root := by
  by_cases absolute : isAbsolute directory.toList = true
  · simp only [ofText, spelled, isDoubled_append absolute apart, isAbsolute_append absolute, absolute]
  · have relative : ¬isAbsolute whole.toList = true := by
      obtain ⟨c, rest, first⟩ := List.exists_cons_of_ne_nil (mt String.toList_eq_nil_iff.mp given)
      rw [first, isAbsolute_iff] at absolute
      rw [spelled, first, isAbsolute_iff]
      rintro ⟨behind, same⟩
      obtain ⟨rfl, -⟩ := List.cons.inj same
      exact absolute ⟨rest, rfl⟩
    rw [root_ofText_eq_relative_iff.mpr relative, root_ofText_eq_relative_iff.mpr absolute]

end SpelledPath

namespace WideText

/-- The text has a slash in front. -/
def IsAbsolute (text : WideText) : Prop :=
  text.units.head? = some (.char '/')

instance (text : WideText) : Decidable text.IsAbsolute :=
  inferInstanceAs (Decidable (_ = _))

/-- The characters before the first half. -/
def front : WideText → String
  | .whole text => text
  | .halved front _ _ => front

theorem isAbsolute_front {text : WideText} : NormalPath.isAbsolute text.front.toList = true ↔ text.IsAbsolute := by
  rw [NormalPath.isAbsolute_iff]
  cases text with
  | whole text => cases spelled : text.toList <;> simp [front, IsAbsolute, spelled]
  | halved front half rest => cases spelled : front.toList <;> simp [WideText.front, IsAbsolute, units, spelled]

theorem front_whole_append (text : String) (more : WideText) : (whole text ++ more).front = text ++ more.front := by
  cases more <;> rfl

/-- A reference behind a directory, as one text. An absolute reference stands for itself, and a slash is put
between the two where none is. -/
def joined (directory reference : WideText) : WideText :=
  if reference.IsAbsolute then reference
  else if directory = "" ∨ directory.units.getLast? = some (.char '/') then directory ++ reference
  else directory ++ "/" ++ reference

end WideText

namespace WidePath

open WideText

variable {path project : WidePath} {text : WideText}

/-- The path has the root of the directory, and the names of the directory come first. A `..` behind them is a
name as any other. -/
def Within (path directory : WidePath) : Prop :=
  path.root = directory.root ∧ directory.names <+: path.names

instance (path directory : WidePath) : Decidable (path.Within directory) :=
  inferInstanceAs (Decidable (_ ∧ _))

/-! ## Joining -/

theorem root_ofText (text : WideText) : (ofText text).root = (SpelledPath.ofText text.front).root := by
  cases text <;> rfl

theorem root_ofText_eq_relative_iff : (ofText text).root = .relative ↔ ¬text.IsAbsolute := by
  rw [root_ofText, SpelledPath.root_ofText_eq_relative_iff, isAbsolute_front]

theorem joinText_of_absolute (absolute : text.IsAbsolute) : path.joinText text = ofText text := by
  rw [joinText, join, if_neg fun relative => root_ofText_eq_relative_iff.mp relative absolute]

theorem joinText_of_relative (relative : ¬text.IsAbsolute) :
    path.joinText text = ⟨path.root, path.names ++ (ofText text).names⟩ := by
  rw [joinText, join, if_pos (root_ofText_eq_relative_iff.mpr relative)]

/-- Around a slash each side is cut by itself. -/
theorem namesOf_append_slash (before after : List TextUnit) :
    namesOf (before ++ .char '/' :: after) = namesOf before ++ namesOf after := by
  rw [namesOf, split_append_cons, List.map_append, List.filter_append]
  rfl

/-- A relative reference adds its names to those of the directory, and a slash between them adds none. -/
theorem names_joined {directory reference : WideText} (relative : ¬reference.IsAbsolute) :
    (ofText (joined directory reference)).names = (ofText directory).names ++ (ofText reference).names := by
  simp only [names_ofText]
  rw [joined, if_neg relative]
  split_ifs with ending
  · rw [units_append]
    rcases ending with rfl | last
    · rfl
    · obtain ⟨front, spelled⟩ := List.getLast?_eq_some_iff.mp last
      have closed : namesOf directory.units = namesOf front := by
        rw [spelled, namesOf_append_slash]
        exact List.append_nil _
      rw [closed, spelled, List.append_assoc, List.singleton_append, namesOf_append_slash]
  · rw [units_append, units_append, List.append_assoc]
    exact namesOf_append_slash ..

/-- A relative reference leaves the root what it is: a slash is only put where none is, so the slashes in front
stay as many. -/
theorem root_joined {directory reference : WideText} (relative : ¬reference.IsAbsolute) :
    (ofText (joined directory reference)).root = (ofText directory).root := by
  rw [joined, if_neg relative]
  cases directory with
  | halved front half rest => split_ifs <;> rfl
  | whole directory =>
    have stops : Stops (· = '/') reference.front.toList :=
      NormalPath.stops_of_not_isAbsolute (mt isAbsolute_front.mp relative)
    rw [root_ofText, root_ofText]
    split_ifs with ending
    · rw [front_whole_append]
      by_cases given : directory = ""
      · subst given
        rw [String.empty_append, ← root_ofText, root_ofText_eq_relative_iff.mpr relative]
        rfl
      · exact SpelledPath.root_ofText_append given (String.toList_append ..) fun _ => stops
    · rw [not_or] at ending
      have given : directory ≠ "" := fun empty => ending.1 (congrArg whole empty)
      have open_end : directory.toList.getLast? ≠ some '/' := by
        simpa [List.getLast?_map] using ending.2
      have spelled : (directory ++ "/" ++ reference.front).toList =
          directory.toList ++ '/' :: reference.front.toList := by
        simp [String.toList_append]
      rw [whole_append_whole, front_whole_append]
      exact SpelledPath.root_ofText_append given spelled fun last => absurd last open_end

/-- What is joined as texts is joined as paths. -/
theorem ofText_joined (directory reference : WideText) :
    ofText (joined directory reference) = (ofText directory).joinText reference := by
  by_cases absolute : reference.IsAbsolute
  · rw [joined, if_pos absolute, joinText_of_absolute absolute]
  · rw [joinText_of_relative absolute, ← root_joined absolute, ← names_joined absolute]

/-! ## The cut -/

theorem storyFilePath_here (rest : WideText) : storyFilePath project ("./" ++ rest) = project.joinText rest := by
  have spelled : (whole "./" ++ rest).units = .char '.' :: .char '/' :: rest.units := by simp
  rw [storyFilePath, spelled]
  exact congrArg project.joinText (ofUnits_units rest)

theorem storyFilePath_of_not_here {importPath : WideText} (other : ∀ rest : WideText, importPath ≠ "./" ++ rest) :
    storyFilePath project importPath = project.joinText importPath := by
  unfold storyFilePath
  split
  · next rest spelled =>
    refine absurd (units_injective ?_) (other (ofUnits rest))
    rw [spelled, units_append, units_ofUnits]
    rfl
  · rfl

/-- The `./` in front of a path is dropped as a name, but makes it relative. -/
theorem joinText_here (rest : WideText) :
    project.joinText ("./" ++ rest) = ⟨project.root, project.names ++ (ofText rest).names⟩ := by
  have relative : ¬(whole "./" ++ rest).IsAbsolute := by simp [IsAbsolute]
  have names : (ofText (whole "./" ++ rest)).names = (ofText rest).names := by
    have spelled : (whole "./" ++ rest).units = [.char '.'] ++ .char '/' :: rest.units := by simp
    rw [names_ofText, spelled, namesOf_append_slash, names_ofText]
    exact List.nil_append _
  rw [joinText_of_relative relative, names]

/-- Cutting the `./` changes nothing exactly where the rest is relative or starts from the project itself. -/
theorem storyFilePath_here_eq_iff {rest : WideText} :
    storyFilePath project ("./" ++ rest) = project.joinText ("./" ++ rest) ↔
      (rest.IsAbsolute → project = ⟨(ofText rest).root, []⟩) := by
  rw [storyFilePath_here, joinText_here]
  by_cases absolute : rest.IsAbsolute
  · rw [joinText_of_absolute absolute, imp_iff_right absolute]
    obtain ⟨root, names⟩ := project
    generalize ofText rest = other
    obtain ⟨otherRoot, otherNames⟩ := other
    rw [mk.injEq, mk.injEq, List.self_eq_append_left, @eq_comm _ otherRoot]
  · simp [joinText_of_relative absolute, absolute]

theorem within_storyFilePath_here_iff {rest : WideText} :
    (storyFilePath project ("./" ++ rest)).Within project ↔
      (rest.IsAbsolute → (ofText rest).Within project) := by
  rw [storyFilePath_here]
  by_cases absolute : rest.IsAbsolute
  · rw [joinText_of_absolute absolute]
    simp [absolute]
  · rw [joinText_of_relative absolute]
    simp [absolute, Within]

end WidePath

open WidePath WideText

/-- Joining paths is joining texts. The file of an import path is the joined one exactly when no slash stands
behind a leading `./`, or the project is the root that the slashes there stand for. A path with a leading `./`
stays in the project exactly when the rest is relative or leads into the project by itself. -/
theorem import_path_joined_iff (directory : WideText) :
    (∀ path, (ofText directory).joinText path = ofText (joined directory path)) ∧
    (∀ importPath, storyFilePath (ofText directory) importPath = (ofText directory).joinText importPath ↔
      ∀ rest : WideText, importPath = "./" ++ rest → rest.IsAbsolute → ofText directory = ⟨(ofText rest).root, []⟩) ∧
    ∀ rest : WideText, (storyFilePath (ofText directory) ("./" ++ rest)).Within (ofText directory) ↔
      (rest.IsAbsolute → (ofText rest).Within (ofText directory)) := by
  refine ⟨fun path => (ofText_joined directory path).symm, fun importPath => ?_,
    fun rest => within_storyFilePath_here_iff⟩
  by_cases here : ∃ rest : WideText, importPath = "./" ++ rest
  · obtain ⟨rest, rfl⟩ := here
    rw [storyFilePath_here_eq_iff]
    simp only [append_right_inj, forall_eq']
  · rw [not_exists] at here
    exact iff_of_true (storyFilePath_of_not_here here) fun rest cut => absurd cut (here rest)

example : storyFilePath (.ofText "/") ".//src/button.stories.ts" =
    (WidePath.ofText "/").joinText ".//src/button.stories.ts" := by
  decide +kernel

/-- A second slash behind the `./` that is cut off makes the path absolute, and leads out of the project. -/
theorem slash_behind_cut_leaves_project :
    (storyFilePath (.ofText "/work/app") ".//src/button.stories.ts").toText = "/src/button.stories.ts" ∧
      ((WidePath.ofText "/work/app").joinText ".//src/button.stories.ts").toText =
        "/work/app/src/button.stories.ts" ∧
      ¬(storyFilePath (.ofText "/work/app") ".//src/button.stories.ts").Within (.ofText "/work/app") := by
  decide +kernel

end StoryCatalog
