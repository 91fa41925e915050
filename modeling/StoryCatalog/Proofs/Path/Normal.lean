import StoryCatalog.Path.Normal
import StoryCatalog.Proofs.Text.Split

/-!
# Spellings of normal paths

A path in normal form is spelled in one way, which stands for that path wherever it is read. So two
spellings stand for one path exactly when they are normalized to the same text, and a normal form stays one
when its last name is made longer.
-/

namespace StoryCatalog

open Text

namespace NormalPath

/-- A name that can stand in a path in normal form. -/
structure IsName (name : String) : Prop where
  ne_empty : name ≠ ""
  ne_here : name ≠ "."
  ne_parent : name ≠ ".."
  no_slash : '/' ∉ name.toList

instance (name : String) : Decidable (IsName name) :=
  decidable_of_iff (name ≠ "" ∧ name ≠ "." ∧ name ≠ ".." ∧ '/' ∉ name.toList)
    ⟨fun ⟨ne_empty, ne_here, ne_parent, no_slash⟩ => ⟨ne_empty, ne_here, ne_parent, no_slash⟩,
      fun ⟨ne_empty, ne_here, ne_parent, no_slash⟩ => ⟨ne_empty, ne_here, ne_parent, no_slash⟩⟩

def Canonical (path : NormalPath) : Prop :=
  ∀ name ∈ path.names, IsName name

theorem canonical_root : root.Canonical := by
  simp [Canonical, root]

/-! ## Every spelling stands for a normal form -/

theorem isName_push {stack : List String} {name : String} (held : ∀ other ∈ stack, IsName other)
    (no_slash : '/' ∉ name.toList) : ∀ other ∈ push stack name, IsName other := by
  unfold push
  split_ifs with passed back
  · exact held
  · exact fun other member => held other (List.mem_of_mem_tail member)
  · rw [not_or] at passed
    intro other member
    rcases List.mem_cons.mp member with rfl | member
    · exact ⟨passed.1, passed.2, back, no_slash⟩
    · exact held other member

theorem isName_follow {names components : List String} (held : ∀ name ∈ names, IsName name)
    (no_slash : ∀ component ∈ components, '/' ∉ component.toList) :
    ∀ name ∈ follow names components, IsName name := by
  suffices stacked : ∀ stack : List String, (∀ name ∈ stack, IsName name) →
      ∀ name ∈ components.foldl push stack, IsName name by
    intro name member
    exact stacked names.reverse (fun other present => held other (List.mem_reverse.mp present)) name
      (List.mem_reverse.mp member)
  induction components with
  | nil => exact fun stack names => names
  | cons component components ih =>
    intro stack names
    rw [List.forall_mem_cons] at no_slash
    exact ih no_slash.2 _ (isName_push names no_slash.1)

theorem not_mem_of_mem_components {spelling : List Char} {component : String}
    (member : component ∈ components spelling) : '/' ∉ component.toList := by
  obtain ⟨piece, present, rfl⟩ := List.mem_map.mp member
  rw [String.toList_ofList]
  exact not_mem_of_mem_split present

theorem canonical_resolveIn {here : NormalPath} (canonical : here.Canonical) (spelling : String) :
    (here.resolveIn spelling).Canonical := by
  have no_slash : ∀ component ∈ components spelling.toList, '/' ∉ component.toList :=
    fun _ member => not_mem_of_mem_components member
  unfold resolveIn
  split_ifs
  · exact isName_follow (by simp) no_slash
  · exact isName_follow canonical no_slash

theorem canonical_resolveBeside {here : NormalPath} (canonical : here.Canonical) (base reference : String) :
    (here.resolveBeside base reference).Canonical := by
  refine canonical_resolveIn (fun name member => ?_) reference
  exact canonical_resolveIn canonical base name (List.dropLast_subset _ member)

/-! ## A normal form stands for itself -/

theorem follow_append (names first second : List String) :
    follow names (first ++ second) = follow (follow names first) second := by
  simp only [follow, List.foldl_append, List.reverse_reverse]

theorem follow_cons_empty (names components : List String) :
    follow names ("" :: components) = follow names components := by
  simp [follow, push]

theorem follow_of_isName (names : List String) {components : List String}
    (all : ∀ component ∈ components, IsName component) : follow names components = names ++ components := by
  induction components generalizing names with
  | nil => simp [follow]
  | cons component components ih =>
    rw [List.forall_mem_cons] at all
    have pushed : follow names [component] = names ++ [component] := by
      simp [follow, push, all.1.ne_empty, all.1.ne_here, all.1.ne_parent]
    rw [← List.singleton_append, follow_append, pushed, ih _ all.2, List.append_assoc]

/-- The text of the names alone, between slashes. -/
def namesText (names : List String) : List Char :=
  ("/".intercalate names).toList

theorem toList_toText (path : NormalPath) :
    path.toText.toList = (if path.doubled then ['/', '/'] else ['/']) ++ namesText path.names := by
  cases path with
  | mk doubled names => cases doubled <;> simp [toText, namesText, String.toList_append]

theorem stops_namesText_of_no_slash {names : List String}
    (all : ∀ name ∈ names, name ≠ "" ∧ '/' ∉ name.toList) : Stops (· = '/') (namesText names) := by
  cases names with
  | nil => simp [namesText]
  | cons name names =>
    rw [List.forall_mem_cons] at all
    obtain ⟨c, rest, spelled⟩ := List.exists_cons_of_ne_nil
      (show name.toList ≠ [] by simpa using all.1.1)
    have other : c ≠ '/' := by
      rintro rfl
      exact all.1.2 (spelled ▸ List.mem_cons_self ..)
    rw [namesText, String.toList_intercalate, List.map_cons, spelled]
    cases names with
    | nil => simpa using other
    | cons next names => simpa [List.intercalate_cons_cons] using other

theorem stops_namesText {names : List String} (all : ∀ name ∈ names, IsName name) :
    Stops (· = '/') (namesText names) :=
  stops_namesText_of_no_slash fun name member => ⟨(all name member).ne_empty, (all name member).no_slash⟩

/-- Names without slashes are the components of their text, unless there is none. -/
theorem components_namesText_of_ne_nil {names : List String} (nonempty : names ≠ [])
    (no_slash : ∀ name ∈ names, '/' ∉ name.toList) : components (namesText names) = names := by
  have pieces : split '/' (namesText names) = names.map String.toList := by
    rw [namesText, String.toList_intercalate, show "/".toList = ['/'] from rfl, ← join_eq_intercalate]
    refine split_join (by simpa using nonempty) fun piece member => ?_
    obtain ⟨name, present, rfl⟩ := List.mem_map.mp member
    exact no_slash name present
  simp [components, pieces]

theorem components_namesText {names : List String} (all : ∀ name ∈ names, IsName name) :
    follow [] (components (namesText names)) = names := by
  by_cases empty : names = []
  · subst empty
    simp [namesText, components, split, follow, push]
  · rw [components_namesText_of_ne_nil empty fun name member => (all name member).no_slash,
      follow_of_isName [] all, List.nil_append]

/-- The text of a normal form stands for it, wherever it is read. -/
theorem resolveIn_toText (here : NormalPath) {path : NormalPath} (canonical : path.Canonical) :
    here.resolveIn path.toText = path := by
  have stops := stops_namesText canonical
  have slash (rest : List Char) : components ('/' :: rest) = "" :: components rest := by
    simp [components, split]
  unfold resolveIn
  rw [toList_toText]
  obtain ⟨doubled, names⟩ := path
  have same := components_namesText canonical
  cases doubled with
  | false =>
    have single : isDoubled ('/' :: namesText names) = false := by
      cases spelled : namesText names with
      | nil => rfl
      | cons c rest =>
        have other : c ≠ '/' := by simpa [spelled] using stops
        simp [isDoubled, other]
    simp [isAbsolute, single, slash, follow_cons_empty, same]
  | true =>
    have double : isDoubled ('/' :: '/' :: namesText names) = true := by
      cases spelled : namesText names with
      | nil => rfl
      | cons c rest =>
        have other : c ≠ '/' := by simpa [spelled] using stops
        simp [isDoubled, other]
    simp [isAbsolute, double, slash, follow_cons_empty, same]

/-- A normal form has one text. -/
theorem toText_injective {path other : NormalPath} (canonical : path.Canonical)
    (otherCanonical : other.Canonical) (same : path.toText = other.toText) : path = other := by
  rw [← resolveIn_toText root canonical, same, resolveIn_toText root otherCanonical]

/-! ## A longer last name -/

theorem isName_of_letter {name : String} (no_slash : '/' ∉ name.toList) (letter : ∃ c ∈ name.toList, c ≠ '.') :
    IsName name := by
  obtain ⟨c, member, other⟩ := letter
  have dotted (text : String) (dots : ∀ d ∈ text.toList, d = '.') : name ≠ text := by
    rintro rfl
    exact other (dots c member)
  exact ⟨dotted "" (by simp), dotted "." (by simp), dotted ".." (by simp), no_slash⟩

/-- An ending that is no dots makes the last name of a normal form longer, or is a name of its own. -/
theorem exists_longer {path : NormalPath} (canonical : path.Canonical) {ending : String}
    (no_slash : '/' ∉ ending.toList) (letter : ∃ c ∈ ending.toList, c ≠ '.') :
    ∃ longer : NormalPath, longer.Canonical ∧ longer.toText = path.toText ++ ending := by
  obtain ⟨doubled, names⟩ := path
  obtain rfl | ⟨earlier, last, rfl⟩ := List.eq_nil_or_concat names
  · refine ⟨⟨doubled, [ending]⟩, ?_, by simp [toText]⟩
    simpa [Canonical] using isName_of_letter no_slash letter
  · obtain ⟨c, member, other⟩ := letter
    have longerName : IsName (last ++ ending) := by
      refine isName_of_letter ?_ ⟨c, by simp [String.toList_append, member], other⟩
      rw [String.toList_append, List.mem_append, not_or]
      exact ⟨(canonical last (by simp)).no_slash, no_slash⟩
    refine ⟨⟨doubled, earlier ++ [last ++ ending]⟩, ?_, ?_⟩
    · intro name member
      rcases List.mem_append.mp member with earlierName | rest
      · exact canonical name (by simp [earlierName])
      · rwa [List.mem_singleton.mp rest]
    · by_cases first : earlier = []
      · simp [toText, first, String.append_assoc]
      · simp [toText, String.intercalate_append_of_ne_nil, first, String.append_assoc]

end NormalPath

end StoryCatalog
