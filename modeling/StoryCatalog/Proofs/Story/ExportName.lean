import StoryCatalog.Proofs.Story.Name

/-!
# Which story an id names

An id is read by its segments between doubled hyphens: the second one is the slug, and without one, or with
that of a kind's page, no story is named. Slugs keep apart under their export names, and a slug leads to the
same name however its letters are cased.
-/

namespace StoryCatalog.Story

open Text

/-! ## Segments -/

/-- The pieces of an id between doubled hyphens, found from left to right. -/
def segments : List Char → List (List Char)
  | [] => [[]]
  | '-' :: '-' :: rest => [] :: segments rest
  | c :: rest => (segments rest).modifyHead (c :: ·)

theorem segments_eq_of_cut (id : List Char) :
    segments id =
      match cut? ['-', '-'] id with
      | none => [id]
      | some (before, rest) => before :: segments rest := by
  fun_induction segments id with
  | case1 => rfl
  | case2 rest ih => rfl
  | case3 c rest apart ih =>
    have passed : ¬['-', '-'].isPrefixOf (c :: rest) = true := by
      rw [List.isPrefixOf_iff_prefix]
      rintro ⟨after, same⟩
      obtain ⟨rfl, tail⟩ := List.cons.inj same
      exact apart after rfl tail.symm
    rw [cut?, if_neg passed, ih]
    cases cut? ['-', '-'] rest <;> rfl

theorem slug?_eq_getElem? (id : List Char) : slug? '-' id = (segments id)[1]? := by
  rw [segments_eq_of_cut]
  cases first : cut? ['-', '-'] id with
  | none =>
    rw [slug?, first]
    rfl
  | some cut =>
    obtain ⟨before, rest⟩ := cut
    rw [slug?_of_cut first, List.getElem?_cons_succ, segments_eq_of_cut]
    cases cut? ['-', '-'] rest <;> rfl

theorem getElem?_segments_eq_none_iff {id : List Char} : (segments id)[1]? = none ↔ ¬['-', '-'] <:+: id := by
  rw [← slug?_eq_getElem?, ← cut?_eq_none_iff]
  cases first : cut? ['-', '-'] id with
  | none =>
    rw [slug?, first]
    exact iff_of_true rfl rfl
  | some cut => simp [slug?_of_cut first]

theorem exportName?_eq_none_iff {id : List Char} :
    exportName? id = none ↔
      ¬['-', '-'] <:+: id ∨ (segments id)[1]? = some [] ∨ (segments id)[1]? = some docsSlug := by
  rw [← getElem?_segments_eq_none_iff, ← slug?_eq_getElem?, exportName?]
  cases slug? '-' id with
  | none => simp
  | some slug => simp [or_iff_not_imp_left]

/-! ## The case of letters -/

/-- A word with its first letter in upper case. -/
def capitalized : List Char → List Char
  | [] => []
  | first :: rest => first.toUpper :: rest

/-- A word of any case is capitalized like the small one. -/
theorem capitalize_respelled {word respelled : List Char} (spelled : IsSlugWord word)
    (same : respelled.map Char.toLower = word) : capitalize respelled = capitalized word := by
  cases spelled with
  | @mk first rest letter small =>
    cases respelled with
    | nil => contradiction
    | cons c respelled =>
      obtain ⟨rfl, rfl⟩ := List.cons.inj same
      have ascii : c.toNat < 128 := isAscii_of_toLower (isAscii_of_isSmall (isSmall_of_isLower letter))
      have later : ∀ d ∈ respelled, d.toNat < 128 := fun d member =>
        isAscii_of_toLower (isAscii_of_isSmall (small _ (List.mem_map_of_mem member)))
      simp [capitalize, capitalized, upper, upperOf, ascii, lower_of_ascii later, toUpper_toLower ascii]

/-- The slug whose small letters are those of a slug has its words, word by word. -/
theorem pascalCase_respelled {slug : Slug} {respelled : List Char}
    (same : respelled.map Char.toLower = slug.text) : pascalCase respelled = slug.words.flatMap capitalized := by
  have words : (split '-' respelled).map (List.map Char.toLower) = slug.words := by
    rw [← split_map fun _ => toLower_eq_hyphen_iff, same, split_text]
  rw [pascalCase, ← words, List.flatMap_map]
  refine List.flatMap_congr fun piece member => ?_
  have word : piece.map Char.toLower ∈ slug.words := words ▸ List.mem_map_of_mem member
  exact capitalize_respelled (slug.spelled _ word) rfl

theorem single_of_respelled {slug : Slug} {respelled : List Char}
    (same : respelled.map Char.toLower = slug.text) : ¬['-', '-'] <:+: respelled := by
  intro twice
  have mapped := twice.map Char.toLower
  rw [same] at mapped
  exact double_hyphen_absent slug mapped

/-! ## Slugs and their stories -/

/-- A kind whose end an id shows: it holds no doubled hyphen, and makes none with those behind it. -/
structure IsKind (kind : List Char) : Prop where
  single : ¬['-', '-'] <:+: kind
  unended : kind.getLast? ≠ some '-'

theorem exportName?_respelled {kind : List Char} (marked : IsKind kind) {slug : Slug} {respelled : List Char}
    (same : respelled.map Char.toLower = slug.text) (story : respelled ≠ docsSlug) :
    exportName? (kind ++ ("--".toList ++ respelled)) = some (slug.words.flatMap capitalized) := by
  have nonempty : respelled ≠ [] := by
    rintro rfl
    exact text_ne_nil slug same.symm
  rw [exportName?_append marked.single marked.unended (single_of_respelled same) nonempty story,
    pascalCase_respelled same]

theorem toLower_text (slug : Slug) : slug.text.map Char.toLower = slug.text := by
  have small : ∀ word ∈ slug.words, word.map Char.toLower = word := fun word member => by
    rw [List.map_congr_left fun c present => toLower_of_isSmall ((slug.spelled word member).small c present),
      List.map_id']
  calc slug.text.map Char.toLower
      = join ['-'] (split '-' (slug.text.map Char.toLower)) := (join_split ..).symm
    _ = join ['-'] (slug.words.map (List.map Char.toLower)) := by
        rw [split_map fun _ => toLower_eq_hyphen_iff, split_text]
    _ = slug.text := by rw [List.map_congr_left small, List.map_id', Slug.text]

/-- The id of a story leads to the words of its slug run together with capitals, which tell the slug. The case of
the slug's letters does not matter, unless it makes the slug that of a kind's page; and an id names no story
exactly where it has no second segment, an empty one, or that slug. -/
theorem export_names_tell_slugs {kind otherKind : List Char} (marked : IsKind kind)
    (otherMarked : IsKind otherKind) (slug other : Slug) (id : List Char) :
    (slug.text ≠ docsSlug → exportName? (idOf kind slug) = some (slug.words.flatMap capitalized)) ∧
      (slug.text ≠ docsSlug → other.text ≠ docsSlug →
        exportName? (idOf kind slug) = exportName? (idOf otherKind other) → slug = other) ∧
      (∀ respelled, respelled.map Char.toLower = slug.text → respelled ≠ docsSlug →
        exportName? (kind ++ ("--".toList ++ respelled)) = some (slug.words.flatMap capitalized)) ∧
      (exportName? id = none ↔
        ¬['-', '-'] <:+: id ∨ (segments id)[1]? = some [] ∨ (segments id)[1]? = some docsSlug) := by
  refine ⟨exportName?_respelled marked (toLower_text slug), ?_, ?_, exportName?_eq_none_iff⟩
  · intro story otherStory same
    rw [exportName?_idOf marked.single marked.unended story,
      exportName?_idOf otherMarked.single otherMarked.unended otherStory, Option.some.injEq] at same
    exact pascalCase_text_injective same
  · exact fun respelled => exportName?_respelled marked

/-- The slug `with-icon`. -/
def iconSlug : Slug where
  words := ["with".toList, "icon".toList]
  words_ne := List.cons_ne_nil _ _
  spelled := by
    intro word member
    rcases List.mem_pair.mp member with rfl | rfl
    · exact .mk (by decide) (List.all_eq_true.mp (by decide))
    · exact .mk (by decide) (List.all_eq_true.mp (by decide))

def primarySlug : Slug where
  words := ["primary".toList]
  words_ne := List.cons_ne_nil _ _
  spelled := by
    intro word member
    obtain rfl := List.mem_singleton.mp member
    exact .mk (by decide) (List.all_eq_true.mp (by decide))

theorem export_names_of_button_stories :
    IsKind "a-button".toList ∧ iconSlug.text ≠ docsSlug ∧ primarySlug.text ≠ docsSlug ∧
      exportName? "a-button--with-icon".toList = some "WithIcon".toList ∧
      exportName? "a-button--with-icon".toList ≠ exportName? "a-button--primary".toList ∧
      exportName? "a-button--WITH-Icon".toList = some "WithIcon".toList ∧
      exportName? "a-button--docs".toList = none := by
  have marked : IsKind "a-button".toList := ⟨cut?_eq_none_iff.mp rfl, by decide⟩
  have icon : iconSlug.text ≠ docsSlug := by decide
  have primary : primarySlug.text ≠ docsSlug := by decide
  obtain ⟨named, apart, respelled, unnamed⟩ :=
    export_names_tell_slugs marked marked iconSlug primarySlug "a-button--docs".toList
  refine ⟨marked, icon, primary, named icon, ?_, ?_, unnamed.mpr (.inr (.inr rfl))⟩
  · intro same
    have words := congrArg Slug.words (apart icon primary same)
    exact absurd words (by decide)
  · exact respelled "WITH-Icon".toList rfl (by decide)

end StoryCatalog.Story
