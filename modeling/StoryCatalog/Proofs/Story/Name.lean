import StoryCatalog.Proofs.Text.Character
import StoryCatalog.Proofs.Text.Split
import StoryCatalog.Story.Name

/-!
# Slugs and export names

A slug is one or more words of small letters and digits between hyphens. Its export name runs the words
together with capitals, and the capitals tell where the words start, so no two slugs share a name.
-/

namespace StoryCatalog

open Text

/-- A word of a slug: a small letter, then small letters and digits. -/
inductive IsSlugWord : List Char → Prop
  | mk {first : Char} {rest : List Char} (letter : first.isLower = true)
      (small : ∀ c ∈ rest, isSmall c = true) : IsSlugWord (first :: rest)

/-- A story's slug, word by word. -/
structure Slug where
  words : List (List Char)
  words_ne : words ≠ []
  spelled : ∀ word ∈ words, IsSlugWord word

namespace Slug

/-- The slug as it stands in an id. -/
def text (slug : Slug) : List Char :=
  join ['-'] slug.words

end Slug

theorem IsSlugWord.ne_nil {word : List Char} (spelled : IsSlugWord word) : word ≠ [] := by
  cases spelled with
  | mk => exact List.cons_ne_nil _ _

theorem IsSlugWord.small {word : List Char} (spelled : IsSlugWord word) : ∀ c ∈ word, isSmall c = true := by
  cases spelled with
  | mk letter small =>
    intro c member
    rcases List.mem_cons.mp member with rfl | member
    · exact isSmall_of_isLower letter
    · exact small c member

theorem IsSlugWord.not_mem_hyphen {word : List Char} (spelled : IsSlugWord word) : '-' ∉ word :=
  not_mem_of_forall spelled.small (by decide)

namespace Story

/-! ## Export names -/

/-- In the ASCII block there is no sigma, so every letter has its small letter by itself. -/
theorem lower_of_ascii {text : List Char} (ascii : ∀ c ∈ text, c.toNat < 128) :
    lower text = text.map Char.toLower := by
  suffices general : ∀ casedBefore, lowerFrom casedBefore text = text.map Char.toLower from general false
  induction text with
  | nil => exact fun _ => rfl
  | cons c text ih =>
    intro casedBefore
    have first := ascii c (List.mem_cons_self ..)
    have notSigma : c ≠ 'Σ' := by
      rintro rfl
      exact absurd first (by decide)
    rw [lowerFrom, if_neg notSigma, ih fun d member => ascii d (List.mem_cons_of_mem _ member), lowerOf,
      if_pos first, List.singleton_append, List.map_cons]

theorem lower_of_small {text : List Char} (small : ∀ c ∈ text, isSmall c = true) : lower text = text := by
  rw [lower_of_ascii fun c member => isAscii_of_isSmall (small c member),
    List.map_congr_left fun c member => toLower_of_isSmall (small c member), List.map_id']

theorem capitalize_slugWord {first : Char} {rest : List Char} (letter : first.isLower = true)
    (small : ∀ c ∈ rest, isSmall c = true) : capitalize (first :: rest) = first.toUpper :: rest := by
  have ascii := isAscii_of_isSmall (isSmall_of_isLower letter)
  simp [capitalize, upper, upperOf, ascii, lower_of_small small]

/-- The words of a slug come back out of its text. -/
theorem split_text (slug : Slug) : split '-' slug.text = slug.words :=
  split_join slug.words_ne fun word member => (slug.spelled word member).not_mem_hyphen

theorem pascalCase_text (slug : Slug) : pascalCase slug.text = slug.words.flatMap capitalize := by
  rw [pascalCase, split_text]

/-- A run of capitalized words starts with a capital, where it starts at all. -/
theorem stops_flatMap_capitalize {words : List (List Char)} (spelled : ∀ word ∈ words, IsSlugWord word) :
    Stops (fun c => !c.isUpper) (words.flatMap capitalize) := by
  cases words with
  | nil => exact stops_nil _
  | cons word words =>
    cases spelled word (List.mem_cons_self ..) with
    | mk letter small =>
      rw [List.flatMap_cons, capitalize_slugWord letter small, List.cons_append, stops_cons,
        (toUpper_of_isLower letter).1, Bool.not_true]

theorem flatMap_capitalize_injective {words others : List (List Char)}
    (spelled : ∀ word ∈ words, IsSlugWord word) (otherSpelled : ∀ word ∈ others, IsSlugWord word)
    (same : words.flatMap capitalize = others.flatMap capitalize) : words = others := by
  induction words generalizing others with
  | nil =>
    cases others with
    | nil => rfl
    | cons other others =>
      cases otherSpelled other (List.mem_cons_self ..) with
      | mk letter small => simp [capitalize_slugWord letter small] at same
  | cons word words ih =>
    cases spelled word (List.mem_cons_self ..) with
    | @mk first rest letter small =>
      cases others with
      | nil => simp [capitalize_slugWord letter small] at same
      | cons other others =>
        cases otherSpelled other (List.mem_cons_self ..) with
        | @mk otherFirst otherRest otherLetter otherSmall =>
          have later : ∀ word ∈ words, IsSlugWord word :=
            fun _ member => spelled _ (List.mem_cons_of_mem _ member)
          have otherLater : ∀ word ∈ others, IsSlugWord word :=
            fun _ member => otherSpelled _ (List.mem_cons_of_mem _ member)
          simp only [List.flatMap_cons, capitalize_slugWord letter small,
            capitalize_slugWord otherLetter otherSmall, List.cons_append] at same
          -- The next capital starts the next word, so the rests of the first words end at one place.
          obtain ⟨capitals, tails⟩ := List.cons.inj same
          have letters : first = otherFirst := by
            rw [← (toUpper_of_isLower letter).2, capitals, (toUpper_of_isLower otherLetter).2]
          obtain ⟨rests, tails⟩ := Scan.append_inj_of_stops (p := fun c => !c.isUpper)
            (fun c member => by simp [not_isUpper_of_isSmall (small c member)])
            (stops_flatMap_capitalize later)
            (fun c member => by simp [not_isUpper_of_isSmall (otherSmall c member)])
            (stops_flatMap_capitalize otherLater) tails
          rw [letters, rests, ih later otherLater tails]

/-- Slugs with one export name are one slug. -/
theorem pascalCase_text_injective {slug other : Slug} (same : pascalCase slug.text = pascalCase other.text) :
    slug = other := by
  rw [pascalCase_text, pascalCase_text] at same
  have words := flatMap_capitalize_injective slug.spelled other.spelled same
  cases slug
  cases other
  cases words
  rfl

theorem pascalCase_text_ne_nil (slug : Slug) : pascalCase slug.text ≠ [] := by
  obtain ⟨word, words, split⟩ := List.exists_cons_of_ne_nil slug.words_ne
  cases slug.spelled word (split ▸ List.mem_cons_self ..) with
  | mk letter small => simp [pascalCase_text, split, capitalize_slugWord letter small]

/-- An export name holds ASCII letters and digits only. -/
theorem isAlphanum_of_mem_pascalCase {slug : Slug} {c : Char} (member : c ∈ pascalCase slug.text) :
    c.isAlphanum = true := by
  rw [pascalCase_text, List.mem_flatMap] at member
  obtain ⟨word, present, member⟩ := member
  cases slug.spelled word present with
  | @mk first rest letter small =>
    rw [capitalize_slugWord letter small, List.mem_cons] at member
    rcases member with rfl | member
    · exact isAlphanum_of_isUpper (toUpper_of_isLower letter).1
    · exact isAlphanum_of_isSmall (small c member)

/-! ## Ids -/

/-- The id of a slug's story under a kind. -/
def idOf (kind : List Char) (slug : Slug) : List Char :=
  kind ++ ("--".toList ++ slug.text)

theorem double_hyphen_absent (slug : Slug) : ¬['-', '-'] <:+: slug.text := by
  intro twice
  have empty := List.mem_of_mem_tail (nil_mem_tail_split twice)
  rw [split_text] at empty
  exact (slug.spelled [] empty).ne_nil rfl

/-- Two hyphens stand in a kind and those after it only where it has two itself or ends with one. -/
theorem nowhere_hyphens {kind rest : List Char} (single : ¬['-', '-'] <:+: kind)
    (unended : kind.getLast? ≠ some '-') : Nowhere (['-', '-'] <+: ·) kind (['-', '-'] ++ rest) := by
  rw [nowhere_iff]
  rintro front back rfl nonempty ⟨after, same⟩
  match back with
  | [] => contradiction
  | [c] =>
    obtain ⟨rfl, -⟩ := List.cons.inj same
    exact unended (by simp)
  | c :: d :: back =>
    obtain ⟨rfl, tail⟩ := List.cons.inj same
    obtain ⟨rfl, -⟩ := List.cons.inj tail
    exact single ⟨front, back, by simp⟩

theorem slug?_of_cut {id before rest : List Char} (first : cut? ['-', '-'] id = some (before, rest)) :
    slug? '-' id = some ((cut? ['-', '-'] rest).elim rest Prod.fst) := by
  simp only [slug?, first, Option.bind_eq_bind, Option.bind_some]
  cases cut? ['-', '-'] rest <;> rfl

/-- The text behind a kind is exported under its words, unless it is that of the whole kind's page. -/
theorem exportName?_append {kind text : List Char} (single : ¬['-', '-'] <:+: kind)
    (unended : kind.getLast? ≠ some '-') (whole : ¬['-', '-'] <:+: text) (nonempty : text ≠ [])
    (story : text ≠ docsSlug) : exportName? (kind ++ ("--".toList ++ text)) = some (pascalCase text) := by
  have first : cut? ['-', '-'] (kind ++ ("--".toList ++ text)) = some (kind, text) :=
    (cut?_eq_some_iff (List.cons_ne_nil _ _)).mpr ⟨rfl, nowhere_hyphens single unended⟩
  have slug : slug? '-' (kind ++ ("--".toList ++ text)) = some text := by
    rw [slug?_of_cut first, cut?_eq_none_iff.mpr whole, Option.elim_none]
  rw [exportName?, slug]
  simp [nonempty, story]

theorem text_ne_nil (slug : Slug) : slug.text ≠ [] := by
  intro empty
  apply pascalCase_text_ne_nil slug
  simp [empty, pascalCase, split, capitalize, upper, lower, lowerFrom]

theorem exportName?_idOf {kind : List Char} {slug : Slug} (single : ¬['-', '-'] <:+: kind)
    (unended : kind.getLast? ≠ some '-') (story : slug.text ≠ docsSlug) :
    exportName? (idOf kind slug) = some (pascalCase slug.text) :=
  exportName?_append single unended (double_hyphen_absent slug) (text_ne_nil slug) story

end Story

end StoryCatalog
