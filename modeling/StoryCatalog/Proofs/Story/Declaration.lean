import StoryCatalog.Proofs.Story.ArgsBlock
import StoryCatalog.Proofs.Text.Character

/-!
# The spelling of story declarations

Two readings look for the declaration of a story: the one that shows its code takes no type or a type
of one word, and the one that makes its record takes whatever has no equals sign. Both are
equivalent to a spelling of the text, and the first spelling is a case of the second.
-/

namespace StoryCatalog.Story

open Text Scan Source

/-- What may stand between a story's name and its equals sign for its code to be shown. -/
inductive PlainType : List Char → Prop
  | nothing : PlainType []
  | word {gap type : List Char} (blank : IsGap gap) (nonempty : type ≠ [])
      (word : ∀ c ∈ type, isWord c = true) : PlainType (':' :: (gap ++ type))

/-- An exported constant with no type or a type of one word; `inside` is the text inside its object. -/
inductive PlainDeclaration : List Char → List Char → List Char → Prop
  | mk {first second name typing third fourth inside : List Char}
      (first_ne : first ≠ []) (first_gap : IsGap first) (second_ne : second ≠ []) (second_gap : IsGap second)
      (name_ne : name ≠ []) (name_word : ∀ c ∈ name, isWord c = true) (annotated : PlainType typing)
      (third_gap : IsGap third) (fourth_gap : IsGap fourth) :
      PlainDeclaration name
        ("export".toList ++ (first ++ ("const".toList ++ (second ++ (name ++ (typing ++ (third ++
          '=' :: (fourth ++ '{' :: inside)))))))) inside

/-- An exported constant of this name, whatever its type. -/
inductive Declaration (name : List Char) : List Char → List Char → Prop
  | mk {first second type third inside : List Char}
      (first_ne : first ≠ []) (first_gap : IsGap first) (second_ne : second ≠ []) (second_gap : IsGap second)
      (edge : Stops isWord type) (no_equals : '=' ∉ type) (third_gap : IsGap third) :
      Declaration name
        ("export".toList ++ (first ++ ("const".toList ++ (second ++ (name ++ (type ++
          '=' :: (third ++ '{' :: inside))))))) inside

theorem gap_not_word {gap : List Char} (blank : IsGap gap) : ∀ c ∈ gap, isWord c = false :=
  fun c member => isWord_eq_false_of_isBlank (blank c member)

theorem word_not_blank {word : List Char} (all : ∀ c ∈ word, isWord c = true) :
    ∀ c ∈ word, isBlank c = false :=
  fun c member => isBlank_eq_false_of_isWord (all c member)

theorem PlainType.not_mem_equals {typing : List Char} (annotated : PlainType typing) :
    '=' ∉ typing := by
  cases annotated with
  | nothing => exact List.not_mem_nil
  | word blank nonempty word =>
    simp only [List.mem_cons, List.mem_append, Char.reduceEq, false_or, not_or]
    exact ⟨not_mem_of_forall blank (by decide), not_mem_of_forall word (by decide)⟩

/-- After a name comes no further character of it. -/
theorem PlainType.stops {typing gap rest : List Char} (annotated : PlainType typing)
    (blank : IsGap gap) (stops : Stops isWord rest) : Stops isWord (typing ++ (gap ++ rest)) := by
  cases annotated with
  | nothing =>
    rw [List.nil_append]
    exact stops_append (gap_not_word blank) stops
  | word => exact (stops_cons ..).mpr (by decide)

/-- Where the code of a story is shown, its record finds the declaration too. -/
theorem PlainDeclaration.declaration {name text inside : List Char}
    (plain : PlainDeclaration name text inside) : Declaration name text inside := by
  cases plain with
  | @mk first second _ typing third fourth _ first_ne first_gap second_ne second_gap name_ne name_word
      annotated third_gap fourth_gap =>
    have edge : Stops isWord (typing ++ third) := by
      simpa using annotated.stops third_gap (stops_nil isWord)
    have no_equals : '=' ∉ typing ++ third := by
      rw [List.mem_append, not_or]
      exact ⟨annotated.not_mem_equals, not_mem_of_forall third_gap (by decide)⟩
    rw [← List.append_assoc typing third]
    exact .mk first_ne first_gap second_ne second_gap edge no_equals fourth_gap

theorem PlainDeclaration.name_word {name text inside : List Char}
    (plain : PlainDeclaration name text inside) :
    name ≠ [] ∧ ∀ c ∈ name, isWord c = true := by
  cases plain with
  | mk _ _ _ _ name_ne name_word => exact ⟨name_ne, name_word⟩

/-- A text declares one name, and its object starts in one place. -/
theorem Declaration.unique {name other text inside otherInside : List Char}
    (declared : Declaration name text inside) (again : Declaration other text otherInside)
    (name_ne : name ≠ []) (name_word : ∀ c ∈ name, isWord c = true)
    (other_ne : other ≠ []) (other_word : ∀ c ∈ other, isWord c = true) :
    name = other ∧ inside = otherInside := by
  cases declared with
  | @mk first second type third _ _ first_gap _ second_gap edge no_equals third_gap =>
    generalize same : "export".toList ++ _ = text at again
    cases again with
    | @mk otherFirst otherSecond otherType otherThird _ _ otherFirst_gap _ otherSecond_gap otherEdge
        otherNo_equals otherThird_gap =>
      have keyword (rest : List Char) : Stops isBlank ("const".toList ++ rest) :=
        (stops_cons ..).mpr (by decide)
      have equals (type rest : List Char) (edge : Stops isWord type) :
          Stops isWord (type ++ '=' :: rest) := by
        cases type with
        | nil => exact (stops_cons ..).mpr (by decide)
        | cons c type => simpa using edge
      have brace (rest : List Char) : Stops isBlank ('{' :: rest) := (stops_cons ..).mpr (by decide)
      -- Both spellings are taken off the text part by part; each part ends where nothing can prolong it.
      obtain ⟨-, same⟩ := append_inj_of_stops first_gap (keyword _) otherFirst_gap (keyword _)
        (List.append_cancel_left same)
      obtain ⟨-, same⟩ := append_inj_of_stops second_gap
        (stops_append_of_ne_nil name_ne (word_not_blank name_word) _) otherSecond_gap
        (stops_append_of_ne_nil other_ne (word_not_blank other_word) _) (List.append_cancel_left same)
      obtain ⟨names, same⟩ :=
        append_inj_of_stops name_word (equals _ _ edge) other_word (equals _ _ otherEdge) same
      refine ⟨names, ?_⟩
      obtain ⟨-, sides⟩ := append_cons_inj no_equals otherNo_equals same
      obtain ⟨-, insides⟩ := append_inj_of_stops third_gap (brace _) otherThird_gap (brace _) sides
      exact (List.cons.inj insides).2

/-- What stands before the object's inside holds none of its punctuation, and may stand before any other. -/
theorem PlainDeclaration.exists_head {name text inside : List Char} (plain : PlainDeclaration name text inside) :
    ∃ head, head ≠ [] ∧ text = head ++ inside ∧ '}' ∉ head ∧
      ∀ other, PlainDeclaration name (head ++ other) other := by
  cases plain with
  | @mk first second _ typing third fourth _ first_ne first_gap second_ne second_gap name_ne name_word
      annotated third_gap fourth_gap =>
    have gap_open {gap : List Char} (blank : IsGap gap) : '}' ∉ gap := not_mem_of_forall blank (by decide)
    have typing_open : '}' ∉ typing := by
      cases annotated with
      | nothing => exact List.not_mem_nil
      | word blank nonempty word =>
        simp only [List.mem_cons, List.mem_append, Char.reduceEq, false_or, not_or]
        exact ⟨gap_open blank, not_mem_of_forall word (by decide)⟩
    have name_open : '}' ∉ name := not_mem_of_forall name_word (by decide)
    refine ⟨"export".toList ++ (first ++ ("const".toList ++ (second ++ (name ++ (typing ++ (third ++
      '=' :: (fourth ++ ['{']))))))), by simp, by simp, ?_, fun other => ?_⟩
    · simp [gap_open first_gap, gap_open second_gap, name_open, typing_open, gap_open third_gap,
        gap_open fourth_gap]
    · have spelled : PlainDeclaration name ("export".toList ++ (first ++ ("const".toList ++ (second ++ (name ++
          (typing ++ (third ++ '=' :: (fourth ++ '{' :: other)))))))) other :=
        .mk first_ne first_gap second_ne second_gap name_ne name_word annotated third_gap fourth_gap
      simpa using spelled

/-- The spelling with one space at each gap and no type. -/
theorem plainDeclaration_canonical {name : List Char} (name_ne : name ≠ [])
    (name_word : ∀ c ∈ name, isWord c = true) (inside : List Char) :
    PlainDeclaration name ("export const ".toList ++ name ++ " = ".toList ++ '{' :: inside) inside := by
  have blank : IsGap [' '] := by simp; decide
  have spelled : PlainDeclaration name ("export".toList ++ ([' '] ++ ("const".toList ++ ([' '] ++ (name ++
      ([] ++ ([' '] ++ '=' :: ([' '] ++ '{' :: inside)))))))) inside :=
    .mk (List.cons_ne_nil ' ' []) blank (List.cons_ne_nil ' ' []) blank name_ne name_word .nothing blank blank
  simpa using spelled

/-! ## The declaration whose code is shown -/

/-- The type is left out where no colon stands before the equals sign. -/
private theorem type_eq_none {gap rest : List Char} (blank : IsGap gap) :
    (do char ':'; blanks; identifier : Scan (List Char)) (gap ++ '=' :: rest) = none := by
  rw [Option.eq_none_iff_forall_ne_some]
  rintro ⟨type, left⟩ read
  obtain ⟨_, _, atColon, _⟩ := bind_eq_some_iff.mp read
  rw [char_eq_some_iff] at atColon
  cases gap with
  | nil => exact absurd (List.cons.inj atColon).1 (by decide)
  | cons c gap =>
    have blankColon : isBlank ':' = true := (List.cons.inj atColon).1 ▸ blank c (List.mem_cons_self ..)
    exact absurd blankColon (by decide)

theorem PlainType.read {typing gap : List Char} (annotated : PlainType typing)
    (gap_blank : IsGap gap) (rest : List Char) :
    ∃ type, maybe (do char ':'; blanks; identifier) (typing ++ (gap ++ '=' :: rest)) =
      some (type, gap ++ '=' :: rest) := by
  cases annotated with
  | nothing => exact ⟨none, maybe_eq_some_iff.mpr (.inr ⟨rfl, rfl, type_eq_none gap_blank⟩)⟩
  | @word space type blank type_ne type_word =>
    refine ⟨some type, maybe_eq_some_iff.mpr (.inl ⟨type, rfl, ?_⟩)⟩
    simp only [bind_eq_some_iff, char_eq_some_iff, blanks_eq_some_iff, identifier_eq_some_iff]
    have typed := stops_append_of_ne_nil type_ne (word_not_blank type_word) (gap ++ '=' :: rest)
    have ended : Stops isWord (gap ++ '=' :: rest) :=
      stops_append (gap_not_word gap_blank) ((stops_cons ..).mpr (by decide))
    refine ⟨(), _, ?_, (), _, ⟨space, rfl, blank, typed⟩, type_ne, rfl, type_word, ended⟩
    rw [List.cons_append, List.append_assoc]

theorem storyHead_eq_some_iff {text name inside : List Char} :
    storyHead text = some (name, inside) ↔ PlainDeclaration name text inside := by
  simp only [storyHead, bind_eq_some_iff, literal_eq_some_iff, blanks1_eq_some_iff, identifier_eq_some_iff,
    blanks_eq_some_iff, char_eq_some_iff, openBrace_eq_some_iff, pure_eq_some_iff]
  constructor
  · rintro ⟨-, _, rfl, -, _, ⟨first, first_ne, rfl, first_gap, -⟩, -, _, rfl, -, _,
      ⟨second, second_ne, rfl, second_gap, -⟩, _, _, ⟨name_ne, rfl, name_word, -⟩, _, afterType, typed, -, _,
      ⟨third, rfl, third_gap, -⟩, -, _, rfl, -, _, ⟨fourth, rfl, fourth_gap, -⟩, -, _, rfl, rfl, rfl⟩
    simp only [maybe_eq_some_iff, bind_eq_some_iff, char_eq_some_iff, blanks_eq_some_iff,
      identifier_eq_some_iff] at typed
    obtain ⟨type, -, -, _, rfl, -, _, ⟨gap, rfl, blank, -⟩, type_ne, rfl, type_word, -⟩ |
      ⟨-, rfl, -⟩ := typed
    · have annotated := PlainType.word blank type_ne type_word
      simpa using PlainDeclaration.mk first_ne first_gap second_ne second_gap name_ne name_word annotated
        third_gap fourth_gap
    · simpa using PlainDeclaration.mk first_ne first_gap second_ne second_gap name_ne name_word
        .nothing third_gap fourth_gap
  · intro plain
    cases plain with
    | @mk first second _ typing third fourth _ first_ne first_gap second_ne second_gap name_ne name_word
        annotated third_gap fourth_gap =>
      have equals : Stops isWord ('=' :: (fourth ++ '{' :: inside)) := (stops_cons ..).mpr (by decide)
      have named := stops_append_of_ne_nil name_ne (word_not_blank name_word)
        (typing ++ (third ++ '=' :: (fourth ++ '{' :: inside)))
      obtain ⟨type, typed⟩ := annotated.read third_gap (fourth ++ '{' :: inside)
      have brace : Stops isBlank ('{' :: inside) := (stops_cons ..).mpr (by decide)
      refine ⟨(), _, rfl, (), _, ⟨first, first_ne, rfl, first_gap, (stops_cons ..).mpr (by decide)⟩,
        (), _, rfl, ?_⟩
      refine ⟨(), _, ⟨second, second_ne, rfl, second_gap, named⟩, name, _,
        ⟨name_ne, rfl, name_word, annotated.stops third_gap equals⟩, type, _, typed, ?_⟩
      refine ⟨(), _, ⟨third, rfl, third_gap, (stops_cons ..).mpr (by decide)⟩, (), _, rfl, ?_⟩
      exact ⟨(), _, ⟨fourth, rfl, fourth_gap, brace⟩, (), _, rfl, rfl, rfl⟩

/-- The body of a shown story ends at the first closing brace with a semicolon. -/
theorem storyBlock_eq_some_iff {text name body rest : List Char} :
    storyBlock text = some ((name, body), rest) ↔
      PlainDeclaration name text (body ++ "\x7d;".toList ++ rest) ∧
        Nowhere (literal "\x7d;").Reads body ("\x7d;".toList ++ rest) := by
  simp only [storyBlock, bind_eq_some_iff, storyHead_eq_some_iff, upTo_eq_some_iff, literal_eq_some_iff,
    Prod.exists, pure_eq_some_iff, Prod.mk.injEq]
  constructor
  · rintro ⟨_, _, plain, _, _, _, ⟨_, rfl, rfl, nowhere⟩, ⟨rfl, rfl⟩, rfl⟩
    exact ⟨by rwa [List.append_assoc], nowhere⟩
  · rintro ⟨plain, nowhere⟩
    exact ⟨name, _, plain, body, (), rest, ⟨_, List.append_assoc .., rfl, nowhere⟩, ⟨rfl, rfl⟩, rfl⟩

theorem storyBlock_eq_none_of_ne {c : Char} (other : c ≠ 'e') (text : List Char) :
    storyBlock (c :: text) = none := by
  rw [Option.eq_none_iff_forall_ne_some]
  rintro ⟨⟨name, body⟩, rest⟩ read
  have declared := (storyBlock_eq_some_iff.mp read).1
  generalize split : c :: text = whole at declared
  cases declared with
  | mk => exact other (List.cons.inj split).1

/-! ## The declaration whose args are recorded -/

theorem atWordEdge_iff {before : Char} {text : List Char} (word : isWord before = true) :
    atWordEdge before text = true ↔ Stops isWord text := by
  cases text with
  | nil => simp [atWordEdge, word]
  | cons c text => cases first : isWord c <;> simp [atWordEdge, word, first]

/-- A name that is a word is looked for after all the blanks, since it starts with none. -/
theorem argsOfName_eq {name : List Char} (name_ne : name ≠ []) (name_word : ∀ c ∈ name, isWord c = true)
    (before : Char) (text : List Char) :
    argsOfName name before text =
      (dropWord? name (text.dropWhile isBlank)).bind (argsAfterName (name.getLast name_ne)) := by
  have last (other : Char) : (name.getLast?).getD other = name.getLast name_ne := by
    rw [List.getLast?_eq_some_getLast name_ne, Option.getD_some]
  induction text generalizing before with
  | nil => simp only [argsOfName, last, List.dropWhile_nil]
  | cons c text ih =>
    cases blank : isBlank c with
    | false => simp only [argsOfName, last, blank, Bool.false_eq_true, ↓reduceIte, List.dropWhile_cons]
    | true =>
      have unread : dropWord? name (c :: text) = none := by
        cases name with
        | nil => contradiction
        | cons d name =>
          have other : d ≠ c := by
            rintro rfl
            rw [isBlank_eq_false_of_isWord (name_word d (List.mem_cons_self ..))] at blank
            contradiction
          rw [dropWord?, if_neg other]
      simp only [argsOfName, blank, ↓reduceIte, unread, Option.bind_none, ih, List.dropWhile_cons]
      cases (dropWord? name (text.dropWhile isBlank)).bind (argsAfterName (name.getLast name_ne)) <;> rfl

theorem argsAfterName_eq_some_iff {before : Char} {text : List Char} {out : List Char × List Char}
    (word : isWord before = true) :
    argsAfterName before text = some out ↔
      ∃ type third inside, Stops isWord type ∧ '=' ∉ type ∧ IsGap third ∧
        text = type ++ '=' :: (third ++ '{' :: inside) ∧ innerArgs inside = some out := by
  have edge {type rest : List Char} : Stops isWord (type ++ '=' :: rest) ↔ Stops isWord type := by
    cases type with
    | nil => simp [show isWord '=' = false by decide]
    | cons c type => simp
  simp only [argsAfterName, Option.ite_none_right_eq_some, atWordEdge_iff word, bind_eq_some_iff,
    run_eq_some_iff, char_eq_some_iff, blanks_eq_some_iff, openBrace_eq_some_iff, decide_not,
    Bool.not_eq_eq_eq_not, Bool.not_true, decide_eq_false_iff_not]
  constructor
  · rintro ⟨stops, type, _, ⟨rfl, no_equals, -⟩, -, _, rfl, -, _, ⟨third, rfl, third_gap, -⟩, -,
      inside, rfl, read⟩
    exact ⟨type, third, inside, edge.mp stops, fun member => no_equals _ member rfl, third_gap, rfl, read⟩
  · rintro ⟨type, third, inside, stops, no_equals, third_gap, rfl, read⟩
    refine ⟨edge.mpr stops, type, _, ⟨rfl, ?_, by simp⟩, (), _, rfl, (), _,
      ⟨third, rfl, third_gap, (stops_cons ..).mpr (by decide)⟩, (), inside, rfl, read⟩
    intro c member same
    exact no_equals (same ▸ member)

/-- A record's args are read from the declaration of its name. -/
theorem namedArgs_eq_some_iff {name text block rest : List Char} (name_ne : name ≠ [])
    (name_word : ∀ c ∈ name, isWord c = true) :
    namedArgs name text = some (block, rest) ↔
      ∃ inside, Declaration name text inside ∧ innerArgs inside = some (block, rest) := by
  have last_word := name_word (name.getLast name_ne) (List.getLast_mem name_ne)
  simp only [namedArgs, bind_eq_some_iff, literal_eq_some_iff, blanks1_eq_some_iff, one_eq_some_iff,
    argsOfName_eq name_ne name_word, Option.bind_eq_some_iff, dropWord?_eq_some_iff,
    argsAfterName_eq_some_iff last_word]
  constructor
  · rintro ⟨-, _, rfl, -, _, ⟨first, first_ne, rfl, first_gap, -⟩, -, _, rfl, c, text, ⟨blank, rfl⟩, _,
      skipped, type, third, inside, edge, no_equals, third_gap, rfl, read⟩
    refine ⟨inside, ?_, read⟩
    have second_gap : IsGap (c :: text.takeWhile isBlank) :=
      (isGap_cons ..).mpr ⟨blank, fun d member => List.mem_takeWhile_imp member⟩
    have found : Declaration name _ inside :=
      .mk first_ne first_gap (List.cons_ne_nil c _) second_gap edge no_equals third_gap
    rwa [← skipped, List.cons_append, List.takeWhile_append_dropWhile] at found
  · rintro ⟨inside, found, read⟩
    cases found with
    | @mk first second type third _ first_ne first_gap second_ne second_gap edge no_equals third_gap =>
      cases second with
      | nil => contradiction
      | cons c second =>
        obtain ⟨blank, second_gap⟩ := (isGap_cons ..).mp second_gap
        have named := stops_append_of_ne_nil name_ne (word_not_blank name_word)
          (type ++ '=' :: (third ++ '{' :: inside))
        refine ⟨(), _, rfl, (), _, ⟨first, first_ne, rfl, first_gap, (stops_cons ..).mpr (by decide)⟩, ?_⟩
        refine ⟨(), _, rfl, c, _, ⟨blank, rfl⟩, _, ?_, type, third, inside, edge, no_equals, third_gap, rfl,
          read⟩
        change (second ++ _).dropWhile isBlank = _
        rw [List.dropWhile_append_of_pos second_gap, stops_iff_dropWhile.mp named]

end StoryCatalog.Story
