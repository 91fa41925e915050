import StoryCatalog.Proofs.Story.OpeningTag
import StoryCatalog.Proofs.Text.Split
import StoryCatalog.Story.Args
import StoryCatalog.Story.Usage

/-!
# Reading a snippet back

Raw values are pieces of source text that were cut at commas, and one that starts with a quote stands in the
snippet's tag as it is, whether or not it is closed by the same quote. The attributes that are read back from the
tag are those that were meant exactly where every value fits between its quotes.
-/

namespace StoryCatalog.Story

open Text Source Scan

/-! ## One arg -/

/-- A key that is a word. -/
def IsKey (key : String) : Prop :=
  key ≠ "" ∧ ∀ c ∈ key.toList, isWord c = true

instance : DecidablePred IsKey := fun key =>
  decidable_of_iff (key ≠ "" ∧ key.toList.all isWord = true) (and_congr_right' List.all_eq_true)

theorem IsKey.chars_ne {key : String} (word : IsKey key) : key.toList ≠ [] := by
  simpa using word.1

/-- What a raw value stands for in its attribute: what is between its quotes, where it has them. -/
def shownText : List Char → Enclosed
  | [] => .quoted '"' []
  | c :: rest => if isQuote c then .quoted c rest.dropLast else .quoted '"' (c :: rest)

/-- The attribute that is meant for an arg. -/
def shown (brackets : Bool) (arg : String × String) : Binding :=
  if arg.2 = "true" ∨ arg.2 = "false" then
    ⟨brackets, arg.1.toList, if brackets then .quoted '"' arg.2.toList else .braced arg.2.toList⟩
  else ⟨false, arg.1.toList, shownText arg.2.toList⟩

/-- A raw value that starts with a quote ends with the same one, which does not stand in between. Any other
holds no double quote. -/
def Fits : List Char → Prop
  | [] => True
  | c :: rest => if isQuote c then c ∉ rest.dropLast ∧ rest.getLast? = some c else '"' ∉ c :: rest

instance : DecidablePred Fits
  | [] => inferInstanceAs (Decidable True)
  | c :: rest => inferInstanceAs
      (Decidable (if isQuote c then c ∉ rest.dropLast ∧ rest.getLast? = some c else '"' ∉ c :: rest))

/-- A raw value as its attribute writes it. -/
def writtenText : List Char → List Char
  | [] => ['"', '"']
  | c :: rest => if isQuote c then c :: rest else '"' :: (c :: rest ++ ['"'])

/-- What is written is what was meant exactly where it fits: then the rest is told apart as well. -/
theorem writtenText_append_iff {value tail more : List Char} (stops : Stops isQuote tail) :
    writtenText value ++ tail = (shownText value).source ++ more ∧ (shownText value).Closed ↔
      Fits value ∧ tail = more := by
  have mark : isQuote '"' = true := by decide
  cases value with
  | nil => simp [writtenText, shownText, Enclosed.source, Enclosed.Closed, Fits, mark]
  | cons c rest =>
    simp only [writtenText, shownText, Fits]
    split_ifs with quote
    · rcases List.eq_nil_or_concat rest with rfl | ⟨inner, d, rfl⟩
      · -- A value that is a single quote would be closed by what stands behind it.
        have unclosed : tail ≠ c :: more := by
          rintro rfl
          rw [stops_cons, quote] at stops
          contradiction
        simp [Enclosed.source, unclosed]
      · simp only [Enclosed.source, Enclosed.Closed, quote, true_and, List.concat_eq_append, List.dropLast_concat,
          List.cons_append, List.append_assoc, List.nil_append, List.cons.injEq, List.append_cancel_left_eq,
          List.getLast?_concat, Option.some.injEq]
        tauto
    · simp [Enclosed.source, Enclosed.Closed, mark, and_comm]

/-- The text of an arg's attribute: the word for a truth value is bound as an expression, and every other raw value
is a text. -/
def writtenArg (brackets : Bool) (arg : String × String) : List Char :=
  if arg.2 = "true" ∨ arg.2 = "false" then (boundAttribute brackets arg.1 arg.2).toList
  else arg.1.toList ++ '=' :: writtenText arg.2.toList

theorem toList_boundAttribute (brackets : Bool) (key value : String) :
    (boundAttribute brackets key value).toList =
      (Binding.mk brackets key.toList
        (if brackets then .quoted '"' value.toList else .braced value.toList)).source := by
  cases brackets <;> simp [boundAttribute, Binding.source, Binding.nameText, Enclosed.source]

theorem textAttribute_whole (key value : String) :
    textAttribute key value = String.ofList (key.toList ++ '=' :: writtenText value.toList) := by
  unfold textAttribute startsWithQuote
  rw [WideText.units_whole]
  cases spelled : value.toList with
  | nil =>
    obtain rfl := String.toList_eq_nil_iff.mp spelled
    simp [writtenText, ← String.toList_inj]
  | cons c rest =>
    change (if isQuote c = true then _ else _ : WideText) = _
    cases quote : isQuote c <;> simp [writtenText, quote, ← String.toList_inj, spelled]

theorem argAttribute_text (brackets : Bool) (key value : String) :
    argAttribute brackets key (.text value) = String.ofList (writtenArg brackets (key, value)) := by
  unfold writtenArg
  split_ifs with truth
  · rcases truth with rfl | rfl <;> simp [argAttribute]
  · rw [not_or] at truth
    rw [← textAttribute_whole]
    unfold argAttribute
    split <;> simp_all

theorem writtenArg_append_iff {brackets : Bool} {arg : String × String} {tail more : List Char} (word : IsKey arg.1)
    (stops : Stops isQuote tail) :
    writtenArg brackets arg ++ tail = (shown brackets arg).source ++ more ∧ (shown brackets arg).WellFormed ↔
      Fits arg.2.toList ∧ tail = more := by
  obtain ⟨key, value⟩ := arg
  have formed (bracketed : Bool) (enclosed : Enclosed) :
      (Binding.mk bracketed key.toList enclosed).WellFormed ↔ enclosed.Closed :=
    ⟨Binding.WellFormed.closed, fun closed => ⟨word.chars_ne, word.2, closed⟩⟩
  by_cases truth : value = "true" ∨ value = "false"
  · have closed : (if brackets then Enclosed.quoted '"' value.toList else .braced value.toList).Closed := by
      rcases truth with rfl | rfl <;> cases brackets <;> decide
    have fits : Fits value.toList := by
      rcases truth with rfl | rfl <;> decide
    simp only [writtenArg, shown, if_pos truth, toList_boundAttribute, formed, closed, fits, and_true, true_and,
      List.append_cancel_left_eq]
  · simp only [writtenArg, shown, if_neg truth, formed, ← writtenText_append_iff stops, Binding.source,
      Binding.nameText]
    simp

theorem stops_writtenArg_append {arg : String × String} (word : IsKey arg.1) (brackets : Bool) (more : List Char) :
    Stops isBlank (writtenArg brackets arg ++ more) := by
  rw [writtenArg]
  split_ifs
  · rw [toList_boundAttribute, Binding.source, List.append_assoc]
    exact stops_nameText_append word.chars_ne word.2 _ _
  · rw [List.append_assoc]
    exact stops_nameText_append word.chars_ne word.2 false _

/-! ## The tag -/

/-- Args that are written one behind the other, each behind a separator. -/
def writtenArgs (brackets : Bool) (args : List (String × String)) : List Char :=
  args.flatMap fun arg => attributeSeparator.toList ++ writtenArg brackets arg

theorem spells_writtenArgs_iff {brackets : Bool} {args : List (String × String)}
    (words : ∀ arg ∈ args, IsKey arg.1) (rest : List Char) :
    Spells rest (args.map (shown brackets)) (writtenArgs brackets args ++ '>' :: rest) ↔
      ∀ arg ∈ args, Fits arg.2.toList := by
  have separates : IsGap attributeSeparator.toList := List.all_eq_true.mp rfl
  induction args with
  | nil => exact iff_of_true (.closing isGap_nil) (by simp)
  | cons arg args ih =>
    rw [List.forall_mem_cons] at words ⊢
    obtain ⟨word, words⟩ := words
    have written : writtenArgs brackets (arg :: args) ++ '>' :: rest =
        attributeSeparator.toList ++ (writtenArg brackets arg ++ (writtenArgs brackets args ++ '>' :: rest)) := by
      simp [writtenArgs]
    have stops : Stops isQuote (writtenArgs brackets args ++ '>' :: rest) := by
      cases args with
      | nil => exact (stops_cons ..).mpr (by decide)
      | cons => exact (stops_cons ..).mpr (by decide)
    rw [List.map_cons, spells_cons_iff, written]
    constructor
    · rintro ⟨gap, more, -, blank, formed, same, behind⟩
      obtain ⟨-, same⟩ := append_inj_of_stops separates (stops_writtenArg_append word brackets _) blank
        (formed.stops more) same
      obtain ⟨fits, rfl⟩ := (writtenArg_append_iff word stops).mp ⟨same, formed⟩
      exact ⟨fits, (ih words).mp behind⟩
    · rintro ⟨fits, others⟩
      obtain ⟨same, formed⟩ := (writtenArg_append_iff word stops).mpr ⟨fits, rfl⟩
      exact ⟨attributeSeparator.toList, _, by decide, separates, formed, by rw [same], (ih words).mpr others⟩

/-- What stands between the selector and the end of an opening tag: without args there is a separator too. -/
def tagText (brackets : Bool) (args : List (String × String)) : List Char :=
  attributeSeparator.toList ++ join attributeSeparator.toList (args.map (writtenArg brackets))

theorem spells_tagText_iff (brackets : Bool) {args : List (String × String)}
    (words : ∀ arg ∈ args, IsKey arg.1) (rest : List Char) :
    Spells rest (args.map (shown brackets)) (tagText brackets args ++ '>' :: rest) ↔
      ∀ arg ∈ args, Fits arg.2.toList := by
  cases args with
  | nil => exact iff_of_true (.closing (List.all_eq_true.mp rfl)) (by simp)
  | cons arg args =>
    have same : tagText brackets (arg :: args) = writtenArgs brackets (arg :: args) := by
      rw [tagText, List.map_cons, join_cons]
      simp [writtenArgs, List.flatMap_map]
    rw [same, spells_writtenArgs_iff words rest]

/-- What stands behind the end of an opening tag. -/
def closingText (selector : String) : List Char :=
  ("\n</" ++ selector ++ ">").toList

theorem usage?_text {selector : String} (given : selector ≠ "") (args : Fields String) (name : String)
    (framework : WideText) :
    usage? (some selector) (args.map .text) name framework =
      some (.whole ("<!-- " ++ name ++ " Example -->\n<" ++ selector ++
        String.ofList (tagText (bindsInBrackets framework) args.entries ++ '>' :: closingText selector))) := by
  have attributes : (args.entries.map fun arg =>
      WideText.whole (String.ofList (writtenArg (bindsInBrackets framework) arg))) =
      (args.entries.map fun arg => String.ofList (writtenArg (bindsInBrackets framework) arg)).map .whole := by
    rw [List.map_map]
    rfl
  have texts : (attributeSeparator.intercalate
      (args.entries.map fun arg => String.ofList (writtenArg (bindsInBrackets framework) arg))).toList =
      join attributeSeparator.toList (args.entries.map (writtenArg (bindsInBrackets framework))) := by
    rw [String.toList_intercalate, join_eq_intercalate, List.map_map]
    simp [Function.comp_def]
  unfold usage?
  split
  · next absent => exact absurd absent (Option.some_ne_none _)
  · next empty => exact absurd (Option.some.inj empty) given
  · next same =>
    obtain rfl := Option.some.inj same
    simp only [Fields.map, List.map_map, Function.comp_def, argAttribute_text]
    rw [attributes, WideText.intercalate_whole, element]
    simp only [WideText.whole_append_whole, Option.some.injEq, WideText.whole.injEq, ← String.toList_inj]
    simp [texts, tagText, closingText]

/-- The attributes that are meant for args. -/
def meant (framework : WideText) (args : Fields String) : List Binding :=
  args.entries.map (shown (bindsInBrackets framework))

theorem keys_meant (framework : WideText) (args : Fields String) :
    (meant framework args).map Binding.key = args.keys.map String.toList := by
  have key (brackets : Bool) (arg : String × String) : (shown brackets arg).key = arg.1.toList := by
    unfold shown
    split_ifs <;> rfl
  rw [meant, List.map_map, Fields.keys, List.map_map]
  exact List.map_congr_left fun arg _ => key _ arg

/-- No framework but one has brackets around a key. -/
theorem bracketed_meant {framework : WideText} {args : Fields String} :
    ∀ found ∈ meant framework args, found.bracketed = true → framework = "angular" := by
  intro found member bracketed
  obtain ⟨arg, -, rfl⟩ := List.mem_map.mp member
  unfold shown at bracketed
  split_ifs at bracketed
  · exact of_decide_eq_true bracketed
  · contradiction

/-- The tag of a story's snippet spells the attribute that is meant for each of its args, and they are read back,
with the keys in order, up to the end of the tag, exactly where every raw value fits. -/
theorem usage_reads_back_iff {body : List Char} {selector : String} (given : selector ≠ "")
    (words : ∀ key ∈ (rawArgs body).keys, IsKey key) (name : String) (framework : WideText) :
    ∃ tag, usage? (some selector) ((rawArgs body).map .text) name framework =
        some (.whole ("<!-- " ++ name ++ " Example -->\n<" ++ selector ++ String.ofList tag)) ∧
      (meant framework (rawArgs body)).map Binding.key = (rawArgs body).keys.map String.toList ∧
      (∀ found ∈ meant framework (rawArgs body), found.bracketed = true → framework = "angular") ∧
      (Spells (closingText selector) (meant framework (rawArgs body)) tag ↔
        ∀ value ∈ (rawArgs body).values, Fits value.toList) ∧
      (openingTag tag = some (meant framework (rawArgs body), closingText selector) ↔
        ∀ value ∈ (rawArgs body).values, Fits value.toList) := by
  have argWords : ∀ arg ∈ (rawArgs body).entries, IsKey arg.1 :=
    fun arg member => words arg.1 (List.mem_map_of_mem member)
  have spelled := spells_tagText_iff (bindsInBrackets framework) argWords (closingText selector)
  refine ⟨_, usage?_text given _ name framework, keys_meant framework _, bracketed_meant, ?_⟩
  rw [openingTag_eq_some_iff, and_self, meant, spelled, Fields.values, List.forall_mem_map]

/-- Texts in quotes of both kinds, a text without, and a word for a truth value. -/
def fittingArgs : String := "label: 'Go', title: \"Go's\", size: large, primary: true"

theorem usage_of_fittingArgs :
    "app-button" ≠ "" ∧
      (∀ key ∈ (rawArgs fittingArgs.toList).keys, IsKey key) ∧
      ∃ tag, usage? (some "app-button") ((rawArgs fittingArgs.toList).map .text) "Primary" "angular" =
          some (.whole ("<!-- " ++ "Primary" ++ " Example -->\n<" ++ "app-button" ++ String.ofList tag)) ∧
        openingTag tag = some ([⟨false, "label".toList, .quoted '\x27' "Go".toList⟩,
          ⟨false, "title".toList, .quoted '"' "Go's".toList⟩, ⟨false, "size".toList, .quoted '"' "large".toList⟩,
          ⟨true, "primary".toList, .quoted '"' "true".toList⟩], "\n</app-button>".toList) := by
  have args : rawArgs fittingArgs.toList =
      ⟨[("label", "'Go'"), ("title", "\"Go's\""), ("size", "large"), ("primary", "true")]⟩ := by decide +kernel
  have words : ∀ key ∈ (rawArgs fittingArgs.toList).keys, IsKey key := by
    rw [args]
    decide
  have fits : ∀ value ∈ (rawArgs fittingArgs.toList).values, Fits value.toList := by
    rw [args]
    decide
  have given : "app-button" ≠ "" := by decide
  obtain ⟨tag, made, -, -, -, reads⟩ := usage_reads_back_iff given words "Primary" "angular"
  have read := reads.mpr fits
  rw [args] at read
  exact ⟨given, words, tag, made, read⟩

/-- A text with a comma is cut inside its quotes, and the tag that it leaves cannot be read. -/
theorem usage_of_cut_text :
    (rawArgs "label: 'Hello, world'".toList).keys = ["label"] ∧
      usage? (some "app-button") ((rawArgs "label: 'Hello, world'".toList).map .text) "Primary" "angular" =
        some (.whole "<!-- Primary Example -->\n<app-button\n    label='Hello>\n</app-button>") ∧
      ¬∃ attributes rest, Spells rest attributes "\n    label='Hello>\n</app-button>".toList := by
  refine ⟨by decide +kernel, by decide +kernel, ?_⟩
  rintro ⟨attributes, rest, spelled⟩
  have unread : openingTag "\n    label='Hello>\n</app-button>".toList = none := by decide +kernel
  rw [openingTag_eq_some_iff.mpr spelled] at unread
  contradiction

end StoryCatalog.Story
