import StoryCatalog.Proofs.Fields
import StoryCatalog.Proofs.Source.Token
import StoryCatalog.Proofs.Text.Split
import StoryCatalog.Proofs.Text.Trim
import StoryCatalog.Story.Args

/-!
# Lists of args as they are written

Splitting gives pairs of a trimmed key without commas and colons and a trimmed value without commas, and
nothing else can be asked of a pair: every list of such pairs is given back by each text in which it is
written, whatever blanks stand around keys, values and commas. A comma divides, so the args behind it are
written over those before it as one mapping over another.
-/

namespace StoryCatalog.Story

open Text Source

/-- A pair that a piece of a list of args can stand for. -/
structure IsArg (pair : String × String) : Prop where
  key_ne : pair.1 ≠ ""
  key_trimmed : trim pair.1.toList = pair.1.toList
  key_no_comma : ',' ∉ pair.1.toList
  key_no_colon : ':' ∉ pair.1.toList
  value_trimmed : trim pair.2.toList = pair.2.toList
  value_no_comma : ',' ∉ pair.2.toList

instance (pair : String × String) : Decidable (IsArg pair) :=
  decidable_of_iff (pair.1 ≠ "" ∧ trim pair.1.toList = pair.1.toList ∧ ',' ∉ pair.1.toList ∧ ':' ∉ pair.1.toList ∧
      trim pair.2.toList = pair.2.toList ∧ ',' ∉ pair.2.toList)
    ⟨fun ⟨key_ne, key_trimmed, key_no_comma, key_no_colon, value_trimmed, value_no_comma⟩ =>
        ⟨key_ne, key_trimmed, key_no_comma, key_no_colon, value_trimmed, value_no_comma⟩,
      fun ⟨key_ne, key_trimmed, key_no_comma, key_no_colon, value_trimmed, value_no_comma⟩ =>
        ⟨key_ne, key_trimmed, key_no_comma, key_no_colon, value_trimmed, value_no_comma⟩⟩

/-- A key and a value with a colon between them, and blanks around both. -/
inductive WritesArg (pair : String × String) : List Char → Prop where
  | spaced {beforeKey afterKey beforeValue afterValue : List Char} :
    IsGap beforeKey → IsGap afterKey → IsGap beforeValue → IsGap afterValue →
    WritesArg pair (beforeKey ++ pair.1.toList ++ afterKey ++ ':' :: (beforeValue ++ pair.2.toList ++ afterValue))

/-- Pairs one after the other, with a comma between each two. There may be a comma behind the last one, and
blanks between commas. -/
inductive WritesArgs : List (String × String) → List Char → Prop where
  | blank {gap : List Char} : IsGap gap → WritesArgs [] gap
  | last {pair : String × String} {piece : List Char} : WritesArg pair piece → WritesArgs [pair] piece
  | more {pair : String × String} {pairs : List (String × String)} {piece body : List Char} :
    WritesArg pair piece → WritesArgs pairs body → WritesArgs (pair :: pairs) (piece ++ ',' :: body)
  | skip {pairs : List (String × String)} {gap body : List Char} :
    IsGap gap → WritesArgs pairs body → WritesArgs pairs (gap ++ ',' :: body)

variable {pair : String × String} {pairs : List (String × String)} {piece body gap : List Char}

/-! ## One piece -/

theorem arg?_append_colon {before : List Char} (absent : ':' ∉ before) (after : List Char) :
    arg? (before ++ ':' :: after) =
      if (trim before).isEmpty then none else some (String.ofList (trim before), String.ofList (trim after)) := by
  rw [arg?, cut?_singleton absent]

theorem arg?_of_no_colon (absent : ':' ∉ piece) : arg? piece = none := by
  have uncut : cut? [':'] piece = none :=
    cut?_eq_none_iff.mpr fun found => absent (found.subset (List.mem_singleton.mpr rfl))
  rw [arg?, uncut]

/-- A piece is cut at its first colon, and has a key before it. -/
theorem arg?_eq_some_iff : arg? piece = some pair ↔ ∃ before after, piece = before ++ ':' :: after ∧
    ':' ∉ before ∧ trim before ≠ [] ∧ pair = (String.ofList (trim before), String.ofList (trim after)) := by
  constructor
  · intro read
    by_cases colon : ':' ∈ piece
    · obtain ⟨before, after, rfl, absent⟩ := List.eq_append_cons_of_mem colon
      rw [arg?_append_colon absent] at read
      split_ifs at read with empty
      refine ⟨before, after, rfl, absent, ?_, (Option.some.inj read).symm⟩
      rintro none
      exact empty (List.isEmpty_iff.mpr none)
    · rw [arg?_of_no_colon colon] at read
      contradiction
  · rintro ⟨before, after, rfl, absent, key_ne, rfl⟩
    rw [arg?_append_colon absent, if_neg (by simpa using key_ne)]

theorem isArg_of_arg? (no_comma : ',' ∉ piece) (read : arg? piece = some pair) : IsArg pair := by
  obtain ⟨before, after, rfl, absent, key_ne, rfl⟩ := arg?_eq_some_iff.mp read
  have key_kept : trim before ⊆ before := trim_subset before
  have value_kept : trim after ⊆ after := trim_subset after
  simp only [List.mem_append, List.mem_cons, not_or] at no_comma
  obtain ⟨comma_before, -, comma_after⟩ := no_comma
  constructor
  case key_ne => simpa using key_ne
  case key_trimmed => simpa using trim_trim before
  case key_no_comma => simpa using fun member => comma_before (key_kept member)
  case key_no_colon => simpa using fun member => absent (key_kept member)
  case value_trimmed => simpa using trim_trim after
  case value_no_comma => simpa using fun member => comma_after (value_kept member)

theorem WritesArg.arg?_eq (isArg : IsArg pair) (written : WritesArg pair piece) : arg? piece = some pair := by
  cases written with
  | @spaced beforeKey afterKey beforeValue afterValue front behind inner ending =>
    have key : trim (beforeKey ++ pair.1.toList ++ afterKey) = pair.1.toList := by
      rw [trim_append_gap behind, trim_gap_append front, isArg.key_trimmed]
    have value : trim (beforeValue ++ pair.2.toList ++ afterValue) = pair.2.toList := by
      rw [trim_append_gap ending, trim_gap_append inner, isArg.value_trimmed]
    have no_colon {gap : List Char} (blank : IsGap gap) : ':' ∉ gap := not_mem_of_forall blank (by decide)
    refine arg?_eq_some_iff.mpr ⟨_, _, rfl, ?_, ?_, ?_⟩
    · simp [no_colon front, no_colon behind, isArg.key_no_colon]
    · rw [key]
      simpa using isArg.key_ne
    · rw [key, value, String.ofList_toList, String.ofList_toList]

theorem comma_not_mem_gap (blank : IsGap gap) : ',' ∉ gap :=
  not_mem_of_forall blank (by decide)

theorem WritesArg.no_comma (isArg : IsArg pair) (written : WritesArg pair piece) : ',' ∉ piece := by
  obtain ⟨front, behind, inner, ending⟩ := written
  simp [comma_not_mem_gap front, comma_not_mem_gap behind, comma_not_mem_gap inner, comma_not_mem_gap ending,
    isArg.key_no_comma, isArg.value_no_comma]

/-! ## Lists -/

theorem splitArgs_of_no_comma (absent : ',' ∉ piece) : splitArgs piece = (arg? piece).toList := by
  rw [splitArgs, split_of_not_mem absent]
  cases read : arg? piece <;> simp [read]

/-- A comma divides a list of args into two. -/
theorem splitArgs_append_comma (before after : List Char) :
    splitArgs (before ++ ',' :: after) = splitArgs before ++ splitArgs after := by
  rw [splitArgs, split_append_cons, List.filterMap_append]
  rfl

theorem splitArgs_gap (blank : IsGap gap) : splitArgs gap = [] := by
  rw [splitArgs_of_no_comma (comma_not_mem_gap blank), arg?_of_no_colon (not_mem_of_forall blank (by decide))]
  rfl

theorem isArg_of_mem_splitArgs (member : pair ∈ splitArgs body) : IsArg pair := by
  obtain ⟨piece, present, read⟩ := List.mem_filterMap.mp member
  exact isArg_of_arg? (not_mem_of_mem_split present) read

theorem WritesArgs.splitArgs_eq (all : ∀ pair ∈ pairs, IsArg pair) (written : WritesArgs pairs body) :
    splitArgs body = pairs := by
  induction written with
  | blank blank => exact splitArgs_gap blank
  | last written =>
    rw [List.forall_mem_singleton] at all
    rw [splitArgs_of_no_comma (written.no_comma all), written.arg?_eq all]
    rfl
  | more written _ ih =>
    rw [List.forall_mem_cons] at all
    rw [splitArgs_append_comma, splitArgs_of_no_comma (written.no_comma all.1), written.arg?_eq all.1, ih all.2]
    rfl
  | skip blank _ ih => rw [splitArgs_append_comma, splitArgs_gap blank, ih all, List.nil_append]

theorem exists_writesArgs (pairs : List (String × String)) : ∃ body, WritesArgs pairs body := by
  induction pairs with
  | nil => exact ⟨[], .blank isGap_nil⟩
  | cons pair pairs ih =>
    obtain ⟨body, written⟩ := ih
    exact ⟨_, .more (.spaced isGap_nil isGap_nil isGap_nil isGap_nil) written⟩

theorem rawArgs_append_comma (before after : List Char) :
    rawArgs (before ++ ',' :: after) = (rawArgs before).putAll (rawArgs after).entries := by
  rw [rawArgs, splitArgs_append_comma, Fields.ofList_append, rawArgs, rawArgs, Fields.putAll_ofList]

/-! ## A comma at the end of a value -/

/-- The text without a comma at its end, and without the blanks behind that. -/
def withoutEndComma (text : List Char) : List Char :=
  match text.reverse.dropWhile isBlank with
  | ',' :: rest => rest.reverse
  | _ => text

theorem withoutEndComma_eq_self {text : List Char} (absent : ',' ∉ text) : withoutEndComma text = text := by
  unfold withoutEndComma
  split
  · next rest ending =>
    have last : ',' ∈ text.reverse.dropWhile isBlank := ending ▸ List.mem_cons_self ..
    exact absurd (List.mem_reverse.mp ((List.dropWhile_suffix isBlank).subset last)) absent
  · rfl

/-- Splitting undoes writing on the pairs that can be written, which are all that splitting ever gives; the
values it gives have no comma at their end that could be taken off. Two lists of args with a comma between
them come to the mapping of the first with that of the second written over it. -/
theorem args_split_back :
    (∀ pairs, (∃ body, splitArgs body = pairs) ↔ ∀ pair ∈ pairs, IsArg pair) ∧
    (∀ pairs body, (∀ pair ∈ pairs, IsArg pair) → WritesArgs pairs body → splitArgs body = pairs) ∧
    (∀ body, ∀ pair ∈ splitArgs body, withoutEndComma pair.2.toList = pair.2.toList) ∧
    ∀ before after, rawArgs (before ++ ',' :: after) = (rawArgs before).putAll (rawArgs after).entries := by
  refine ⟨fun pairs => ⟨?_, fun all => ?_⟩, fun _ _ => WritesArgs.splitArgs_eq, ?_, rawArgs_append_comma⟩
  · rintro ⟨body, rfl⟩ pair member
    exact isArg_of_mem_splitArgs member
  · obtain ⟨body, written⟩ := exists_writesArgs pairs
    exact ⟨body, written.splitArgs_eq all⟩
  · intro body pair member
    exact withoutEndComma_eq_self (isArg_of_mem_splitArgs member).value_no_comma

/-- Args with a key that repeats, a colon in a value, and a value left out. -/
def spacedArgs : List (String × String) :=
  [("size", "2"), ("label", "'a: b'"), ("size", "")]

/-- The same args with blanks of several kinds, and a comma behind the last one. -/
def spacedArgsText : List Char :=
  " size\n:\u00a02 ,label: 'a: b',\nsize:,\u2003".toList

theorem writesArgs_spacedArgs : WritesArgs spacedArgs spacedArgsText := by
  have size : WritesArg ("size", "2") " size\n:\u00a02 ".toList :=
    .spaced (by simp; decide : IsGap [' ']) (by simp; decide : IsGap ['\n']) (by simp; decide : IsGap ['\u00a0'])
      (by simp; decide : IsGap [' '])
  have label : WritesArg ("label", "'a: b'") "label: 'a: b'".toList :=
    .spaced isGap_nil isGap_nil (by simp; decide : IsGap [' ']) isGap_nil
  have bare : WritesArg ("size", "") "\nsize:".toList :=
    .spaced (by simp; decide : IsGap ['\n']) isGap_nil isGap_nil isGap_nil
  exact .more size (.more label (.more bare (.blank (by simp; decide : IsGap ['\u2003']))))

/-- They are split back, and a list behind them writes over the value of the key that repeats. -/
theorem spacedArgs_split_back :
    (∀ pair ∈ spacedArgs, IsArg pair) ∧ WritesArgs spacedArgs spacedArgsText ∧
    splitArgs spacedArgsText = spacedArgs ∧
    ("label", "'a: b'") ∈ splitArgs spacedArgsText ∧ withoutEndComma "'a: b'".toList = "'a: b'".toList ∧
    (rawArgs (spacedArgsText ++ ',' :: "icon: x, size: 3,".toList)).entries =
      [("size", "3"), ("label", "'a: b'"), ("icon", "x")] := by
  obtain ⟨image, inverse, plain, joined⟩ := args_split_back
  have all : ∀ pair ∈ spacedArgs, IsArg pair := by decide +kernel
  have split := inverse spacedArgs spacedArgsText all writesArgs_spacedArgs
  have member : ("label", "'a: b'") ∈ splitArgs spacedArgsText := by
    rw [split]
    decide
  refine ⟨all, writesArgs_spacedArgs, split, member, plain spacedArgsText _ member, ?_⟩
  rw [joined, rawArgs, split]
  decide +kernel

end StoryCatalog.Story
