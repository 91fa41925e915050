import StoryCatalog.Text.Scan
import Mathlib.Data.List.Infix
import Mathlib.Data.List.TakeWhile

/-!
# What a scan reads

A scan is a function, but a fact about a construct is easier to state of the text that was read than
of the function that read it. Each combinator gets one equivalence: it reads a value and leaves a rest
exactly when the text is spelled in a certain way. `Nowhere` says that a search passes over a piece of
text, and splits where the piece does, so that a long text is searched piece by piece.
-/

namespace StoryCatalog.Text

/-- The text starts with no character of the class. -/
def Stops (p : Char → Bool) (text : List Char) : Prop :=
  ∀ c ∈ text.head?, p c = false

@[simp] theorem stops_nil (p : Char → Bool) : Stops p [] := by simp [Stops]

@[simp] theorem stops_cons (p : Char → Bool) (c : Char) (text : List Char) :
    Stops p (c :: text) ↔ p c = false := by simp [Stops]

theorem stops_iff_dropWhile {p : Char → Bool} {text : List Char} :
    Stops p text ↔ text.dropWhile p = text := by
  cases text with
  | nil => simp
  | cons c text => simp

theorem stops_of_forall {p : Char → Bool} {text : List Char} (foreign : ∀ c ∈ text, p c = false) :
    Stops p text :=
  fun c first => foreign c (List.mem_of_mem_head? first)

/-- A character outside a class does not stand in a text of the class. -/
theorem not_mem_of_forall {p : Char → Bool} {c : Char} {text : List Char} (all : ∀ d ∈ text, p d = true)
    (foreign : p c = false) : c ∉ text := by
  intro member
  rw [all c member] at foreign
  contradiction

theorem stops_append {p : Char → Bool} {first second : List Char} (foreign : ∀ c ∈ first, p c = false)
    (stops : Stops p second) : Stops p (first ++ second) := by
  cases first with
  | nil => exact stops
  | cons c first => exact (stops_cons p c _).mpr (foreign c (List.mem_cons_self ..))

theorem stops_append_of_ne_nil {p : Char → Bool} {first : List Char} (nonempty : first ≠ [])
    (foreign : ∀ c ∈ first, p c = false) (second : List Char) : Stops p (first ++ second) := by
  cases first with
  | nil => contradiction
  | cons c first => exact (stops_cons p c _).mpr (foreign c (List.mem_cons_self ..))

/-- The property fails at every place of `before`, with `here` following. -/
def Nowhere (found : List Char → Prop) : List Char → List Char → Prop
  | [], _ => True
  | c :: before, here => ¬found (c :: before ++ here) ∧ Nowhere found before here

@[simp] theorem nowhere_nil (found : List Char → Prop) (here : List Char) : Nowhere found [] here :=
  trivial

theorem nowhere_cons (found : List Char → Prop) (c : Char) (before here : List Char) :
    Nowhere found (c :: before) here ↔ ¬found (c :: before ++ here) ∧ Nowhere found before here :=
  Iff.rfl

/-- A search over two pieces is one over the first with the second following, and one over the second. -/
theorem nowhere_append (found : List Char → Prop) (first second here : List Char) :
    Nowhere found (first ++ second) here ↔
      Nowhere found first (second ++ here) ∧ Nowhere found second here := by
  induction first with
  | nil => simp
  | cons c first ih => simp only [List.cons_append, nowhere_cons, ih, List.append_assoc, and_assoc]

theorem Nowhere.mono {found other : List Char → Prop} {before here : List Char}
    (nowhere : Nowhere found before here) (weaker : ∀ text, other text → found text) :
    Nowhere other before here := by
  induction before with
  | nil => trivial
  | cons c before ih => exact ⟨fun held => nowhere.1 (weaker _ held), ih nowhere.2⟩

theorem nowhere_congr {found other : List Char → Prop} (same : ∀ text, found text ↔ other text)
    (before here : List Char) : Nowhere found before here ↔ Nowhere other before here :=
  ⟨fun nowhere => nowhere.mono fun text => (same text).mpr,
    fun nowhere => nowhere.mono fun text => (same text).mp⟩

/-- Every place of `before` is a way to split it in front of something. -/
theorem nowhere_iff (found : List Char → Prop) (before here : List Char) :
    Nowhere found before here ↔
      ∀ front back, before = front ++ back → back ≠ [] → ¬found (back ++ here) := by
  induction before with
  | nil => simp
  | cons c before ih =>
    rw [nowhere_cons, ih]
    constructor
    · rintro ⟨first, later⟩ front back split nonempty
      cases front with
      | nil =>
        rw [List.nil_append] at split
        rwa [← split]
      | cons d front => exact later front back (List.cons.inj split).2 nonempty
    · intro every
      refine ⟨every [] (c :: before) rfl (List.cons_ne_nil c before), ?_⟩
      intro front back split nonempty
      exact every (c :: front) back (by rw [split, List.cons_append]) nonempty

/-- Where a property holds at no earlier place, every place at which it holds comes behind. -/
theorem prefix_of_nowhere {found : List Char → Prop} {before here other there : List Char}
    (nowhere : Nowhere found before here) (held : found there) (same : before ++ here = other ++ there) :
    before <+: other := by
  obtain ⟨more, rfl, -⟩ | ⟨more, rfl, rfl⟩ := List.append_eq_append_iff.mp same
  · exact List.prefix_append ..
  · cases more with
    | nil => rw [List.append_nil]
    | cons c more => exact absurd held ((nowhere_iff ..).mp nowhere other (c :: more) rfl (List.cons_ne_nil c more))

theorem suffix_of_nowhere {found : List Char → Prop} {before here other there : List Char}
    (nowhere : Nowhere found before here) (held : found there) (same : before ++ here = other ++ there) :
    there <:+ here := by
  obtain ⟨more, rfl⟩ := prefix_of_nowhere nowhere held same
  rw [List.append_assoc, List.append_cancel_left_eq] at same
  exact ⟨more, same.symm⟩

/-- Where the property asks for a first character of a class, text without one is passed over. -/
theorem nowhere_of_forall {found : List Char → Prop} {p : Char → Bool}
    (starts : ∀ c text, found (c :: text) → p c = true) {before : List Char} (foreign : ∀ c ∈ before, p c = false)
    (here : List Char) : Nowhere found before here := by
  induction before with
  | nil => trivial
  | cons c before ih =>
    rw [List.forall_mem_cons] at foreign
    refine ⟨?_, ih foreign.2⟩
    intro held
    have first : p c = true := starts c _ held
    rw [foreign.1] at first
    contradiction

/-- Where the property asks for a first character, text without that character is passed over. -/
theorem nowhere_of_not_mem {found : List Char → Prop} {first : Char}
    (starts : ∀ c text, found (c :: text) → c = first) {before : List Char} (absent : first ∉ before)
    (here : List Char) : Nowhere found before here := by
  induction before with
  | nil => trivial
  | cons c before ih =>
    rw [List.mem_cons, not_or] at absent
    exact ⟨fun held => absent.1 (starts c _ held).symm, ih absent.2⟩

/-- Where the property asks for a sign before any stop, text without the sign that ends with a stop is passed
over. -/
theorem nowhere_of_stop {found : List Char → Prop} {sign stop : Char}
    (reaches : ∀ text, found text → ∃ opening more, text = opening ++ sign :: more ∧ stop ∉ opening)
    {before : List Char} (absent : sign ∉ before ++ [stop]) (here : List Char) :
    Nowhere found (before ++ [stop]) here := by
  rw [nowhere_iff]
  intro front back split nonempty held
  have stopped : stop ∈ back := by
    have last : back.getLast nonempty = stop := by
      have same := congrArg List.getLast? split
      rw [List.getLast?_concat, List.getLast?_append_of_ne_nil _ nonempty, List.getLast?_eq_some_getLast nonempty,
        Option.some.injEq] at same
      exact same.symm
    exact last ▸ List.getLast_mem nonempty
  obtain ⟨opening, more, same, unstopped⟩ := reaches _ held
  obtain ⟨longer, rfl, -⟩ | ⟨longer, rfl, tail⟩ := List.append_eq_append_iff.mp same
  · exact unstopped (List.mem_append_left _ stopped)
  · cases longer with
    | nil => exact unstopped (List.append_nil opening ▸ stopped)
    | cons c longer =>
      obtain ⟨rfl, -⟩ := List.cons.inj tail
      exact absent (split ▸ by simp)

/-- A word that starts a text ends before any character that is not in it. -/
theorem dropWord?_append_cons {word text after rest : List Char} {c : Char} (foreign : c ∉ word)
    (read : dropWord? word (text ++ c :: after) = some rest) :
    ∃ more, text = word ++ more ∧ rest = more ++ c :: after := by
  rw [dropWord?_eq_some_iff] at read
  obtain ⟨more, rfl, rest_eq⟩ | ⟨more, word_eq, after_eq⟩ := List.append_eq_append_iff.mp read
  · cases more with
    | nil => exact ⟨[], by simp, by simpa using rest_eq.symm⟩
    | cons d more =>
      obtain ⟨rfl, -⟩ := List.cons.inj rest_eq
      exact absurd (List.mem_append_right _ (List.mem_cons_self ..)) foreign
  · exact ⟨more, word_eq, after_eq⟩

theorem dropWord?_append_cons_eq_none {word text after : List Char} {c : Char} (foreign : c ∉ word)
    (absent : ¬word <+: text) : dropWord? word (text ++ c :: after) = none := by
  rw [Option.eq_none_iff_forall_ne_some]
  intro rest read
  obtain ⟨more, rfl, -⟩ := dropWord?_append_cons foreign read
  exact absent (List.prefix_append ..)

theorem nowhere_flatMap {α : Type} {found : List Char → Prop} {source : α → List Char}
    (nowhere : ∀ item here, Nowhere found (source item) here) (items : List α) (here : List Char) :
    Nowhere found (items.flatMap source) here := by
  induction items with
  | nil => exact nowhere_nil ..
  | cons item items ih =>
    rw [List.flatMap_cons, nowhere_append]
    exact ⟨nowhere item _, ih⟩

namespace Scan

variable {α β : Type}

/-- The scan succeeds at the front of the text. -/
def Reads (scan : Scan α) (text : List Char) : Prop :=
  ∃ value rest, scan text = some (value, rest)

theorem not_reads_iff {scan : Scan α} {text : List Char} : ¬scan.Reads text ↔ scan text = none := by
  simp [Reads, Option.eq_none_iff_forall_ne_some]

theorem bind_apply (scan : Scan α) (next : α → Scan β) (text : List Char) :
    (scan >>= next) text = (scan text).bind fun (value, rest) => next value rest := rfl

theorem bind_eq_some_iff {scan : Scan α} {next : α → Scan β} {text : List Char} {out : β × List Char} :
    (scan >>= next) text = some out ↔
      ∃ value rest, scan text = some (value, rest) ∧ next value rest = some out := by
  simp only [bind_apply, Option.bind_eq_some_iff, Prod.exists]

@[simp] theorem pure_eq_some_iff {value out : α} {text rest : List Char} :
    (pure value : Scan α) text = some (out, rest) ↔ value = out ∧ text = rest := by
  change some (value, text) = some (out, rest) ↔ _
  simp only [Option.some.injEq, Prod.mk.injEq]

@[simp] theorem map_eq_some_iff {f : α → β} {scan : Scan α} {text rest : List Char} {out : β} :
    (f <$> scan) text = some (out, rest) ↔ ∃ value, scan text = some (value, rest) ∧ f value = out := by
  rw [← bind_pure_comp, bind_eq_some_iff]
  simp only [pure_eq_some_iff]
  constructor
  · rintro ⟨value, left, read, same, rfl⟩
    exact ⟨value, read, same⟩
  · rintro ⟨value, read, same⟩
    exact ⟨value, rest, read, same, rfl⟩

theorem guard_eq_some_iff {condition : Prop} [Decidable condition] {text rest : List Char} {out : Unit} :
    (guard condition : Scan Unit) text = some (out, rest) ↔ condition ∧ text = rest := by
  rw [guard]
  split_ifs with held
  · simp [held]
  · simp only [held, false_and, iff_false]
    change ¬none = some (out, rest)
    exact Option.some_ne_none _ |>.symm

@[simp] theorem literal_eq_some_iff {word : String} {text rest : List Char} {out : Unit} :
    literal word text = some (out, rest) ↔ text = word.toList ++ rest := by
  simp [literal, dropWord?_eq_some_iff]

@[simp] theorem one_eq_some_iff {p : Char → Bool} {text rest : List Char} {c : Char} :
    one p text = some (c, rest) ↔ p c = true ∧ text = c :: rest := by
  cases text with
  | nil => simp [one]
  | cons d text =>
    simp only [one, Option.ite_none_right_eq_some, Option.some.injEq, Prod.mk.injEq, List.cons.injEq]
    constructor
    · rintro ⟨held, rfl, rfl⟩
      exact ⟨held, rfl, rfl⟩
    · rintro ⟨held, rfl, rfl⟩
      exact ⟨held, rfl, rfl⟩

theorem orElse_eq_some_iff {first second : Scan α} {text : List Char} {out : α × List Char} :
    (first <|> second) text = some out ↔ first text = some out ∨ first text = none ∧ second text = some out := by
  change ((first text).orElse fun _ => second text) = some out ↔ _
  cases first text <;> simp

/-- One of two scans succeeds where either does. -/
theorem orElse_reads_iff {first second : Scan α} {text : List Char} :
    (first <|> second).Reads text ↔ first.Reads text ∨ second.Reads text := by
  simp only [Reads, orElse_eq_some_iff]
  cases first text with
  | none => simp
  | some out => exact iff_of_true ⟨out.1, out.2, .inl rfl⟩ (.inl ⟨out.1, out.2, rfl⟩)

theorem run_eq_some_iff {p : Char → Bool} {text taken rest : List Char} :
    run p text = some (taken, rest) ↔
      text = taken ++ rest ∧ (∀ c ∈ taken, p c = true) ∧ Stops p rest := by
  simp only [run, Option.some.injEq, Prod.mk.injEq]
  constructor
  · rintro ⟨rfl, rfl⟩
    refine ⟨List.takeWhile_append_dropWhile.symm, fun c member => List.mem_takeWhile_imp member, ?_⟩
    intro c first
    have stopped := List.head?_dropWhile_not p text
    rw [Option.mem_def.mp first] at stopped
    simpa using stopped
  · rintro ⟨rfl, all, stops⟩
    rw [List.takeWhile_append_of_pos all, List.dropWhile_append_of_pos all]
    cases rest with
    | nil => simp
    | cons c rest => simp [(stops_cons p c rest).mp stops]

/-- A run of a class ends where the text behind it stops. -/
theorem takeWhile_append_of_stops {p : Char → Bool} {taken rest : List Char} (all : ∀ c ∈ taken, p c = true)
    (stops : Stops p rest) : (taken ++ rest).takeWhile p = taken ∧ (taken ++ rest).dropWhile p = rest := by
  have read : run p (taken ++ rest) = some (taken, rest) := run_eq_some_iff.mpr ⟨rfl, all, stops⟩
  simpa [run] using read

/-- Every text starts with a run of a class, possibly empty. -/
theorem exists_run (p : Char → Bool) (text : List Char) :
    ∃ taken rest, text = taken ++ rest ∧ (∀ c ∈ taken, p c = true) ∧ Stops p rest :=
  ⟨_, _, run_eq_some_iff.mp rfl⟩

/-- Where a run of a class ends is determined by the text. -/
theorem append_inj_of_stops {p : Char → Bool} {first other rest left : List Char}
    (all : ∀ c ∈ first, p c = true) (stops : Stops p rest) (otherAll : ∀ c ∈ other, p c = true)
    (otherStops : Stops p left) (same : first ++ rest = other ++ left) : first = other ∧ rest = left := by
  have read := run_eq_some_iff.mpr ⟨rfl, all, stops⟩
  have otherRead := run_eq_some_iff.mpr ⟨rfl, otherAll, otherStops⟩
  rw [same, otherRead] at read
  exact ⟨(Prod.mk.inj (Option.some.inj read)).1.symm, (Prod.mk.inj (Option.some.inj read)).2.symm⟩

/-- The first place of a character is determined by the text. -/
theorem append_cons_inj {c : Char} {first other rest left : List Char} (absent : c ∉ first)
    (otherAbsent : c ∉ other) (same : first ++ c :: rest = other ++ c :: left) :
    first = other ∧ rest = left := by
  have foreign {text : List Char} (absent : c ∉ text) : ∀ d ∈ text, (d != c) = true := by
    intro d member
    rw [bne_iff_ne]
    rintro rfl
    exact absent member
  obtain ⟨firsts, rests⟩ := append_inj_of_stops (foreign absent) (by simp) (foreign otherAbsent)
    (by simp) same
  exact ⟨firsts, (List.cons.inj rests).2⟩

theorem run1_eq_some_iff {p : Char → Bool} {text taken rest : List Char} :
    run1 p text = some (taken, rest) ↔
      taken ≠ [] ∧ text = taken ++ rest ∧ (∀ c ∈ taken, p c = true) ∧ Stops p rest := by
  rw [← run_eq_some_iff]
  simp only [run1, run, Option.some.injEq, Prod.mk.injEq]
  cases text.takeWhile p with
  | nil =>
    simp only [reduceCtorEq, false_iff, not_and]
    exact fun nonempty empty => absurd empty.symm nonempty
  | cons c more =>
    simp only [Option.some.injEq, Prod.mk.injEq]
    exact ⟨fun same => ⟨same.1 ▸ List.cons_ne_nil c more, same⟩, And.right⟩

theorem maybe_eq_some_iff {scan : Scan α} {text rest : List Char} {out : Option α} :
    maybe scan text = some (out, rest) ↔
      (∃ value, out = some value ∧ scan text = some (value, rest)) ∨
        (out = none ∧ rest = text ∧ scan text = none) := by
  unfold maybe
  cases scan text with
  | none => simp [eq_comm]
  | some read =>
    obtain ⟨value, left⟩ := read
    simp only [Option.some.injEq, Prod.mk.injEq, reduceCtorEq, and_false, or_false]
    constructor
    · rintro ⟨rfl, rfl⟩
      exact ⟨value, rfl, rfl, rfl⟩
    · rintro ⟨other, rfl, rfl, rfl⟩
      exact ⟨rfl, rfl⟩

theorem upTo_of_some {stop : Scan α} {text rest : List Char} {value : α}
    (read : stop text = some (value, rest)) : upTo stop text = some (([], value), rest) := by
  rw [upTo.eq_def, read]

theorem upTo_cons_of_none {stop : Scan α} {c : Char} {text : List Char} (unread : stop (c :: text) = none) :
    upTo stop (c :: text) =
      (upTo stop text).map fun ((before, value), rest) => ((c :: before, value), rest) := by
  rw [upTo.eq_def stop (c :: text), unread]

private theorem upTo_eq_some_iff_of_some {stop : Scan α} {text before rest left : List Char} {value other : α}
    (stopped : stop text = some (other, left)) :
    upTo stop text = some ((before, value), rest) ↔
      ∃ here, text = before ++ here ∧ stop here = some (value, rest) ∧ Nowhere stop.Reads before here := by
  rw [upTo_of_some stopped]
  constructor
  · intro read
    simp only [Option.some.injEq, Prod.mk.injEq] at read
    obtain ⟨⟨rfl, rfl⟩, rfl⟩ := read
    exact ⟨text, rfl, stopped, trivial⟩
  · rintro ⟨here, rfl, read, nowhere⟩
    cases before with
    | nil =>
      obtain ⟨rfl, rfl⟩ := Prod.mk.inj (Option.some.inj (stopped.symm.trans read))
      rfl
    | cons c before => exact absurd ⟨other, left, stopped⟩ nowhere.1

theorem upTo_eq_some_iff {stop : Scan α} {text before rest : List Char} {value : α} :
    upTo stop text = some ((before, value), rest) ↔
      ∃ here, text = before ++ here ∧ stop here = some (value, rest) ∧ Nowhere stop.Reads before here := by
  induction text generalizing before with
  | nil =>
    cases stopped : stop [] with
    | some out => exact upTo_eq_some_iff_of_some stopped
    | none =>
      rw [upTo.eq_def, stopped]
      simp +contextual [stopped]
  | cons c text ih =>
    cases stopped : stop (c :: text) with
    | some out => exact upTo_eq_some_iff_of_some stopped
    | none =>
      rw [upTo_cons_of_none stopped]
      simp only [Option.map_eq_some_iff, Prod.exists, Prod.mk.injEq]
      constructor
      · rintro ⟨earlier, other, left, read, ⟨rfl, rfl⟩, rfl⟩
        obtain ⟨here, rfl, atStop, nowhere⟩ := ih.mp read
        exact ⟨here, rfl, atStop, not_reads_iff.mpr stopped, nowhere⟩
      · rintro ⟨here, split, atStop, nowhere⟩
        cases before with
        | nil =>
          rw [List.nil_append] at split
          rw [← split, stopped] at atStop
          cases atStop
        | cons d before =>
          obtain ⟨rfl, tail⟩ := List.cons.inj split
          exact ⟨before, value, rest, ih.mpr ⟨here, tail, atStop, nowhere.2⟩, ⟨rfl, rfl⟩, rfl⟩

/-- The leftmost success of a search is where reading up to it stops. -/
theorem findFirst?_eq_map_upTo (scan : Scan α) (text : List Char) :
    findFirst? scan text = (upTo scan text).map (·.1.2) := by
  induction text with
  | nil => cases read : scan [] <;> simp [findFirst?, upTo, read]
  | cons c text ih =>
    cases read : scan (c :: text) with
    | none =>
      rw [upTo_cons_of_none read, findFirst?, read, Option.map_map]
      exact ih
    | some out => rw [upTo_of_some read, findFirst?, read, Option.map_some]

theorem findFirst?_eq_some_iff {scan : Scan α} {text : List Char} {value : α} :
    findFirst? scan text = some value ↔
      ∃ before here rest, text = before ++ here ∧ scan here = some (value, rest) ∧
        Nowhere scan.Reads before here := by
  simp only [findFirst?_eq_map_upTo, Option.map_eq_some_iff, Prod.exists, upTo_eq_some_iff]
  constructor
  · rintro ⟨before, _, rest, ⟨here, found⟩, rfl⟩
    exact ⟨before, here, rest, found⟩
  · rintro ⟨before, here, rest, found⟩
    exact ⟨before, value, rest, ⟨here, found⟩, rfl⟩

/-- A search fails when the scan fails at every place, the end included. -/
theorem findFirst?_eq_none_iff {scan : Scan α} {text : List Char} :
    findFirst? scan text = none ↔ ∀ before here, text = before ++ here → scan here = none := by
  induction text with
  | nil =>
    rw [findFirst?]
    cases read : scan [] with
    | none =>
      simp only [true_iff]
      intro before here split
      rw [(List.append_eq_nil_iff.mp split.symm).2, read]
    | some out =>
      simp only [reduceCtorEq, false_iff]
      intro every
      simp [every [] [] rfl] at read
  | cons c text ih =>
    rw [findFirst?]
    cases read : scan (c :: text) with
    | none =>
      simp only [ih]
      constructor
      · intro later before here split
        cases before with
        | nil =>
          rw [List.nil_append] at split
          rw [← split, read]
        | cons d before => exact later before here (List.cons.inj split).2
      · intro every before here split
        exact every (c :: before) here (by rw [split, List.cons_append])
    | some out =>
      simp only [reduceCtorEq, false_iff]
      intro every
      simp [every [] (c :: text) rfl] at read

/-! ## Words -/

theorem literal_reads_iff {word : String} {text : List Char} :
    (literal word).Reads text ↔ word.toList <+: text := by
  simp only [Reads, literal_eq_some_iff]
  constructor
  · rintro ⟨_, rest, rfl⟩
    exact List.prefix_append ..
  · rintro ⟨rest, rfl⟩
    exact ⟨(), rest, rfl⟩

theorem nowhere_literal_of_not_mem {word : String} (first : Char) (starts : word.toList.head? = some first)
    {before : List Char} (absent : first ∉ before) (here : List Char) :
    Nowhere (literal word).Reads before here := by
  refine nowhere_of_not_mem (fun c text read => ?_) absent here
  obtain ⟨rest, same⟩ := literal_reads_iff.mp read
  cases spelled : word.toList with
  | nil =>
    rw [spelled] at starts
    contradiction
  | cons d more =>
    rw [spelled, List.head?_cons, Option.some.injEq] at starts
    rw [spelled, List.cons_append] at same
    rw [← (List.cons.inj same).1, starts]

/-- Whether a word stands at no earlier place is settled where the word ends. -/
theorem nowhere_literal_append (word : String) (before rest : List Char) :
    Nowhere (literal word).Reads before (word.toList ++ rest) ↔
      Nowhere (literal word).Reads before word.toList := by
  induction before with
  | nil => exact Iff.rfl
  | cons c before ih =>
    have fits : word.toList.length ≤ (c :: before ++ word.toList).length := by
      rw [List.length_append]
      omega
    rw [nowhere_cons, nowhere_cons, ih, literal_reads_iff, literal_reads_iff, ← List.append_assoc,
      List.isPrefix_append_of_length fits]

/-- Where a word stands at no earlier place, every place of it comes after. -/
theorem prefix_of_nowhere_literal {word : String} {before rest front back : List Char}
    (nowhere : Nowhere (literal word).Reads before (word.toList ++ rest))
    (same : before ++ (word.toList ++ rest) = front ++ (word.toList ++ back)) : before <+: front :=
  prefix_of_nowhere nowhere (literal_reads_iff.mpr (List.prefix_append ..)) same

/-- A text that holds a word holds the first place of it in any longer text. -/
theorem append_word_prefix_of_infix {word : String} {before rest text more : List Char}
    (nowhere : Nowhere (literal word).Reads before (word.toList ++ rest))
    (same : before ++ (word.toList ++ rest) = text ++ more) (held : word.toList <:+: text) :
    before ++ word.toList <+: text := by
  obtain ⟨front, back, rfl⟩ := held
  have split : before ++ (word.toList ++ rest) = front ++ (word.toList ++ (back ++ more)) := by
    rw [same]
    simp only [List.append_assoc]
  have within : before.length ≤ front.length := (prefix_of_nowhere_literal nowhere split).length_le
  have whole : before ++ word.toList <+: front ++ word.toList ++ back ++ more :=
    ⟨rest, by rw [List.append_assoc, same]⟩
  apply List.prefix_of_prefix_length_le whole (List.prefix_append ..)
  simp only [List.length_append]
  omega

/-! ## Successive readings -/

theorem findAllAfter_append (scan : Scan α) (passed rest : List Char) :
    findAllAfter scan passed.length (passed ++ rest) = findAll scan rest := by
  induction passed with
  | nil => rfl
  | cons c passed ih => exact ih

theorem findAll_cons_of_none {scan : Scan α} {c : Char} {text : List Char}
    (unread : scan (c :: text) = none) : findAll scan (c :: text) = findAll scan text := by
  simp only [findAll, findAllAfter, unread]

/-- After a reading the search goes on where the reading ended. -/
theorem findAll_append_of_some {scan : Scan α} {taken rest : List Char} {value : α} (nonempty : taken ≠ [])
    (read : scan (taken ++ rest) = some (value, rest)) :
    findAll scan (taken ++ rest) = value :: findAll scan rest := by
  cases taken with
  | nil => contradiction
  | cons c taken =>
    rw [List.cons_append] at read ⊢
    simp only [findAll, findAllAfter, read]
    rw [List.length_append, Nat.add_sub_cancel]
    exact congrArg _ (findAllAfter_append scan taken rest)

theorem findAll_append_of_nowhere {scan : Scan α} {before here : List Char}
    (nowhere : Nowhere scan.Reads before here) : findAll scan (before ++ here) = findAll scan here := by
  induction before with
  | nil => rfl
  | cons c before ih =>
    have unread : scan (c :: (before ++ here)) = none := not_reads_iff.mp nowhere.1
    rw [List.cons_append, findAll_cons_of_none unread, ih nowhere.2]

theorem findAll_eq_nil_of_nowhere {scan : Scan α} {text : List Char} (nowhere : Nowhere scan.Reads text []) :
    findAll scan text = [] := by
  have passed := findAll_append_of_nowhere nowhere
  rwa [List.append_nil] at passed

/-- Pieces that are each found once are found one after the other. -/
theorem findAll_flatMap {scan : Scan β} {source : α → List Char} {value : α → β}
    (found : ∀ item rest, findAll scan (source item ++ rest) = value item :: findAll scan rest) (items : List α)
    (rest : List Char) : findAll scan (items.flatMap source ++ rest) = items.map value ++ findAll scan rest := by
  induction items with
  | nil => rfl
  | cons item items ih => rw [List.flatMap_cons, List.append_assoc, found, ih, List.map_cons, List.cons_append]

/-- Every value found was read at some place of the text. -/
theorem exists_of_mem_findAll {scan : Scan α} {text : List Char} {value : α}
    (found : value ∈ findAll scan text) :
    ∃ before here rest, text = before ++ here ∧ scan here = some (value, rest) := by
  suffices general : ∀ skip, value ∈ findAllAfter scan skip text →
      ∃ before here rest, text = before ++ here ∧ scan here = some (value, rest) from general 0 found
  clear found
  induction text with
  | nil => simp [findAllAfter]
  | cons c text ih =>
    intro skip found
    have later (next : ℕ) (member : value ∈ findAllAfter scan next text) :
        ∃ before here rest, c :: text = before ++ here ∧ scan here = some (value, rest) := by
      obtain ⟨before, here, rest, rfl, read⟩ := ih next member
      exact ⟨c :: before, here, rest, rfl, read⟩
    cases skip with
    | succ skip => exact later skip found
    | zero =>
      cases read : scan (c :: text) with
      | none =>
        simp only [findAllAfter, read] at found
        exact later 0 found
      | some out =>
        obtain ⟨first, rest⟩ := out
        simp only [findAllAfter, read, List.mem_cons] at found
        rcases found with rfl | member
        · exact ⟨[], c :: text, rest, rfl, read⟩
        · exact later _ member

/-- A search from the front finds the first of all readings, where nothing is read at the end. -/
theorem findFirst?_eq_head?_findAll {scan : Scan α} (ended : scan [] = none) (text : List Char) :
    findFirst? scan text = (findAll scan text).head? := by
  induction text with
  | nil =>
    rw [findFirst?, ended]
    rfl
  | cons c text ih =>
    rw [findFirst?]
    cases read : scan (c :: text) with
    | none => rw [findAll_cons_of_none read, ← ih]
    | some out => simp only [findAll, findAllAfter, read, List.head?_cons]

/-- Where something is read at some place, something is found. -/
theorem findAll_ne_nil {scan : Scan α} (ended : scan [] = none) {before here : List Char} (read : scan.Reads here) :
    findAll scan (before ++ here) ≠ [] := by
  intro nothing
  have unread : findFirst? scan (before ++ here) = none := by
    rw [findFirst?_eq_head?_findAll ended, nothing, List.head?_nil]
  obtain ⟨value, rest, read⟩ := read
  rw [findFirst?_eq_none_iff.mp unread before here rfl] at read
  contradiction

/-- Text that is added behind a text adds readings behind its readings, where a reading stays when more text
follows it, and where nothing after a place that only the longer text is read at can be read in the text. -/
theorem findAll_prefix_append {scan : Scan α}
    (stable : ∀ text value rest more, scan text = some (value, rest) →
      scan (text ++ more) = some (value, rest ++ more))
    (consumes : ∀ text value rest, scan text = some (value, rest) →
      ∃ taken, taken ≠ [] ∧ text = taken ++ rest)
    (unfinished : ∀ text more, scan text = none → scan.Reads (text ++ more) →
      ∀ before here, text = before ++ here → scan here = none)
    (first second : List Char) : findAll scan first <+: findAll scan (first ++ second) := by
  induction bound : first.length using Nat.strong_induction_on generalizing first with
  | _ n ih =>
    subst bound
    cases first with
    | nil => exact List.nil_prefix
    | cons c first =>
      cases read : scan (c :: first) with
      | some out =>
        obtain ⟨value, rest⟩ := out
        obtain ⟨taken, nonempty, split⟩ := consumes _ _ _ read
        have longer := stable _ _ _ second read
        have shorter : rest.length < (c :: first).length := by
          have positive := List.length_pos_iff.mpr nonempty
          rw [split, List.length_append]
          omega
        rw [split, List.append_assoc] at longer
        rw [split] at read
        rw [split, List.append_assoc, findAll_append_of_some nonempty read,
          findAll_append_of_some nonempty longer, List.prefix_cons_inj]
        exact ih rest.length shorter rest rfl
      | none =>
        rw [findAll_cons_of_none read]
        cases readToo : scan (c :: first ++ second) with
        | none =>
          rw [List.cons_append] at readToo ⊢
          rw [findAll_cons_of_none readToo]
          exact ih first.length (Nat.lt_succ_self _) first rfl
        | some out =>
          have nothing : findAll scan first = [] := by
            rw [List.eq_nil_iff_forall_not_mem]
            intro value found
            obtain ⟨before, here, rest, split, found⟩ := exists_of_mem_findAll found
            have unread := unfinished _ second read ⟨_, _, readToo⟩ (c :: before) here
              (by rw [split, List.cons_append])
            rw [unread] at found
            contradiction
          rw [nothing]
          exact List.nil_prefix

/-! ## Line starts -/

/-- The search goes on behind a reading; a line starts there if the reading ended with a line feed. -/
theorem atLineStartsAfter_append (scan : Scan α) (start : Bool) (passed : List Char) (last : Char)
    (rest : List Char) :
    atLineStartsAfter scan start (passed.length + 1) (passed ++ last :: rest) =
      atLineStartsAfter scan (last = '\n') 0 rest := by
  induction passed generalizing start with
  | nil => rfl
  | cons c passed ih => exact ih _

theorem atLineStartsAfter_of_some {scan : Scan α} {taken rest : List Char} {last : Char} {value : α}
    (read : scan (taken ++ last :: rest) = some (value, rest)) :
    atLineStartsAfter scan true 0 (taken ++ last :: rest) =
      .inr value :: atLineStartsAfter scan (last = '\n') 0 rest := by
  cases taken with
  | nil =>
    rw [List.nil_append] at read ⊢
    simp only [atLineStartsAfter, read, Nat.sub_self]
  | cons c taken =>
    have left : (taken ++ last :: rest).length - rest.length = taken.length + 1 := by
      rw [List.length_append, List.length_cons]
      omega
    rw [List.cons_append] at read ⊢
    simp only [atLineStartsAfter, read, left, atLineStartsAfter_append]

/-- Within a line nothing is read. -/
theorem atLineStartsAfter_line {line : List Char} (one_line : '\n' ∉ line) (scan : Scan α) (rest : List Char) :
    atLineStartsAfter scan false 0 (line ++ rest) =
      line.map .inl ++ atLineStartsAfter scan false 0 rest := by
  induction line with
  | nil => rfl
  | cons c line ih =>
    rw [List.mem_cons, not_or] at one_line
    have within : decide (c = '\n') = false := decide_eq_false (Ne.symm one_line.1)
    rw [List.cons_append, atLineStartsAfter, within, ih one_line.2, List.map_cons, List.cons_append]

end Scan

end StoryCatalog.Text
