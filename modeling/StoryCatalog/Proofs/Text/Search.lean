import StoryCatalog.Proofs.Text.Scan

/-!
# Searches that need not go back

A search for one thing and then for another tries every place of the first. Where a later place of the first thing
also ends later, and the second thing is found from any place in front of it, only the first place counts: if the
search fails from there, it fails from every later one.
-/

namespace StoryCatalog.Text

/-- The first place of something: `before` stands in front of it, and `here` starts there. -/
structure FirstAt (found : List Char → Prop) (text before here : List Char) : Prop where
  split : text = before ++ here
  held : found here
  first : Nowhere found before here

/-- A span that starts at the first place of something. -/
def SpansFrom (found : List Char → Prop) (span : List Char → List Char → Prop) (content code : List Char) : Prop :=
  ∃ before rest, FirstAt found content before (code ++ rest) ∧ span code rest

namespace Scan

variable {α β : Type}

theorem upTo_eq_some_iff_firstAt {stop : Scan Unit} {found : List Char → Prop}
    (same : ∀ text, stop.Reads text ↔ found text) {text before rest : List Char} {out : Unit} :
    upTo stop text = some ((before, out), rest) ↔
      ∃ here, stop here = some ((), rest) ∧ FirstAt found text before here := by
  rw [upTo_eq_some_iff]
  constructor
  · rintro ⟨here, split, read, nowhere⟩
    exact ⟨here, read, split, (same here).mp ⟨(), rest, read⟩, (nowhere_congr same ..).mp nowhere⟩
  · rintro ⟨here, read, first⟩
    exact ⟨here, first.split, read, (nowhere_congr same ..).mpr first.first⟩

/-- Reading up to something succeeds where it stands anywhere in the text. -/
theorem upTo_reads_iff {stop : Scan α} {text : List Char} :
    (upTo stop).Reads text ↔ ∃ before here, text = before ++ here ∧ stop.Reads here := by
  constructor
  · rintro ⟨⟨before, value⟩, rest, read⟩
    obtain ⟨here, split, found, -⟩ := upTo_eq_some_iff.mp read
    exact ⟨before, here, split, value, rest, found⟩
  · rintro ⟨before, here, split, value, rest, found⟩
    by_contra unread
    have missed : findFirst? stop text = none := by
      rw [findFirst?_eq_map_upTo, not_reads_iff.mp unread, Option.map_none]
    rw [findFirst?_eq_none_iff.mp missed before here split] at found
    contradiction

theorem withText_of_some {scan : Scan α} {taken rest : List Char} {value : α}
    (read : scan (taken ++ rest) = some (value, rest)) :
    withText scan (taken ++ rest) = some ((value, taken), rest) := by
  have cut : (taken ++ rest).take ((taken ++ rest).length - rest.length) = taken := by
    rw [List.length_append, Nat.add_sub_cancel, List.take_left]
  simp only [withText, read, Option.map_some, cut]

theorem withText_reads_iff {scan : Scan α} {text : List Char} : (withText scan).Reads text ↔ scan.Reads text := by
  rw [← not_iff_not, not_reads_iff, not_reads_iff, withText, Option.map_eq_none_iff]

/-- The text of the first reading stands between what is in front of it and what it leaves. -/
theorem findFirst?_withText_eq_some_iff {scan : Scan α}
    (leaves : ∀ text value rest, scan text = some (value, rest) → rest <:+ text) {text taken : List Char} {value : α} :
    findFirst? (withText scan) text = some (value, taken) ↔
      ∃ before rest, text = before ++ (taken ++ rest) ∧ scan (taken ++ rest) = some (value, rest) ∧
        Nowhere scan.Reads before (taken ++ rest) := by
  rw [findFirst?_eq_some_iff]
  constructor
  · rintro ⟨before, here, rest, rfl, read, nowhere⟩
    obtain ⟨⟨other, left⟩, found, same⟩ := Option.map_eq_some_iff.mp read
    obtain ⟨whole, rfl⟩ := leaves here other left found
    obtain ⟨⟨rfl, rfl⟩, rfl⟩ : (value = other ∧ taken = whole) ∧ rest = left := by
      have cut := withText_of_some found
      rw [read] at cut
      simpa using cut
    exact ⟨before, rest, rfl, found, nowhere.mono fun _ => withText_reads_iff.mpr⟩
  · rintro ⟨before, rest, rfl, read, nowhere⟩
    exact ⟨before, _, rest, rfl, withText_of_some read, nowhere.mono fun _ => withText_reads_iff.mp⟩

/-- A later reading ends behind an earlier one. -/
def EndsInOrder (scan : Scan α) : Prop :=
  ∀ before text value rest other left, scan (before ++ text) = some (value, rest) → scan text = some (other, left) →
    left <:+ rest

/-- What is read is found from any place in front of it. -/
def LooksAhead (scan : Scan α) : Prop :=
  ∀ before text, scan.Reads text → scan.Reads (before ++ text)

/-- Readings that take the same number of characters end in order. -/
theorem EndsInOrder.literal (word : String) : EndsInOrder (literal word) := by
  intro before text _ rest _ left read later
  rw [literal_eq_some_iff] at read later
  have front : rest <:+ before ++ text := ⟨word.toList, read.symm⟩
  have back : left <:+ before ++ text := ⟨before ++ word.toList, by rw [later, List.append_assoc]⟩
  have lengths := congrArg List.length read
  rw [later] at lengths
  simp only [List.length_append] at lengths
  exact List.suffix_of_suffix_length_le back front (by omega)

theorem reads_bind_iff {scan : Scan α} {next : Scan β} {text : List Char} :
    (scan >>= fun _ => next).Reads text ↔ ∃ value rest, scan text = some (value, rest) ∧ next.Reads rest := by
  constructor
  · rintro ⟨out, left, read⟩
    obtain ⟨value, rest, first, second⟩ := bind_eq_some_iff.mp read
    exact ⟨value, rest, first, out, left, second⟩
  · rintro ⟨value, rest, first, out, left, second⟩
    exact ⟨out, left, bind_eq_some_iff.mpr ⟨value, rest, first, second⟩⟩

theorem LooksAhead.bind_upTo {stop : Scan α} {next : Scan β} (ordered : EndsInOrder stop) (ahead : LooksAhead next) :
    LooksAhead (upTo stop >>= fun _ => next) := by
  intro before text read
  obtain ⟨⟨front, value⟩, rest, first, second⟩ := reads_bind_iff.mp read
  obtain ⟨here, rfl, found, -⟩ := upTo_eq_some_iff.mp first
  obtain ⟨⟨earlier, other⟩, left, read⟩ : (upTo stop).Reads (before ++ (front ++ here)) :=
    upTo_reads_iff.mpr ⟨before ++ front, here, by rw [List.append_assoc], value, rest, found⟩
  obtain ⟨there, split, foundToo, nowhere⟩ := upTo_eq_some_iff.mp read
  have same : earlier ++ there = (before ++ front) ++ here := by rw [← split, List.append_assoc]
  obtain ⟨more, rfl⟩ := suffix_of_nowhere nowhere ⟨value, rest, found⟩ same
  obtain ⟨between, rfl⟩ := ordered more here other left value rest foundToo found
  exact reads_bind_iff.mpr ⟨_, _, read, ahead between rest second⟩

/-- The first place at which both things are found is the first place of the one. -/
theorem nowhere_bind_iff {scan : Scan α} {next : Scan β} (ordered : EndsInOrder scan) (ahead : LooksAhead next)
    {before here : List Char} (read : (scan >>= fun _ => next).Reads here) :
    Nowhere (scan >>= fun _ => next).Reads before here ↔ Nowhere scan.Reads before here := by
  obtain ⟨value, rest, found, second⟩ := reads_bind_iff.mp read
  constructor
  · intro nowhere
    rw [nowhere_iff] at nowhere ⊢
    rintro front back split nonempty ⟨other, left, earlier⟩
    obtain ⟨between, rfl⟩ := ordered back here other left value rest earlier found
    exact nowhere front back split nonempty (reads_bind_iff.mpr ⟨other, _, earlier, ahead between rest second⟩)
  · intro nowhere
    refine nowhere.mono fun text both => ?_
    obtain ⟨other, left, earlier, -⟩ := reads_bind_iff.mp both
    exact ⟨other, left, earlier⟩

/-- A search for one thing and then for another shows the text from the first place of the one. -/
theorem findFirst?_withText_iff_spansFrom {scan next : Scan Unit} {found : List Char → Prop}
    {span : List Char → List Char → Prop} (same : ∀ text, scan.Reads text ↔ found text) (ordered : EndsInOrder scan)
    (ahead : LooksAhead next)
    (spanned : ∀ text rest, (scan >>= fun _ => next) text = some ((), rest) ↔
      ∃ code, text = code ++ rest ∧ span code rest) {content code : List Char} :
    findFirst? (withText (scan >>= fun _ => next)) content = some ((), code) ↔ SpansFrom found span content code := by
  have leaves (text : List Char) (value : Unit) (rest : List Char)
      (read : (scan >>= fun _ => next) text = some (value, rest)) : rest <:+ text := by
    obtain ⟨whole, rfl, -⟩ := (spanned text rest).mp read
    exact List.suffix_append ..
  have start {text rest : List Char} (read : (scan >>= fun _ => next) text = some ((), rest)) : scan.Reads text := by
    obtain ⟨_, left, read, -⟩ := bind_eq_some_iff.mp read
    exact ⟨_, left, read⟩
  rw [findFirst?_withText_eq_some_iff leaves]
  constructor
  · rintro ⟨before, rest, rfl, read, nowhere⟩
    obtain ⟨whole, split, spans⟩ := (spanned ..).mp read
    rw [← List.append_cancel_right split] at spans
    have first := (nowhere_bind_iff ordered ahead ⟨(), rest, read⟩).mp nowhere
    exact ⟨before, rest, ⟨rfl, (same _).mp (start read), (nowhere_congr same ..).mp first⟩, spans⟩
  · rintro ⟨before, rest, first, spans⟩
    have read := (spanned _ rest).mpr ⟨code, rfl, spans⟩
    refine ⟨before, rest, first.split, read, (nowhere_bind_iff ordered ahead ⟨(), rest, read⟩).mpr ?_⟩
    exact (nowhere_congr same ..).mpr first.first

theorem findFirst?_withText_eq_none_iff {scan : Scan Unit} {content : List Char} {span : List Char → Prop}
    (found : ∀ code, findFirst? (withText scan) content = some ((), code) ↔ span code) :
    findFirst? (withText scan) content = none ↔ ∀ code, ¬span code := by
  rw [Option.eq_none_iff_forall_ne_some]
  exact ⟨fun nothing code spans => nothing _ ((found code).mpr spans),
    fun nothing out same => nothing out.2 ((found out.2).mp same)⟩

end Scan

end StoryCatalog.Text
