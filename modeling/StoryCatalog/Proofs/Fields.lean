import StoryCatalog.Fields
import Mathlib.Data.List.Forall2
import Mathlib.Data.List.Induction
import Mathlib.Data.List.Nodup

/-!
# What writing fields leaves

Of the values written under one key the last stays, in the place of the first. Keys that are all
different are written one after the other. Writing a whole mapping does what writing its pairs did. Two
mappings are related where they have the same keys in the same order and related values under each; writing
the same keys with related values keeps this so, whichever of them repeat.
-/

namespace StoryCatalog

namespace Fields

variable {α β κ : Type} [DecidableEq κ]

theorem ofList_append_singleton (pairs : List (κ × α)) (key : κ) (value : α) :
    ofList (pairs ++ [(key, value)]) = (ofList pairs).put key value := by
  simp [ofList, putAll]

/-- Each key keeps the place of its first writing. -/
theorem keys_ofList (pairs : List (κ × α)) : (ofList pairs).keys = (pairs.map (·.1)).eraseDups := by
  induction pairs using List.reverseRecOn with
  | nil => rfl
  | append_singleton pairs pair ih =>
    obtain ⟨key, value⟩ := pair
    rw [ofList_append_singleton, keys_put, ih, List.map_append, List.eraseDups_append]
    by_cases present : key ∈ pairs.map (·.1)
    · simp [List.removeAll, present]
    · simp [List.removeAll, present, List.eraseDups_cons]

/-- The value under a key is the one that was written last. -/
theorem get?_ofList (pairs : List (κ × α)) (key : κ) :
    (ofList pairs).get? key = pairs.reverse.lookup key := by
  induction pairs using List.reverseRecOn with
  | nil => rfl
  | append_singleton pairs pair ih =>
    obtain ⟨written, value⟩ := pair
    rw [ofList_append_singleton, List.reverse_append, List.reverse_singleton, List.singleton_append,
      List.lookup_cons]
    by_cases same : key = written
    · subst same
      rw [get?_put_self, beq_self_eq_true]
    · rw [get?_put_of_ne _ _ same, ih, beq_eq_false_iff_ne.mpr same]

theorem nodup_keys_put {fields : Fields α κ} (distinct : fields.keys.Nodup) (key : κ) (value : α) :
    (fields.put key value).keys.Nodup := by
  rw [keys_put]
  split_ifs with present
  · exact distinct
  · rw [← List.concat_eq_append]
    exact distinct.concat present

theorem nodup_keys_ofList (pairs : List (κ × α)) : (ofList pairs).keys.Nodup := by
  induction pairs using List.reverseRecOn with
  | nil => exact List.nodup_nil
  | append_singleton pairs pair ih =>
    rw [ofList_append_singleton]
    exact nodup_keys_put ih _ _

theorem mem_putIn {key : κ} {value : α} {entries : List (κ × α)} {pair : κ × α}
    (member : pair ∈ putIn key value entries) : pair = (key, value) ∨ pair ∈ entries := by
  induction entries with
  | nil => exact .inl (List.mem_singleton.mp member)
  | cons entry entries ih =>
    rw [putIn] at member
    split_ifs at member with same
    · rcases List.mem_cons.mp member with rfl | later
      · exact .inl (by rw [same])
      · exact .inr (List.mem_cons_of_mem _ later)
    · rcases List.mem_cons.mp member with rfl | later
      · exact .inr (List.mem_cons_self ..)
      · exact (ih later).imp_right (List.mem_cons_of_mem _)

/-- Nothing but what was written is there. -/
theorem mem_of_mem_ofList {pairs : List (κ × α)} {pair : κ × α}
    (member : pair ∈ (ofList pairs).entries) : pair ∈ pairs := by
  induction pairs using List.reverseRecOn with
  | nil => contradiction
  | append_singleton pairs last ih =>
    obtain ⟨key, value⟩ := last
    rw [ofList_append_singleton] at member
    rcases mem_putIn member with rfl | earlier
    · exact List.mem_append_right _ (List.mem_singleton.mpr rfl)
    · exact List.mem_append_left _ (ih earlier)

/-! ## Writing on -/

theorem ofList_append (pairs more : List (κ × α)) : ofList (pairs ++ more) = (ofList pairs).putAll more := by
  simp [ofList, putAll]

/-- Of two writings under one key in a row the first leaves nothing. -/
theorem put_put (fields : Fields α κ) (key : κ) (first second : α) :
    (fields.put key first).put key second = fields.put key second := by
  obtain ⟨entries⟩ := fields
  simp only [put, mk.injEq]
  induction entries with
  | nil => simp [putIn]
  | cons pair entries ih =>
    by_cases same : pair.1 = key
    · simp [putIn, same]
    · simp [putIn, same, ih]

/-- A key that has its place may be written before or after another one. -/
theorem put_comm {fields : Fields α κ} {key other : κ} (present : key ∈ fields.keys) (differ : key ≠ other)
    (value more : α) : (fields.put other more).put key value = (fields.put key value).put other more := by
  obtain ⟨entries⟩ := fields
  simp only [put, keys, mk.injEq] at present ⊢
  induction entries with
  | nil => exact absurd present List.not_mem_nil
  | cons pair entries ih =>
    obtain ⟨name, held⟩ := pair
    by_cases here : name = key
    · subst here
      simp [putIn, differ]
    · have later : key ∈ entries.map (·.1) :=
        (List.mem_cons.mp present).resolve_left fun same => here same.symm
      by_cases same : name = other
      · subst same
        simp [putIn, here]
      · simp [putIn, here, same, ih later]

theorem put_putAll {fields : Fields α κ} {key : κ} (present : key ∈ fields.keys) {pairs : List (κ × α)}
    (differ : ∀ pair ∈ pairs, pair.1 ≠ key) (value : α) :
    (fields.putAll pairs).put key value = (fields.put key value).putAll pairs := by
  induction pairs generalizing fields with
  | nil => rfl
  | cons pair pairs ih =>
    rw [List.forall_mem_cons] at differ
    have kept : key ∈ (fields.put pair.1 pair.2).keys := by
      rw [keys_put]
      split_ifs
      · exact present
      · exact List.mem_append_left _ present
    calc
      (fields.putAll (pair :: pairs)).put key value
      _ = ((fields.put pair.1 pair.2).put key value).putAll pairs := ih kept differ.2
      _ = ((fields.put key value).put pair.1 pair.2).putAll pairs := by
        rw [put_comm present (Ne.symm differ.1)]

theorem putAll_putIn (fields : Fields α κ) {entries : List (κ × α)} (distinct : (entries.map (·.1)).Nodup)
    (key : κ) (value : α) : fields.putAll (putIn key value entries) = (fields.putAll entries).put key value := by
  induction entries generalizing fields with
  | nil => rfl
  | cons pair entries ih =>
    obtain ⟨name, held⟩ := pair
    rw [List.map_cons, List.nodup_cons] at distinct
    rw [putIn]
    split_ifs with same
    · subst same
      have differ : ∀ pair ∈ entries, pair.1 ≠ name := by
        rintro pair member rfl
        exact distinct.1 (List.mem_map.mpr ⟨pair, member, rfl⟩)
      have present : name ∈ (fields.put name held).keys := by
        rw [keys_put]
        split_ifs with there
        · exact there
        · exact List.mem_append_right _ (List.mem_singleton.mpr rfl)
      calc
        fields.putAll ((name, value) :: entries)
        _ = ((fields.put name held).put name value).putAll entries := by
          rw [put_put]
          rfl
        _ = ((fields.put name held).putAll entries).put name value := (put_putAll present differ value).symm
    · exact ih (fields.put name held) distinct.2

/-- Writing what pairs come to is the same as writing the pairs. -/
theorem putAll_ofList (fields : Fields α κ) (pairs : List (κ × α)) :
    fields.putAll (ofList pairs).entries = fields.putAll pairs := by
  induction pairs using List.reverseRecOn with
  | nil => rfl
  | append_singleton pairs pair ih =>
    obtain ⟨key, value⟩ := pair
    have written : fields.putAll (pairs ++ [(key, value)]) = (fields.putAll pairs).put key value := by
      simp [putAll]
    rw [ofList_append_singleton, put, putAll_putIn fields (nodup_keys_ofList pairs), ih, written]

theorem getElem?_putIn {key name : κ} {value other : α} {entries : List (κ × α)} {i : ℕ}
    (there : entries[i]? = some (name, value)) (differ : key ≠ name) :
    (putIn key other entries)[i]? = some (name, value) := by
  induction entries generalizing i with
  | nil => simp at there
  | cons entry entries ih =>
    rw [putIn]
    cases i with
    | zero =>
      rw [List.getElem?_cons_zero, Option.some.injEq] at there
      subst there
      rw [if_neg (Ne.symm differ), List.getElem?_cons_zero]
    | succ i =>
      rw [List.getElem?_cons_succ] at there
      split_ifs
      · rwa [List.getElem?_cons_succ]
      · rw [List.getElem?_cons_succ]
        exact ih there

/-- What is written under other keys moves no entry and changes none. -/
theorem getElem?_putAll {fields : Fields α κ} {name : κ} {value : α} {i : ℕ} {pairs : List (κ × α)}
    (there : fields.entries[i]? = some (name, value)) (differ : ∀ pair ∈ pairs, pair.1 ≠ name) :
    (fields.putAll pairs).entries[i]? = some (name, value) := by
  induction pairs generalizing fields with
  | nil => exact there
  | cons pair pairs ih =>
    rw [List.forall_mem_cons] at differ
    have written : (fields.put pair.1 pair.2).entries[i]? = some (name, value) := getElem?_putIn there differ.1
    exact ih written differ.2

/-! ## Relations -/

/-- One name, and values that are related. -/
def RelPair (R : α → β → Prop) (pair : κ × α) (other : κ × β) : Prop :=
  pair.1 = other.1 ∧ R pair.2 other.2

/-- The same keys in the same order, with related values. -/
def Rel (R : α → β → Prop) (fields : Fields α κ) (others : Fields β κ) : Prop :=
  List.Forall₂ (RelPair R) fields.entries others.entries

theorem putIn_rel {R : α → β → Prop} {entries : List (κ × α)} {others : List (κ × β)}
    (related : List.Forall₂ (RelPair R) entries others) (key : κ) {value : α} {other : β}
    (held : R value other) : List.Forall₂ (RelPair R) (putIn key value entries) (putIn key other others) := by
  induction related with
  | nil => exact .cons ⟨rfl, held⟩ .nil
  | @cons first second entries others same _ ih =>
    obtain ⟨k, v⟩ := first
    obtain ⟨k', w⟩ := second
    obtain ⟨rfl, values⟩ := same
    simp only [putIn]
    split_ifs
    · exact .cons ⟨rfl, held⟩ ‹_›
    · exact .cons ⟨rfl, values⟩ ih

theorem putAll_rel {R : α → β → Prop} {fields : Fields α κ} {others : Fields β κ} (related : fields.Rel R others)
    {pairs : List (κ × α)} {otherPairs : List (κ × β)}
    (same : List.Forall₂ (RelPair R) pairs otherPairs) :
    (fields.putAll pairs).Rel R (others.putAll otherPairs) := by
  induction same generalizing fields others with
  | nil => exact related
  | @cons first second pairs otherPairs held _ ih =>
    obtain ⟨k, v⟩ := first
    obtain ⟨k', w⟩ := second
    obtain ⟨rfl, values⟩ := held
    exact ih (putIn_rel related k values)

/-- Related pairs make related mappings, also where names repeat. -/
theorem ofList_rel {R : α → β → Prop} {pairs : List (κ × α)} {others : List (κ × β)}
    (same : List.Forall₂ (RelPair R) pairs others) : (ofList pairs).Rel R (ofList others) :=
  putAll_rel .nil same

omit [DecidableEq κ] in
theorem Rel.flip {R : α → β → Prop} {fields : Fields α κ} {others : Fields β κ} (related : fields.Rel R others) :
    others.Rel (fun other value => R value other) fields :=
  (List.Forall₂.flip related).imp fun _ _ held => ⟨held.1.symm, held.2⟩

omit [DecidableEq κ] in
/-- Relations compose key by key. -/
theorem Rel.trans {γ : Type} {R : α → β → Prop} {S : β → γ → Prop} {T : α → γ → Prop}
    (compose : ∀ a b c, R a b → S b c → T a c) {fields : Fields α κ} {others : Fields β κ} {more : Fields γ κ}
    (first : fields.Rel R others) (second : others.Rel S more) : fields.Rel T more := by
  unfold Rel at first second ⊢
  generalize fields.entries = start, others.entries = middle, more.entries = last at first second ⊢
  induction first generalizing last with
  | nil =>
    cases second with
    | nil => exact .nil
  | cons held _ ih =>
    cases second with
    | cons also later => exact .cons ⟨held.1.trans also.1, compose _ _ _ held.2 also.2⟩ (ih _ later)

omit [DecidableEq κ] in
/-- Where a value determines what it is related to, so does a mapping. -/
theorem Rel.unique {R : α → β → Prop} (determined : ∀ value first second, R value first → R value second →
    first = second) {fields : Fields α κ} {others more : Fields β κ} (first : fields.Rel R others)
    (second : fields.Rel R more) : others = more := by
  obtain ⟨others⟩ := others
  obtain ⟨more⟩ := more
  suffices same : others = more by rw [same]
  simp only [Rel] at first second
  generalize fields.entries = entries at first second
  induction first generalizing more with
  | nil => exact (List.forall₂_nil_left_iff.mp second).symm
  | cons held _ ih =>
    obtain ⟨pair, pairs, heldToo, later, rfl⟩ := List.forall₂_cons_left_iff.mp second
    rw [ih pairs later, Prod.ext (held.1.symm.trans heldToo.1) (determined _ _ _ held.2 heldToo.2)]

/-! ## Keys that differ -/

theorem putIn_of_not_mem {key : κ} {entries : List (κ × α)} (fresh : key ∉ entries.map (·.1))
    (value : α) : putIn key value entries = entries ++ [(key, value)] := by
  induction entries with
  | nil => rfl
  | cons pair entries ih =>
    rw [List.map_cons, List.mem_cons, not_or] at fresh
    rw [putIn, if_neg (Ne.symm fresh.1), ih fresh.2, List.cons_append]

theorem putAll_of_nodup (fields : Fields α κ) {pairs : List (κ × α)}
    (distinct : (fields.entries ++ pairs).map (·.1) |>.Nodup) :
    fields.putAll pairs = ⟨fields.entries ++ pairs⟩ := by
  induction pairs generalizing fields with
  | nil => simp [putAll]
  | cons pair pairs ih =>
    have fresh : pair.1 ∉ fields.entries.map (·.1) := by
      rw [List.map_append, List.map_cons, List.nodup_append] at distinct
      exact fun member => distinct.2.2 _ member _ (List.mem_cons_self ..) rfl
    have written : fields.put pair.1 pair.2 = ⟨fields.entries ++ [pair]⟩ := by
      rw [put, putIn_of_not_mem fresh]
    change (fields.put pair.1 pair.2).putAll pairs = _
    rw [written, ih _ (by simpa using distinct)]
    simp

/-- Pairs whose names are all different are a mapping as they stand. -/
theorem ofList_of_nodup {pairs : List (κ × α)} (distinct : (pairs.map (·.1)).Nodup) :
    ofList pairs = ⟨pairs⟩ := by
  exact putAll_of_nodup ⟨[]⟩ (by simpa using distinct)

/-- Where no name repeats, each value is found under its name. -/
theorem get?_eq_some_iff {fields : Fields α κ} (distinct : fields.keys.Nodup) {key : κ} {value : α} :
    fields.get? key = some value ↔ (key, value) ∈ fields.entries := by
  obtain ⟨entries⟩ := fields
  simp only [get?, keys] at distinct ⊢
  induction entries with
  | nil => simp
  | cons pair entries ih =>
    obtain ⟨name, first⟩ := pair
    rw [List.map_cons, List.nodup_cons] at distinct
    rw [List.lookup_cons]
    by_cases same : key = name
    · subst same
      have later : (key, value) ∉ entries := fun member => distinct.1 (List.mem_map.mpr ⟨_, member, rfl⟩)
      simp [later, eq_comm]
    · rw [beq_eq_false_iff_ne.mpr same]
      simp only [ih distinct.2, List.mem_cons, Prod.mk.injEq, same, false_and, false_or]

/-- A change of one key's value leaves the values of the others. -/
theorem get?_modify (fields : Fields α κ) (key name : κ) (f : α → α) :
    (fields.modify key f).get? name = if name = key then (fields.get? name).map f else fields.get? name := by
  obtain ⟨entries⟩ := fields
  simp only [get?, modify]
  induction entries with
  | nil => simp
  | cons pair entries ih =>
    obtain ⟨first, value⟩ := pair
    have renamed : (if first = key then (first, f value) else (first, value)) =
        (first, if first = key then f value else value) := by
      split_ifs <;> rfl
    simp only [List.map_cons, renamed, List.lookup_cons, ih]
    by_cases here : name = first
    · subst here
      split_ifs <;> simp
    · simp [beq_eq_false_iff_ne.mpr here]

end Fields

end StoryCatalog
