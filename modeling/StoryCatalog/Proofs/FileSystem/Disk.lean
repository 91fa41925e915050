import StoryCatalog.FileSystem.Disk
import StoryCatalog.Proofs.Except
import StoryCatalog.Proofs.Path.Wide
import Mathlib.Data.List.Infix

/-!
# Looking at and reading files on a disk

Looking for a file fails for one cause alone, a name that no directory can hold, and reading a file that was
found fails for one cause alone, bytes that are no text. Neither says anything of the texts that are read.
-/

namespace StoryCatalog

open Text

namespace Disk

variable {disk : Disk} {here : List String} {names : List WideText}

/-- A walk along names that directories can hold is not stopped by their length. -/
theorem walk_ne_nameTooLong (short : ∀ name ∈ names, name.byteCount ≤ nameLimit) :
    disk.walk here names ≠ .error .nameTooLong := by
  induction names generalizing here with
  | nil => simp [walk]
  | cons name rest ih =>
    rw [List.forall_mem_cons] at short
    rw [walk, if_neg (Nat.not_lt.mpr short.1)]
    by_cases back : name = ".."
    · rw [if_pos back]
      exact ih short.2
    · rw [if_neg back]
      cases name.fileName? with
      | none => simp
      | some name =>
        cases found : disk.find? (here ++ [name]) with
        | none => simp [found]
        | some entry =>
          cases entry with
          | directory => simpa only [found] using ih short.2
          | file bytes => cases rest <;> simp [found]

open WideText in
/-- A walk goes by the bytes of the names. -/
theorem walk_eq {texts : List String}
    (spelled : List.Forall₂ (fun name text => name.fileName? = some text) names texts) :
    disk.walk here names = disk.walk here (texts.map .whole) := by
  induction spelled generalizing here with
  | nil => rfl
  | @cons name text names texts first others ih =>
    have same := sameBytes_of_fileName? first
    have back : name = ".." ↔ text = ".." := same.eq_iff (by simp)
    have last : names.isEmpty = (texts.map WideText.whole).isEmpty := by cases others <;> rfl
    rw [List.map_cons, walk, walk, same.byteCount_eq, first, last, byteCount_whole, fileName?_whole]
    simp only [back, WideText.whole.injEq, ih]

/-- A walk that arrives has gone by names with the bytes of texts. -/
theorem exists_texts_of_walk {found : List String × DiskEntry} (arrived : disk.walk here names = .ok found) :
    ∃ texts, List.Forall₂ (fun name text => name.fileName? = some text) names texts := by
  induction names generalizing here with
  | nil => exact ⟨[], .nil⟩
  | cons name names ih =>
    rw [walk] at arrived
    by_cases back : name = ".."
    · rw [if_pos back] at arrived
      obtain ⟨texts, others⟩ := ih arrived
      exact ⟨".." :: texts, .cons (back ▸ rfl) others⟩
    · have short : ¬nameLimit < name.byteCount := fun long => by simp [back, long] at arrived
      rw [if_neg back, if_neg short] at arrived
      cases spelled : name.fileName? with
      | none => simp [spelled] at arrived
      | some text =>
        simp only [spelled] at arrived
        split at arrived
        · contradiction
        · obtain ⟨texts, others⟩ := ih arrived
          exact ⟨text :: texts, .cons spelled others⟩
        · cases names with
          | nil => exact ⟨[text], .cons spelled .nil⟩
          | cons next names => contradiction

end Disk

namespace Machine

variable {machine : Machine} {path : WidePath}

/-- The path is longer, or has a longer name on its way, than any file's can be. -/
def TooLong (machine : Machine) (path : WidePath) : Prop :=
  ∃ spelling, machine.locate path = .error (.nameTooLong spelling)

/-- The path leads to a file whose bytes are no text. -/
def Undecodable (machine : Machine) (path : WidePath) : Prop :=
  ∃ names bytes error, machine.locate path = .ok (names, .file bytes) ∧ decodeUtf8 bytes = .error error

theorem isFile?_eq_true_iff :
    machine.isFile? path = .ok true ↔ ∃ names bytes, machine.locate path = .ok (names, .file bytes) := by
  unfold isFile? entry?
  cases located : machine.locate path with
  | error fault => cases fault <;> simp [Except.map]
  | ok found =>
    obtain ⟨names, entry⟩ := found
    cases entry <;> simp [Except.map]

theorem exists_isFile?_eq_error_iff : (∃ fault, machine.isFile? path = .error fault) ↔ machine.TooLong path := by
  unfold isFile? entry? TooLong
  cases machine.locate path with
  | error fault => cases fault <;> simp [Except.map]
  | ok found => simp [Except.map]

/-- Where looking does not fail and no file is found, it is said so. -/
theorem isFile?_eq_false (short : ¬machine.TooLong path) (absent : machine.isFile? path ≠ .ok true) :
    machine.isFile? path = .ok false := by
  cases looked : machine.isFile? path with
  | error fault => exact absurd (exists_isFile?_eq_error_iff.mp ⟨fault, looked⟩) short
  | ok there =>
    cases there with
    | false => rfl
    | true => exact absurd looked absent

/-- A path leads where the path of characters with the same bytes does; without one it leads nowhere. -/
theorem locate_eq_ok_iff {found : List String × DiskEntry} : machine.locate path = .ok found ↔
    ∃ file, path.onDisk? = some file ∧ machine.locate file = .ok found := by
  -- The two paths are refused together, and walked alike.
  have alike {file : SpelledPath} (spelled : path.onDisk? = some file) :
      machine.locate path = .ok found ↔ machine.locate file = .ok found := by
    have same := WidePath.sameBytes_toText spelled
    obtain ⟨root, names⟩ := WidePath.onDisk?_eq_some_iff.mp spelled
    unfold locate
    rw [WideText.pathFault?_eq_none_iff.mpr same.writable, WidePath.hasNul_of_onDisk? spelled, same.byteCount_eq,
      ← root, WidePath.toText_ofSpelled, pathFault?_whole, WidePath.hasNul_ofSpelled, WideText.byteCount_whole]
    dsimp only
    rw [Disk.walk_eq names]
    split
    · rfl
    · split
      · simp
      · rw [mapError_eq_ok_iff, mapError_eq_ok_iff]
        rfl
  constructor
  · intro located
    obtain ⟨texts, names⟩ : ∃ texts, List.Forall₂ (fun name text => name.fileName? = some text) path.names texts := by
      unfold locate at located
      split at located
      · contradiction
      · split at located
        · contradiction
        · split at located
          · contradiction
          · exact Disk.exists_texts_of_walk (mapError_eq_ok_iff.mp located)
    have spelled : path.onDisk? = some ⟨path.root, texts⟩ := WidePath.onDisk?_eq_some_iff.mpr ⟨rfl, names⟩
    exact ⟨_, spelled, (alike spelled).mp located⟩
  · rintro ⟨file, spelled, located⟩
    exact (alike spelled).mpr located

/-- A path leads to a file where the path of characters with the same bytes does. -/
theorem isFile?_wide_iff : machine.isFile? path = .ok true ↔
    ∃ file : SpelledPath, path.onDisk? = some file ∧ machine.isFile? file = .ok true := by
  simp only [isFile?_eq_true_iff]
  constructor
  · rintro ⟨names, bytes, located⟩
    obtain ⟨file, spelled, located⟩ := locate_eq_ok_iff.mp located
    exact ⟨file, spelled, names, bytes, located⟩
  · rintro ⟨file, spelled, names, bytes, located⟩
    exact ⟨names, bytes, locate_eq_ok_iff.mpr ⟨file, spelled, located⟩⟩

/-- A path whose names directories can hold, and which is not too long as a whole, is not too long. -/
theorem not_tooLong (short : ∀ name ∈ path.names, name.byteCount ≤ nameLimit)
    (whole : path.toText.byteCount ≤ pathLimit) : ¬machine.TooLong path := by
  rintro ⟨spelling, failed⟩
  unfold locate at failed
  rw [if_neg (Nat.not_lt.mpr whole)] at failed
  cases written : pathFault? path.toText with
  | some error => simp [written] at failed
  | none =>
    rw [written] at failed
    by_cases nul : path.hasNul = true
    · simp [nul] at failed
    · dsimp only at failed
      rw [if_neg nul] at failed
      obtain ⟨obstacle, stopped, named⟩ := mapError_eq_error_iff.mp failed
      cases obstacle with
      | nameTooLong => exact Disk.walk_ne_nameTooLong short stopped
      | missing => cases named
      | notDirectory => cases named

theorem readText_of_locate {names : List String} {bytes : List UInt8}
    (located : machine.locate path = .ok (names, .file bytes)) :
    machine.readText path = match decodeUtf8 bytes with
      | .ok text => .ok (String.ofList (unifyLineEnds text))
      | .error error => .error (.undecodable error) := by
  unfold readText readBytes
  rw [located]
  rfl

/-- Reading a file that was found fails exactly where its bytes are no text. -/
theorem exists_readText_eq_error_iff (there : machine.isFile? path = .ok true) :
    (∃ fault, machine.readText path = .error fault) ↔ machine.Undecodable path := by
  obtain ⟨names, bytes, located⟩ := isFile?_eq_true_iff.mp there
  rw [readText_of_locate located]
  unfold Undecodable
  rw [located]
  cases decoded : decodeUtf8 bytes with
  | ok text =>
    simp only [reduceCtorEq, exists_false, false_iff]
    rintro ⟨_, _, error, same, failed⟩
    obtain ⟨rfl, rfl⟩ : names = _ ∧ bytes = _ := by simpa using same
    rw [decoded] at failed
    contradiction
  | error error => exact ⟨fun _ => ⟨names, bytes, error, rfl, decoded⟩, fun _ => ⟨_, rfl⟩⟩

/-! ## Finding the absolute path -/

theorem exists_resolve_iff {file : SpelledPath} :
    (∃ resolved, machine.resolve file = .ok resolved) ↔ file.hasNul = false := by
  unfold resolve
  cases file.hasNul <;> simp

/-- A name that does not go back is followed where it can stand in a path. -/
theorem exists_followAll_cons_iff {reached names : List WideText} {name : WideText} (ahead : name ≠ "..")
    (behind : ∀ name ∈ reached, name.Nameable) :
    (∃ found, followAll reached (name :: names) = .ok found) ↔
      name.Nameable ∧ ∃ found, followAll (reached ++ [name]) names = .ok found := by
  rw [followAll, if_neg ahead]
  dsimp only
  cases written : pathFault? (WidePath.toText ⟨.single, reached ++ [name]⟩) with
  | some error =>
    refine iff_of_false ?_ fun followed => ?_
    · rintro ⟨_, failed⟩
      contradiction
    · refine Option.some_ne_none _
        (written.symm.trans (WidePath.pathFault?_toText_eq_none_iff.mpr (List.forall_mem_append.mpr ⟨?_, ?_⟩)))
      · exact fun other member => (behind other member).writable
      · exact List.forall_mem_singleton.mpr followed.1.writable
  | none =>
    rw [WidePath.pathFault?_toText_eq_none_iff] at written
    dsimp only at written ⊢
    by_cases nul : .char '\x00' ∈ name.units
    · have holds : WidePath.hasNul ⟨.single, reached ++ [name]⟩ = true := by
        simp [WidePath.hasNul, nul]
      rw [if_pos holds]
      refine iff_of_false ?_ fun followed => followed.1.no_nul nul
      rintro ⟨_, failed⟩
      contradiction
    · have nameable : name.Nameable := ⟨nul, written name (by simp)⟩
      have on : ∀ other ∈ reached ++ [name], other.Nameable :=
        List.forall_mem_append.mpr ⟨behind, List.forall_mem_singleton.mpr nameable⟩
      have free : ¬WidePath.hasNul ⟨.single, reached ++ [name]⟩ = true := by
        simp only [WidePath.hasNul, List.any_eq_true, List.contains_iff_mem, not_exists, not_and]
        exact fun other member => (on other member).no_nul
      rw [if_neg free, and_iff_right nameable]

/-- Names are followed as long as they can stand in a path. -/
theorem exists_followAll_iff {reached names : List WideText} (behind : ∀ name ∈ reached, name.Nameable) :
    (∃ found, followAll reached names = .ok found) ↔ ∀ name ∈ names, name.Nameable := by
  induction names generalizing reached with
  | nil => simp [followAll]
  | cons name names ih =>
    rw [List.forall_mem_cons]
    by_cases back : name = ".."
    · have nameable : name.Nameable := by
        rw [back, WideText.nameable_whole_iff]
        decide
      rw [followAll, if_pos back, ih fun other member => behind other (List.dropLast_subset _ member),
        and_iff_right nameable]
    · rw [exists_followAll_cons_iff back behind]
      refine and_congr_right fun nameable => ih ?_
      exact List.forall_mem_append.mpr ⟨behind, List.forall_mem_singleton.mpr nameable⟩

/-- A text that is seen from an absolute directory leads somewhere if it can stand in a path. -/
theorem exists_resolveFrom_iff {base : SpelledPath} {text : WideText}
    (plain : base.hasNul = false) (rooted : base.root ≠ .relative) :
    (∃ path, machine.resolveFrom base text = .ok path) ↔ text.Nameable := by
  cases text with
  | whole text =>
    rw [WideText.nameable_whole_iff, ← SpelledPath.hasNul_joinText plain, Bool.not_eq_true, ← exists_resolve_iff]
    change (∃ path, WidePath.ofSpelled <$> machine.resolve (base.joinText text) = .ok path) ↔ _
    cases machine.resolve (base.joinText text) <;> simp
  | halved front half rest =>
    have absolute : (WidePath.joinText base (.halved front half rest)).root ≠ .relative := by
      unfold WidePath.joinText WidePath.join
      split_ifs with relative
      · exact rooted
      · exact relative
    have names : (∀ name ∈ (WidePath.joinText base (.halved front half rest)).names, name.Nameable) ↔
        (WideText.halved front half rest).Nameable := by
      rw [← WidePath.forall_nameable_ofText_iff]
      unfold WidePath.joinText WidePath.join
      split_ifs
      · refine List.forall_mem_append.trans (and_iff_right fun name member => ?_)
        obtain ⟨text, inside, rfl⟩ := List.mem_map.mp member
        rw [WideText.nameable_whole_iff]
        exact fun nul => Bool.eq_false_iff.mp plain (SpelledPath.hasNul_iff.mpr ⟨text, inside, nul⟩)
      · rfl
    unfold resolveFrom
    dsimp only
    rw [if_neg absolute, List.map_nil, ← names, ← exists_followAll_iff fun _ member => absurd member List.not_mem_nil]
    cases followAll [] (WidePath.joinText base (.halved front half rest)).names <;> simp

end Machine

end StoryCatalog
