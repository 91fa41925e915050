import StoryCatalog.Proofs.FileSystem.Disk
import StoryCatalog.Proofs.FileSystem.Memory
import StoryCatalog.Proofs.Path.Spelled
import Mathlib.Data.List.Induction

/-!
# One tree of files, on a disk and in memory

The same files are put on a disk, where paths lead through directories to bytes, and in memory, where texts
stand under normal forms. A path in normal form that a disk could hold finds the same file in both, or none in
either, also where it leads to a directory or through a file. Paths beyond the limits of a disk are left out.
-/

namespace StoryCatalog

open Text

/-- A regular file: the names on the way to it, its bytes, and the text that they stand for. -/
structure SourceFile where
  names : List String
  names_ne : names ≠ []
  named : ∀ name ∈ names, NormalPath.IsName name
  bytes : List UInt8
  text : String
  decoded : decodeUtf8 bytes = .ok text.toList
  no_return : '\r' ∉ text.toList

/-- None of the two stands in the place of the other, or of a directory that leads to it. -/
def SourceFile.Apart (file other : SourceFile) : Prop :=
  ¬file.names <+: other.names ∧ ¬other.names <+: file.names

instance (file other : SourceFile) : Decidable (file.Apart other) :=
  inferInstanceAs (Decidable (_ ∧ _))

def SourceFile.path (file : SourceFile) : NormalPath :=
  ⟨false, file.names⟩

theorem SourceFile.canonical_path (file : SourceFile) : file.path.Canonical :=
  file.named

def Disk.ofFiles (files : List SourceFile) : Disk :=
  files.foldl (fun disk file => disk.addFile file.names file.bytes) {}

def MemoryFiles.ofFiles (files : List SourceFile) : MemoryFiles :=
  .ofList (files.map fun file => (file.path.toText, file.text))

/-- A finite tree of regular files. -/
structure SourceTree where
  files : List SourceFile
  apart : files.Pairwise SourceFile.Apart

namespace Disk

variable {disk : Disk} {files : List SourceFile}

theorem find?_nil (disk : Disk) : disk.find? [] = some .directory := rfl

theorem find?_put {names : List String} (nonempty : names ≠ []) (entry : DiskEntry) (place : List String) :
    (disk.put names entry).find? place = if place = names then some entry else disk.find? place := by
  unfold find? put
  by_cases root : place = []
  · subst root
    simp [Ne.symm nonempty]
  · by_cases same : place = names
    · simp [same, nonempty]
    · simp [root, same, List.lookup_cons, beq_eq_false_iff_ne.mpr same]

/-- The disk with a directory at a place where nothing is yet. -/
def withDirectory (disk : Disk) (names : List String) : Disk :=
  if (disk.find? names).isSome then disk else disk.put names .directory

theorem find?_withDirectory {names : List String} (nonempty : names ≠ []) (place : List String) :
    (disk.withDirectory names).find? place =
      (disk.find? place).or (if place = names then some .directory else none) := by
  unfold withDirectory
  by_cases same : place = names
  · subst same
    cases there : disk.find? place <;> simp [there, find?_put nonempty]
  · split_ifs <;> simp [find?_put nonempty, same]

theorem find?_foldl_withDirectory {places : List (List String)} (nonempty : [] ∉ places) (place : List String) :
    (places.foldl withDirectory disk).find? place =
      (disk.find? place).or (if place ∈ places then some .directory else none) := by
  induction places generalizing disk with
  | nil => simp
  | cons first places ih =>
    rw [List.mem_cons, not_or] at nonempty
    rw [List.foldl_cons, ih nonempty.2, find?_withDirectory (Ne.symm nonempty.1), Option.or_assoc]
    by_cases same : place = first <;> simp [same]

theorem addDirectories_eq (names : List String) :
    disk.addDirectories names =
      ((List.range names.length).map fun n => names.take (n + 1)).foldl withDirectory disk := by
  unfold addDirectories
  congr 1
  funext disk names
  unfold withDirectory
  cases disk.find? names <;> rfl

/-- Directories are made where nothing is yet, and nothing else changes. -/
theorem find?_addDirectories (names place : List String) :
    (disk.addDirectories names).find? place =
      (disk.find? place).or (if place <+: names then some .directory else none) := by
  have nonempty : [] ∉ (List.range names.length).map fun n => names.take (n + 1) := by
    simp only [List.mem_map, List.mem_range, not_exists, not_and]
    intro n within empty
    have long := congrArg List.length empty
    rw [List.length_take, List.length_nil] at long
    omega
  rw [addDirectories_eq, find?_foldl_withDirectory nonempty]
  by_cases root : place = []
  · simp [root, find?_nil]
  · have listed : place ∈ (List.range names.length).map (fun n => names.take (n + 1)) ↔ place <+: names := by
      simp only [List.mem_map, List.mem_range]
      constructor
      · rintro ⟨n, -, rfl⟩
        exact List.take_prefix ..
      · intro leading
        have some_name := List.length_pos_iff.mpr root
        have long := leading.length_le
        refine ⟨place.length - 1, by omega, ?_⟩
        rw [Nat.sub_add_cancel some_name]
        exact (List.prefix_iff_eq_take.mp leading).symm
    simp only [listed]

/-! ## What a disk holds -/

/-- The disk holds these files, the directories that lead to them, and no other file. -/
structure Holds (disk : Disk) (files : List SourceFile) : Prop where
  file : ∀ file ∈ files, disk.find? file.names = some (.file file.bytes)
  directory : ∀ file ∈ files, ∀ names, names <+: file.names → names ≠ file.names →
    disk.find? names = some .directory
  nothing_else : ∀ names bytes, disk.find? names = some (.file bytes) → ∃ file ∈ files, file.names = names

theorem holds_empty : Holds {} [] where
  file := by simp
  directory := by simp
  nothing_else := by
    intro names bytes found
    by_cases root : names = []
    · simp [root, find?_nil] at found
    · simp [find?, root] at found

theorem Holds.addFile (holds : disk.Holds files) {new : SourceFile} (apart : ∀ file ∈ files, file.Apart new) :
    (disk.addFile new.names new.bytes).Holds (files ++ [new]) := by
  have added (place : List String) : (disk.addFile new.names new.bytes).find? place =
      if place = new.names then some (.file new.bytes)
      else (disk.find? place).or (if place <+: new.names.dropLast then some .directory else none) := by
    rw [Disk.addFile, find?_put new.names_ne, find?_addDirectories]
  refine ⟨?_, ?_, ?_⟩
  · intro file member
    rw [added]
    rcases List.mem_append.mp member with old | fresh
    · have other : file.names ≠ new.names := fun same => (apart file old).1 (same ▸ List.prefix_refl _)
      rw [if_neg other, holds.file file old, Option.some_or]
    · rw [List.mem_singleton.mp fresh, if_pos rfl]
  · intro file member names leading proper
    rw [added]
    rcases List.mem_append.mp member with old | fresh
    · have other : names ≠ new.names := fun same => (apart file old).2 (same ▸ leading)
      rw [if_neg other, holds.directory file old names leading proper, Option.some_or]
    · rw [List.mem_singleton.mp fresh] at leading proper
      rw [if_neg proper]
      have within : names <+: new.names.dropLast := by
        have split := List.dropLast_append_getLast new.names_ne
        rw [← split] at leading
        exact (List.prefix_concat_iff.mp leading).resolve_left (by rwa [split])
      cases there : disk.find? names with
      | none => rw [Option.none_or, if_pos within]
      | some entry =>
        cases entry with
        | directory => rfl
        | file bytes =>
          -- A file in the place of a directory on the way would not be apart from the new one.
          obtain ⟨other, old, rfl⟩ := holds.nothing_else names bytes there
          exact absurd leading (apart other old).1
  · intro names bytes found
    rw [added] at found
    by_cases same : names = new.names
    · exact ⟨new, by simp, same.symm⟩
    · rw [if_neg same] at found
      cases there : disk.find? names with
      | none =>
        rw [there, Option.none_or] at found
        split_ifs at found
        simp at found
      | some entry =>
        rw [there, Option.some_or, Option.some.injEq] at found
        subst found
        obtain ⟨file, old, named⟩ := holds.nothing_else names bytes there
        exact ⟨file, List.mem_append_left _ old, named⟩

theorem holds_ofFiles (apart : files.Pairwise SourceFile.Apart) : (ofFiles files).Holds files := by
  induction files using List.reverseRecOn with
  | nil => exact holds_empty
  | append_singleton files new ih =>
    rw [List.pairwise_append] at apart
    have step : ofFiles (files ++ [new]) = (ofFiles files).addFile new.names new.bytes := by
      simp [ofFiles]
    rw [step]
    exact (ih apart.1).addFile fun file member => apart.2.2 file member new (List.mem_singleton.mpr rfl)

/-! ## Walks -/

theorem walk_cons_whole (here : List String) (name : String) (rest : List WideText) :
    disk.walk here (.whole name :: rest) =
      if name = ".." then disk.walk here.dropLast rest
      else if nameLimit < name.utf8ByteSize then .error .nameTooLong
      else
        match disk.find? (here ++ [name]) with
        | none => .error .missing
        | some .directory => disk.walk (here ++ [name]) rest
        | some (.file bytes) =>
          if rest.isEmpty then .ok (here ++ [name], .file bytes) else .error .notDirectory := by
  rw [walk]
  by_cases back : name = ".."
  · simp [back]
  · have wide : WideText.whole name ≠ ".." := by simpa using back
    exact (if_neg wide).trans (if_neg back).symm

/-- A walk along the names of a file arrives at it. -/
theorem Holds.walk_of_file (holds : disk.Holds files) {file : SourceFile} (member : file ∈ files)
    {here names : List String} (onward : here ++ names = file.names) (nonempty : names ≠ [])
    (short : ∀ name ∈ names, name.utf8ByteSize ≤ nameLimit) :
    disk.walk here (names.map .whole) = .ok (file.names, .file file.bytes) := by
  induction names generalizing here with
  | nil => contradiction
  | cons name rest ih =>
    rw [List.forall_mem_cons] at short
    have forward : name ≠ ".." := (file.named name (onward ▸ by simp)).ne_parent
    have next : here ++ [name] ++ rest = file.names := by rw [List.append_assoc]; exact onward
    rw [List.map_cons, walk_cons_whole, if_neg forward, if_neg (Nat.not_lt.mpr short.1)]
    cases rest with
    | nil =>
      rw [List.append_nil] at next
      rw [next, holds.file file member]
      rfl
    | cons following rest =>
      have leading : here ++ [name] <+: file.names := ⟨_, next⟩
      have proper : here ++ [name] ≠ file.names := by
        intro same
        rw [← next] at same
        exact List.cons_ne_nil _ _ (List.append_cancel_left ((List.append_nil _).trans same)).symm
      rw [holds.directory file member _ leading proper]
      exact ih next (List.cons_ne_nil following rest) short.2

/-- A walk along names that no file has arrives at none. -/
theorem Holds.walk_ne_file (holds : disk.Holds files) {here names : List String}
    (forward : ∀ name ∈ names, name ≠ "..") (absent : ∀ file ∈ files, file.names ≠ here ++ names)
    (place : List String) (bytes : List UInt8) :
    disk.walk here (names.map .whole) ≠ .ok (place, .file bytes) := by
  induction names generalizing here with
  | nil => simp [walk]
  | cons name rest ih =>
    rw [List.forall_mem_cons] at forward
    rw [List.map_cons, walk_cons_whole, if_neg forward.1]
    by_cases long : nameLimit < name.utf8ByteSize
    · rw [if_pos long]
      simp
    · rw [if_neg long]
      cases there : disk.find? (here ++ [name]) with
      | none => simp
      | some entry =>
        cases entry with
        | directory => exact ih forward.2 (by simpa using absent)
        | file found =>
          obtain ⟨file, member, named⟩ := holds.nothing_else _ _ there
          cases rest with
          | nil => exact absurd named (absent file member)
          | cons following rest => simp

end Disk

/-! ## Files in memory -/

namespace MemoryFiles

variable {files : List SourceFile}

theorem get?_write_canonical (files : MemoryFiles) {written path : NormalPath} (canonical : written.Canonical)
    (other : path.Canonical) (content : String) :
    (files.write written.toText content).get? path.toText =
      if path = written then some content else files.get? path.toText := by
  unfold get? write
  rw [NormalPath.resolveIn_toText _ canonical, NormalPath.resolveIn_toText _ other, List.lookup_cons]
  by_cases same : path = written
  · simp [same]
  · simp [same, beq_eq_false_iff_ne.mpr same]

theorem ofFiles_concat (files : List SourceFile) (new : SourceFile) :
    ofFiles (files ++ [new]) = (ofFiles files).write new.path.toText new.text := by
  simp [ofFiles, ofList]

/-- A file is found by the text of its path. -/
theorem get?_ofFiles_of_file (apart : files.Pairwise SourceFile.Apart) {file : SourceFile}
    (member : file ∈ files) : (ofFiles files).get? file.path.toText = some file.text := by
  induction files using List.reverseRecOn with
  | nil => contradiction
  | append_singleton files new ih =>
    rw [List.pairwise_append] at apart
    rw [ofFiles_concat, get?_write_canonical _ new.canonical_path file.canonical_path]
    rcases List.mem_append.mp member with old | fresh
    · have other : file.path ≠ new.path := by
        intro same
        have names : file.names = new.names := congrArg NormalPath.names same
        exact (apart.2.2 file old new (List.mem_singleton.mpr rfl)).1 (names ▸ List.prefix_refl _)
      rw [if_neg other, ih apart.1 old]
    · rw [List.mem_singleton.mp fresh, if_pos rfl]

theorem get?_ofFiles_eq_none {path : NormalPath} (canonical : path.Canonical)
    (absent : ∀ file ∈ files, file.path ≠ path) : (ofFiles files).get? path.toText = none := by
  induction files using List.reverseRecOn with
  | nil => rfl
  | append_singleton files new ih =>
    rw [List.forall_mem_append] at absent
    rw [ofFiles_concat, get?_write_canonical _ new.canonical_path canonical,
      if_neg (Ne.symm (absent.2 new (List.mem_singleton.mpr rfl))), ih absent.1]

end MemoryFiles

/-! ## Paths that a disk could hold -/

/-- A path from the one root, within the limits that a disk sets to paths and names. -/
structure Ordinary (path : String) : Prop where
  one_root : ¬"//".toList <+: path.toList
  no_nul : '\x00' ∉ path.toList
  short_names : ∀ name ∈ NormalPath.components path.toList, name.utf8ByteSize ≤ nameLimit
  short : path.utf8ByteSize ≤ pathLimit

instance (path : String) : Decidable (Ordinary path) :=
  decidable_of_iff (¬"//".toList <+: path.toList ∧ '\x00' ∉ path.toList ∧
      (∀ name ∈ NormalPath.components path.toList, name.utf8ByteSize ≤ nameLimit) ∧
        path.utf8ByteSize ≤ pathLimit)
    ⟨fun ⟨one_root, no_nul, short_names, short⟩ => ⟨one_root, no_nul, short_names, short⟩,
      fun ⟨one_root, no_nul, short_names, short⟩ => ⟨one_root, no_nul, short_names, short⟩⟩

namespace NormalPath

variable {path : NormalPath}

theorem doubled_eq_false (ordinary : Ordinary path.toText) : path.doubled = false := by
  refine Bool.eq_false_iff.mpr fun doubled => ordinary.one_root ?_
  rw [toList_toText, if_pos doubled]
  exact List.prefix_append ..

theorem short_names_of_ordinary (canonical : path.Canonical) (ordinary : Ordinary path.toText) :
    ∀ name ∈ path.names, name.utf8ByteSize ≤ nameLimit := by
  intro name member
  have same : (SpelledPath.ofText path.toText).names = path.names :=
    congrArg SpelledPath.names (ofText_toText canonical)
  rw [← same] at member
  exact ordinary.short_names name (List.mem_of_mem_filter member)

end NormalPath

namespace Machine

variable {machine : Machine} {path : NormalPath}

/-- An ordinary path in normal form is walked from the root, wherever the program runs. -/
theorem locate_ofText (canonical : path.Canonical) (ordinary : Ordinary path.toText) :
    machine.locate (SpelledPath.ofText path.toText) =
      (machine.disk.walk [] (path.names.map .whole)).mapError (Obstacle.at path.toText) := by
  have absolute : path.spelled.root ≠ .relative := by
    unfold NormalPath.spelled
    split_ifs <;> exact PathRoot.noConfusion
  have whole : (SpelledPath.ofText path.toText).hasNul = false :=
    Bool.eq_false_iff.mpr fun nul => ordinary.no_nul (SpelledPath.hasNul_ofText.mp nul)
  unfold locate
  rw [WidePath.toText_ofSpelled, WidePath.hasNul_ofSpelled, whole, NormalPath.ofText_toText canonical,
    NormalPath.toText_spelled, pathFault?_whole]
  dsimp only
  rw [if_neg Bool.false_ne_true, WideText.byteCount_whole, if_neg (Nat.not_lt.mpr ordinary.short),
    if_neg (show (WidePath.ofSpelled path.spelled).root ≠ .relative from absolute)]
  rfl

theorem not_tooLong_of_ordinary (canonical : path.Canonical) (ordinary : Ordinary path.toText) :
    ¬machine.TooLong (SpelledPath.ofText path.toText) := by
  rw [NormalPath.ofText_toText canonical]
  refine not_tooLong (List.forall_mem_map.mpr (NormalPath.short_names_of_ordinary canonical ordinary)) ?_
  rw [WidePath.toText_ofSpelled, NormalPath.toText_spelled]
  exact ordinary.short

end Machine

/-! ## One tree in two places -/

/-- Both file systems say the same of a path: whether a file is there, and if one is, what is in it. -/
structure FileSystem.Alike (fs other : FileSystem) (path : String) : Prop where
  isFile : fs.isFile path = other.isFile path
  readFile? : fs.readFile? path = other.readFile? path

theorem FileSystem.Alike.symm {fs other : FileSystem} {path : String} (alike : fs.Alike other path) :
    other.Alike fs path :=
  ⟨alike.isFile.symm, alike.readFile?.symm⟩

theorem unifyLineEnds_eq_self {text : List Char} (no_return : '\r' ∉ text) : unifyLineEnds text = text := by
  induction text with
  | nil => rfl
  | cons c rest ih =>
    rw [List.mem_cons, not_or] at no_return
    rw [unifyLineEnds, ih no_return.2]
    · rintro _ rfl
      exact absurd rfl no_return.1
    · rintro rfl
      exact absurd rfl no_return.1

namespace Machine

variable {machine : Machine} {files : List SourceFile}

theorem readText_of_file (holds : machine.disk.Holds files) {file : SourceFile} (member : file ∈ files)
    (ordinary : Ordinary file.path.toText) :
    machine.isFile? (SpelledPath.ofText file.path.toText) = .ok true ∧
    machine.readText (SpelledPath.ofText file.path.toText) = .ok file.text := by
  have short := NormalPath.short_names_of_ordinary file.canonical_path ordinary
  have located : machine.locate (SpelledPath.ofText file.path.toText) = .ok (file.names, .file file.bytes) := by
    rw [locate_ofText file.canonical_path ordinary, mapError_eq_ok_iff]
    exact holds.walk_of_file member (List.nil_append _) file.names_ne short
  refine ⟨isFile?_eq_true_iff.mpr ⟨_, _, located⟩, ?_⟩
  rw [readText_of_locate located, file.decoded]
  simp only [unifyLineEnds_eq_self file.no_return, String.ofList_toList]

theorem isFile?_of_no_file (holds : machine.disk.Holds files) {path : NormalPath} (canonical : path.Canonical)
    (ordinary : Ordinary path.toText) (absent : ∀ file ∈ files, file.names ≠ path.names) :
    machine.isFile? (SpelledPath.ofText path.toText) = .ok false := by
  refine isFile?_eq_false (not_tooLong_of_ordinary canonical ordinary) fun there => ?_
  obtain ⟨place, bytes, located⟩ := isFile?_eq_true_iff.mp there
  rw [locate_ofText canonical ordinary, mapError_eq_ok_iff] at located
  refine holds.walk_ne_file (fun name member => (canonical name member).ne_parent) ?_ place bytes located
  simpa using absent

end Machine

/-- An ordinary path in normal form finds the same in memory as on a disk. -/
theorem SourceTree.alike (tree : SourceTree) {machine : Machine} (holds : machine.disk.Holds tree.files)
    {path : NormalPath} (canonical : path.Canonical) (ordinary : Ordinary path.toText) :
    (MemoryFiles.ofFiles tree.files).toFileSystem.Alike machine.toFileSystem path.toText := by
  have probed : (MemoryFiles.ofFiles tree.files).toFileSystem.isFile path.toText =
    .ok ((MemoryFiles.ofFiles tree.files).get? path.toText).isSome := rfl
  have looked : machine.toFileSystem.isFile path.toText = machine.isFile? (SpelledPath.ofText path.toText) := rfl
  by_cases listed : ∃ file ∈ tree.files, file.path = path
  · obtain ⟨file, member, rfl⟩ := listed
    obtain ⟨there, read⟩ := Machine.readText_of_file holds member ordinary
    have held := MemoryFiles.get?_ofFiles_of_file tree.apart member
    constructor
    · rw [probed, held, looked, there, Option.isSome_some]
    · rw [MemoryFiles.readFile?, held]
      exact (FileSystem.readFile?_eq_some_iff.mpr ⟨there, read⟩).symm
  · have absent : ∀ file ∈ tree.files, file.path ≠ path := by simpa using listed
    have named (file : SourceFile) (names : file.names = path.names) : file.path = path := by
      rw [SourceFile.path, names, ← NormalPath.doubled_eq_false ordinary]
    have nowhere : machine.isFile? (SpelledPath.ofText path.toText) = .ok false :=
      Machine.isFile?_of_no_file holds canonical ordinary fun file member names =>
        absent file member (named file names)
    have unheld := MemoryFiles.get?_ofFiles_eq_none canonical absent
    constructor
    · rw [probed, unheld, looked, nowhere, Option.isSome_none]
    · rw [MemoryFiles.readFile?, unheld, FileSystem.readFile?, looked, nowhere]
      rfl

end StoryCatalog
