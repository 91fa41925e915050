import StoryCatalog.FileSystem.Memory
import StoryCatalog.Proofs.Except
import StoryCatalog.Proofs.Path.Normal

/-!
# What files in memory hold

A file in memory is held under the normal form of its path, so every spelling of the path finds it, and a
writing leaves every file of another normal form as it was. Nothing is said of files on a disk, where a path
may fail for reasons of its own.
-/

namespace StoryCatalog

theorem FileSystem.readFile?_eq_some_iff {fs : FileSystem} {path content : String} :
    fs.readFile? path = .ok (some content) ↔ fs.isFile path = .ok true ∧ fs.readText path = .ok content := by
  simp only [readFile?, bind_eq_ok_iff]
  constructor
  · rintro ⟨there, probed, read⟩
    cases there with
    | false => simp at read
    | true =>
      obtain ⟨text, read, same⟩ := bind_eq_ok_iff.mp read
      rw [pure_eq_ok_iff, Option.some.injEq] at same
      exact ⟨probed, same ▸ read⟩
  · rintro ⟨probed, read⟩
    exact ⟨true, probed, bind_eq_ok_iff.mpr ⟨content, read, rfl⟩⟩

namespace MemoryFiles

theorem get?_write (files : MemoryFiles) (path content : String) :
    (files.write path content).get? path = some content := by
  simp [get?, write]

theorem readFile? (files : MemoryFiles) (path : String) :
    files.toFileSystem.readFile? path = .ok (files.get? path) := by
  unfold FileSystem.readFile? toFileSystem
  cases found : files.get? path <;> simp [found, bind, Except.bind, pure, Except.pure]

theorem readFile?_write (files : MemoryFiles) (path content : String) :
    (files.write path content).toFileSystem.readFile? path = .ok (some content) := by
  rw [readFile?, get?_write]

/-! ## Spellings -/

/-- Paths are normalized alike exactly when they stand for one place. -/
theorem normalize_eq_iff {files : MemoryFiles} {path other : String} :
    files.toFileSystem.normalize path = files.toFileSystem.normalize other ↔
      NormalPath.root.resolveIn path = NormalPath.root.resolveIn other :=
  ⟨NormalPath.toText_injective (NormalPath.canonical_resolveIn NormalPath.canonical_root path)
    (NormalPath.canonical_resolveIn NormalPath.canonical_root other), congrArg NormalPath.toText⟩

theorem get?_congr (files : MemoryFiles) {path other : String}
    (same : files.toFileSystem.normalize path = files.toFileSystem.normalize other) :
    files.get? path = files.get? other := by
  rw [get?, get?, normalize_eq_iff.mp same]

theorem resolve_congr (files : MemoryFiles) {path other : String}
    (same : files.toFileSystem.normalize path = files.toFileSystem.normalize other) (reference : String) :
    files.toFileSystem.resolve path reference = files.toFileSystem.resolve other reference := by
  have places := normalize_eq_iff.mp same
  change (((NormalPath.root.resolveIn path).parent).resolveIn reference).toText = _
  rw [places]
  rfl

/-- A text that is its own normal form. -/
def Normalized (files : MemoryFiles) (path : String) : Prop :=
  files.toFileSystem.normalize path = path

instance (files : MemoryFiles) (path : String) : Decidable (files.Normalized path) :=
  inferInstanceAs (Decidable (_ = _))

theorem normalized_toText (files : MemoryFiles) {path : NormalPath} (canonical : path.Canonical) :
    files.Normalized path.toText :=
  congrArg NormalPath.toText (NormalPath.resolveIn_toText _ canonical)

theorem normalized_normalize (files : MemoryFiles) (path : String) :
    files.Normalized (files.toFileSystem.normalize path) :=
  files.normalized_toText (NormalPath.canonical_resolveIn NormalPath.canonical_root path)

theorem normalized_resolve (files : MemoryFiles) (base reference : String) :
    files.Normalized (files.toFileSystem.resolve base reference) :=
  files.normalized_toText (NormalPath.canonical_resolveBeside NormalPath.canonical_root base reference)

/-! ## Writing -/

/-- The files hold the same under each of the paths. -/
def AgreesOn (files others : MemoryFiles) (paths : List String) : Prop :=
  ∀ path ∈ paths, files.get? path = others.get? path

instance (files others : MemoryFiles) (paths : List String) : Decidable (files.AgreesOn others paths) :=
  inferInstanceAs (Decidable (∀ path ∈ paths, _))

theorem AgreesOn.get?_eq {files others : MemoryFiles} {paths : List String} (agree : files.AgreesOn others paths)
    {path : String} (listed : files.toFileSystem.normalize path ∈ paths) :
    others.get? path = files.get? path := by
  have same := agree _ listed
  rw [files.get?_congr (files.normalized_normalize path)] at same
  exact (others.get?_congr (others.normalized_normalize path)).symm.trans same.symm

theorem get?_write_of_ne (files : MemoryFiles) {other path : String} (content : String)
    (differ : files.toFileSystem.normalize other ≠ files.toFileSystem.normalize path) :
    (files.write other content).get? path = files.get? path := by
  have places : NormalPath.root.resolveIn path ≠ NormalPath.root.resolveIn other :=
    fun same => differ (normalize_eq_iff.mpr same.symm)
  rw [get?, write, List.lookup_cons, beq_eq_false_iff_ne.mpr places, get?]

/-- A writing changes nothing under paths in normal form among which its own is not. -/
theorem agreesOn_write (files : MemoryFiles) {other : String} (content : String) {paths : List String}
    (normalized : ∀ path ∈ paths, files.Normalized path)
    (elsewhere : files.toFileSystem.normalize other ∉ paths) :
    files.AgreesOn (files.write other content) paths := by
  intro path member
  refine (files.get?_write_of_ne content ?_).symm
  rw [normalized path member]
  rintro rfl
  exact elsewhere member

end MemoryFiles

end StoryCatalog
