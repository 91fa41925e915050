import StoryCatalog.Path.Wide
import StoryCatalog.Proofs.Path.Spelled
import StoryCatalog.Proofs.Text.Utf8
import Mathlib.Data.List.Forall2

/-!
# Names with the bytes of a text

A name with halves is the name of a file where its bytes are those of a text, and then it is that text's name. Halves
stand for no byte that is a character of its own, so what is told from such characters alone, as where a name ends,
is told of the text as well.
-/

namespace StoryCatalog

open Text

namespace WideText

/-- The text can stand in the path of a file: there is no nul in it, and each of its halves stands for a byte. -/
structure Nameable (text : WideText) : Prop where
  no_nul : .char '\x00' ∉ text.units
  writable : ∀ half, .lone half ∈ text.units → half.byte?.isSome = true

theorem nameable_whole_iff {text : String} : Nameable text ↔ '\x00' ∉ text.toList := by
  constructor
  · intro nameable
    simpa using nameable.no_nul
  · exact fun free => ⟨by simpa using free, by simp⟩

/-- As the name of a file the one is the other. -/
structure SameBytes (name : WideText) (text : String) : Prop where
  writable : ∀ half, .lone half ∈ name.units → half.byte?.isSome = true
  bytes : name.units.flatMap TextUnit.nameBytes = text.toList.flatMap String.utf8EncodeChar

variable {name other : WideText} {text more : String}

theorem faultFrom?_eq_none_iff {written : Half → Bool} {units : List TextUnit} (pos : Nat) :
    faultFrom? written pos units = none ↔ ∀ half, .lone half ∈ units → written half = true := by
  induction units generalizing pos with
  | nil => simp [faultFrom?]
  | cons unit units ih =>
    cases unit with
    | char c => simp [faultFrom?, ih]
    | lone half => by_cases can : written half = true <;> simp [faultFrom?, ih, can]

theorem pathFault?_eq_none_iff :
    pathFault? name = none ↔ ∀ half, .lone half ∈ name.units → half.byte?.isSome = true :=
  faultFrom?_eq_none_iff 0

theorem sameBytes_whole (text : String) : SameBytes text text where
  writable := by simp
  bytes := by
    rw [units_whole, List.flatMap_map]
    rfl

theorem SameBytes.append (first : name.SameBytes text) (second : other.SameBytes more) :
    (name ++ other).SameBytes (text ++ more) where
  writable := by
    intro half member
    rw [units_append, List.mem_append] at member
    exact member.elim (first.writable half) (second.writable half)
  bytes := by
    rw [units_append, List.flatMap_append, String.toList_append, List.flatMap_append, first.bytes, second.bytes]

theorem sameBytes_of_fileName? (spelled : name.fileName? = some text) : name.SameBytes text := by
  cases name with
  | whole itself =>
    rw [fileName?_whole, Option.some.injEq] at spelled
    exact spelled ▸ sameBytes_whole itself
  | halved front half rest =>
    simp only [fileName?] at spelled
    split at spelled
    · next chars unfaulted decoded =>
      rw [Option.some.injEq] at spelled
      rw [← spelled]
      exact ⟨pathFault?_eq_none_iff.mp unfaulted, by rw [String.toList_ofList, encode_decodeUtf8 decoded]⟩
    · contradiction

theorem byteCount_eq (name : WideText) : name.byteCount = (name.units.flatMap TextUnit.nameBytes).length := by
  cases name with
  | whole text => rw [byteCount_whole, utf8ByteSize_eq, ← (sameBytes_whole text).bytes]
  | halved front half rest => rfl

theorem SameBytes.byteCount_eq (same : name.SameBytes text) : name.byteCount = text.utf8ByteSize := by
  rw [WideText.byteCount_eq, same.bytes, utf8ByteSize_eq]

/-- The byte of a half is no character. -/
theorem not_low_of_byte? {half : Half} {b : UInt8} (stands : half.byte? = some b) : ¬b < 0x80 := by
  unfold Half.byte? at stands
  split_ifs at stands with range
  obtain rfl := Option.some.inj stands
  simp only [Bool.and_eq_true, decide_eq_true_eq] at range
  simp only [UInt8.lt_iff_toNat_lt, UInt8.toNat_ofNat, UInt8.toNat_ofNat']
  omega

/-- A character with a byte of its own stands in a name where that byte does. -/
theorem mem_units_iff {c : Char} (ascii : c.toNat < 128) :
    .char c ∈ name.units ↔ c.toNat.toUInt8 ∈ name.units.flatMap TextUnit.nameBytes := by
  obtain ⟨low, same⟩ := ofNat_toNat_of_ascii ascii
  have code : c.toNat.toUInt8.toNat = c.toNat := by
    rw [UInt8.toNat_ofNat']
    omega
  rw [List.mem_flatMap]
  constructor
  · intro member
    exact ⟨_, member, (mem_encode_iff_of_low low).mpr code.symm⟩
  · rintro ⟨unit, member, byte⟩
    cases unit with
    | char d =>
      rw [TextUnit.nameBytes, mem_encode_iff_of_low low, code] at byte
      rwa [← Char.toNat_inj.mp byte]
    | lone half => exact absurd low (not_low_of_byte? (Option.mem_toList.mp byte))

/-- Characters with a byte of their own stand in a name where they stand in the text. -/
theorem SameBytes.mem_iff (same : name.SameBytes text) {c : Char} (ascii : c.toNat < 128) :
    .char c ∈ name.units ↔ c ∈ text.toList := by
  rw [mem_units_iff ascii, same.bytes, ← (sameBytes_whole text).bytes, ← mem_units_iff ascii]
  simp

/-- A name with the bytes of such characters only is their text. -/
theorem SameBytes.eq_of_ascii (same : name.SameBytes text) (ascii : IsAscii text.toList) : name = text := by
  have low {b : UInt8} (member : b ∈ name.units.flatMap TextUnit.nameBytes) : b < 0x80 := by
    rw [same.bytes] at member
    obtain ⟨c, present, byte⟩ := List.mem_flatMap.mp member
    rw [encode_eq_of_ascii (ascii c present), List.mem_singleton] at byte
    exact byte ▸ (ofNat_toNat_of_ascii (ascii c present)).1
  cases name with
  | whole itself =>
    rw [eq_of_encode_eq ((sameBytes_whole itself).bytes.symm.trans same.bytes)]
  | halved front half rest =>
    -- Its first half would have a byte that no such character has.
    have member : .lone half ∈ (halved front half rest).units := by simp [units]
    obtain ⟨b, stands⟩ := Option.isSome_iff_exists.mp (same.writable half member)
    exact absurd (low (List.mem_flatMap.mpr ⟨_, member, Option.mem_toList.mpr stands⟩)) (not_low_of_byte? stands)

theorem SameBytes.eq_iff (same : name.SameBytes text) {word : String} (ascii : IsAscii word.toList) :
    name = word ↔ text = word := by
  constructor
  · rintro rfl
    exact (eq_of_encode_eq ((sameBytes_whole word).bytes.symm.trans same.bytes)).symm
  · rintro rfl
    exact same.eq_of_ascii ascii

theorem SameBytes.intercalate {names : List WideText} {texts : List String}
    (same : List.Forall₂ SameBytes names texts) (separator : String) :
    (WideText.intercalate separator names).SameBytes (separator.intercalate texts) := by
  induction same with
  | nil => exact sameBytes_whole ""
  | @cons name text names texts first others ih =>
    cases others with
    | nil => simpa [WideText.intercalate] using first
    | cons next others =>
      rw [WideText.intercalate, String.intercalate_cons_cons]
      · exact (first.append (sameBytes_whole separator)).append ih
      · simp

end WideText

namespace WidePath

open WideText

variable {path : WidePath} {file : SpelledPath}

theorem onDisk?_eq_some_iff : path.onDisk? = some file ↔
    file.root = path.root ∧ List.Forall₂ (fun name text => name.fileName? = some text) path.names file.names := by
  obtain ⟨root, names⟩ := path
  obtain ⟨itsRoot, texts⟩ := file
  have each : names.mapM fileName? = some texts ↔
      List.Forall₂ (fun name text => name.fileName? = some text) names texts := by
    induction names generalizing texts with
    | nil => simp [eq_comm]
    | cons name names ih =>
      simp only [List.mapM_cons, Option.bind_eq_bind, Option.bind_eq_some_iff, ih, Option.pure_def, Option.some.injEq,
        List.forall₂_cons_left_iff]
      constructor
      · rintro ⟨text, first, texts, others, rfl⟩
        exact ⟨text, texts, first, others, rfl⟩
      · rintro ⟨text, texts, first, others, rfl⟩
        exact ⟨text, first, texts, others, rfl⟩
  simp only [onDisk?, Option.map_eq_some_iff, SpelledPath.mk.injEq]
  constructor
  · rintro ⟨_, spelled, rfl, rfl⟩
    exact ⟨rfl, each.mp spelled⟩
  · rintro ⟨rfl, spelled⟩
    exact ⟨texts, each.mpr spelled, rfl, rfl⟩

theorem sameBytes_of_onDisk? (spelled : path.onDisk? = some file) :
    List.Forall₂ SameBytes path.names file.names :=
  (onDisk?_eq_some_iff.mp spelled).2.imp fun _ _ => sameBytes_of_fileName?

theorem sameBytes_toText (spelled : path.onDisk? = some file) : path.toText.SameBytes file.toText := by
  have names := SameBytes.intercalate (sameBytes_of_onDisk? spelled) "/"
  unfold toText SpelledPath.toText
  rw [(onDisk?_eq_some_iff.mp spelled).1]
  cases path.root with
  | relative =>
    have empty : WideText.intercalate "/" path.names = "" ↔ "/".intercalate file.names = "" := names.eq_iff (by simp)
    dsimp only
    rw [if_congr empty rfl rfl]
    split_ifs
    · exact sameBytes_whole "."
    · exact names
  | single => exact (sameBytes_whole "/").append names
  | double => exact (sameBytes_whole "//").append names

theorem hasNul_of_onDisk? (spelled : path.onDisk? = some file) : path.hasNul = file.hasNul := by
  have same := sameBytes_of_onDisk? spelled
  unfold hasNul SpelledPath.hasNul
  generalize path.names = names, file.names = texts at same ⊢
  induction same with
  | nil => rfl
  | @cons name text _ _ first _ ih =>
    have nul : name.units.contains (.char '\x00') = text.toList.contains '\x00' := by
      rw [Bool.eq_iff_iff, List.contains_iff_mem, List.contains_iff_mem, first.mem_iff (by decide)]
    rw [List.any_cons, List.any_cons, ih, nul]

/-! ## Texts that are cut into names -/

/-- Every text is cut at its slashes, whether or not there are halves in it. -/
theorem names_ofText (text : WideText) : (ofText text).names = namesOf text.units := by
  cases text with
  | halved front half rest => rfl
  | whole text =>
    have cut : split (.char '/') (text.toList.map TextUnit.char) = (split '/' text.toList).map (List.map .char) :=
      split_map (fun c => by rw [TextUnit.char.injEq]) text.toList
    change ((NormalPath.components text.toList).filter fun name => name ≠ "" && name ≠ ".").map WideText.whole = _
    rw [namesOf, units_whole, cut, List.map_map, NormalPath.components, List.filter_map, List.filter_map, List.map_map]
    simp [Function.comp_def]

theorem mem_namesOf_iff {units : List TextUnit} {name : WideText} :
    name ∈ namesOf units ↔ name.units ∈ split (.char '/') units ∧ name ≠ "" ∧ name ≠ "." := by
  rw [namesOf, List.mem_filter, List.mem_map, Bool.and_eq_true, decide_eq_true_eq, decide_eq_true_eq]
  refine and_congr_left fun _ => ⟨?_, fun cut => ⟨_, cut, ofUnits_units name⟩⟩
  rintro ⟨piece, cut, rfl⟩
  rwa [units_ofUnits]

/-- Cutting a text into names loses nothing but slashes and dots. -/
theorem exists_mem_namesOf_iff {units : List TextUnit} {unit : TextUnit} (slash : unit ≠ .char '/')
    (dot : unit ≠ .char '.') : (∃ name ∈ namesOf units, unit ∈ name.units) ↔ unit ∈ units := by
  rw [← exists_mem_split_iff slash]
  constructor
  · rintro ⟨name, member, inside⟩
    exact ⟨name.units, (mem_namesOf_iff.mp member).1, inside⟩
  · rintro ⟨piece, cut, inside⟩
    refine ⟨.ofUnits piece, mem_namesOf_iff.mpr ?_, by rwa [units_ofUnits]⟩
    have differ (word : String) (free : unit ∉ (WideText.whole word).units) : WideText.ofUnits piece ≠ word := by
      intro same
      rw [← same, units_ofUnits] at free
      exact free inside
    rw [units_ofUnits]
    exact ⟨cut, differ "" (by simp), differ "." (by simpa using dot)⟩

/-- A text can stand in a path where each of its names can. -/
theorem forall_nameable_ofText_iff {text : WideText} :
    (∀ name ∈ (ofText text).names, name.Nameable) ↔ text.Nameable := by
  rw [names_ofText]
  constructor
  · intro each
    refine ⟨fun nul => ?_, fun half member => ?_⟩
    · obtain ⟨name, member, inside⟩ := (exists_mem_namesOf_iff (by decide) (by decide)).mpr nul
      exact (each name member).no_nul inside
    · obtain ⟨name, present, inside⟩ := (exists_mem_namesOf_iff (by simp) (by simp)).mpr member
      exact (each name present).writable half inside
  · intro nameable name member
    refine ⟨fun nul => ?_, fun half inside => ?_⟩
    · exact nameable.no_nul ((exists_mem_namesOf_iff (by decide) (by decide)).mp ⟨name, member, nul⟩)
    · exact nameable.writable half ((exists_mem_namesOf_iff (by simp) (by simp)).mp ⟨name, member, inside⟩)

theorem mem_units_intercalate (separator : String) {names : List WideText} {half : Half} :
    .lone half ∈ (WideText.intercalate separator names).units ↔ ∃ name ∈ names, .lone half ∈ name.units := by
  induction names with
  | nil => simp [WideText.intercalate]
  | cons name names ih =>
    cases names with
    | nil => simp [WideText.intercalate]
    | cons next names =>
      rw [WideText.intercalate, units_append, units_append, List.mem_append, List.mem_append, ih]
      · simp
      · simp

/-- A path can be written where its names can. -/
theorem pathFault?_toText_eq_none_iff : pathFault? path.toText = none ↔
    ∀ name ∈ path.names, ∀ half, .lone half ∈ name.units → half.byte?.isSome = true := by
  have halves (half : Half) : .lone half ∈ path.toText.units ↔ ∃ name ∈ path.names, .lone half ∈ name.units := by
    rw [← mem_units_intercalate "/"]
    unfold toText
    cases path.root with
    | relative =>
      dsimp only
      split_ifs with empty
      · simp [empty]
      · rfl
    | single => simp
    | double => simp
  rw [pathFault?_eq_none_iff]
  simp only [halves]
  exact ⟨fun each name member half inside => each half ⟨name, member, inside⟩,
    fun each half ⟨name, member, inside⟩ => each name member half inside⟩

/-- The names are such as a text is cut into. -/
def Plain (path : WidePath) : Prop :=
  ∀ name ∈ path.names, name ≠ "" ∧ name ≠ "." ∧ .char '/' ∉ name.units

theorem plain_ofText (text : WideText) : (ofText text).Plain := by
  intro name member
  rw [names_ofText, mem_namesOf_iff] at member
  exact ⟨member.2.1, member.2.2, not_mem_of_mem_split member.1⟩

theorem Plain.join {other : WidePath} (plain : path.Plain) (otherPlain : other.Plain) : (path.join other).Plain := by
  unfold WidePath.join
  split_ifs
  · exact List.forall_mem_append.mpr ⟨plain, otherPlain⟩
  · exact otherPlain

theorem Plain.onDisk? (plain : path.Plain) (spelled : path.onDisk? = some file) : file.Plain := by
  have same := sameBytes_of_onDisk? spelled
  unfold Plain at plain
  unfold SpelledPath.Plain
  generalize path.names = names, file.names = texts at plain same ⊢
  induction same with
  | nil => exact fun _ member => absurd member List.not_mem_nil
  | cons same _ ih =>
    rw [List.forall_mem_cons] at plain ⊢
    obtain ⟨⟨nonempty, other, free⟩, others⟩ := plain
    refine ⟨⟨?_, ?_, fun slash => free ((same.mem_iff (by decide)).mpr slash)⟩, ih others⟩
    · exact fun empty => nonempty ((same.eq_iff (by simp)).mpr empty)
    · exact fun here => other ((same.eq_iff (by simp)).mpr here)

end WidePath

theorem plain_storyFilePath (directory path : WideText) : (storyFilePath (.ofText directory) path).Plain := by
  unfold storyFilePath
  split
  · exact (WidePath.plain_ofText _).join (WidePath.plain_ofText _)
  · exact (WidePath.plain_ofText _).join (WidePath.plain_ofText _)

end StoryCatalog
