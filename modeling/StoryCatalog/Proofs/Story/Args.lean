import StoryCatalog.Proofs.Fields
import StoryCatalog.Proofs.Source.Token
import StoryCatalog.Proofs.Story.Literal
import StoryCatalog.Proofs.Story.WrittenArgs
import StoryCatalog.Proofs.Text.Character
import StoryCatalog.Proofs.Text.Split
import StoryCatalog.Proofs.Text.Trim
import StoryCatalog.Story.Record

/-!
# From raw args to values

An args block with one arg a line gives back the keys and values it was written with. A raw value stands
for a literal unless it is a whole number with too many digits, so the values of a block's args are its
raw args with each value replaced, key by key.
-/

namespace StoryCatalog.Story

open Text Source Number

/-! ## Values -/

/-- The same keys in the same order, with what each raw value stands for. -/
def CoercedTo (raw : Fields String) (values : Fields Literal) : Prop :=
  raw.Rel (fun text literal => coerce text.toList = .ok literal) values

/-- Raw args determine the values. -/
theorem CoercedTo.unique {raw : Fields String} {values others : Fields Literal} (first : CoercedTo raw values)
    (second : CoercedTo raw others) : values = others := by
  refine Fields.Rel.unique ?_ first second
  intro text literal other one two
  exact Except.ok.inj (one.symm.trans two)

/-- The values of a block's args, where each raw value stands for something. -/
def coercedArgs (body : List Char) : Except TooManyDigits (Fields Literal) := do
  let values ← (splitArgs body).mapM fun (key, raw) => do return (key, ← coerce raw.toList)
  return Fields.ofList values

theorem argsOf_eq (content name : List Char) :
    argsOf content name =
      match Scan.findFirst? (namedArgs name) content with
      | none => .ok {}
      | some body => coercedArgs body := rfl

private theorem coerce_pair_iff {pair : String × String} {result : String × Literal} :
    (do return (pair.1, ← coerce pair.2.toList) : Except TooManyDigits (String × Literal)) = .ok result ↔
      Fields.RelPair (fun text literal => coerce text.toList = .ok literal) pair result := by
  obtain ⟨key, literal⟩ := result
  simp only [bind_eq_ok_iff, pure_eq_ok_iff, Prod.mk.injEq, Fields.RelPair]
  constructor
  · rintro ⟨value, read, same, rfl⟩
    exact ⟨same, read⟩
  · rintro ⟨same, read⟩
    exact ⟨literal, read, same, rfl⟩

/-- The values of a block are its raw args with each value replaced. -/
theorem coercedTo_of_coercedArgs {body : List Char} {values : Fields Literal}
    (read : coercedArgs body = .ok values) : CoercedTo (rawArgs body) values := by
  obtain ⟨pairs, every, made⟩ := bind_eq_ok_iff.mp read
  rw [pure_eq_ok_iff] at made
  rw [← made]
  exact Fields.ofList_rel ((mapM_eq_ok_iff.mp every).imp fun pair result => coerce_pair_iff.mp)

theorem exists_coercedArgs {body : List Char}
    (readable : ∀ pair ∈ splitArgs body, ¬TooLong (unquote pair.2.toList)) :
    ∃ values, coercedArgs body = .ok values := by
  have each : ∀ pair ∈ splitArgs body, ∃ result,
      (do return (pair.1, ← coerce pair.2.toList) : Except TooManyDigits (String × Literal)) = .ok result := by
    intro pair member
    obtain ⟨literal, read⟩ := exists_coerce_of_not_tooLong (readable pair member)
    exact ⟨(pair.1, literal), coerce_pair_iff.mpr ⟨rfl, read⟩⟩
  obtain ⟨pairs, every⟩ := exists_mapM_eq_ok each
  exact ⟨Fields.ofList pairs, bind_eq_ok_iff.mpr ⟨pairs, every, rfl⟩⟩

/-! ## Lines of args -/

/-- A key with its value after a colon, whatever blanks surround them. -/
theorem arg?_keyed {gap key value : List Char} (blank : IsGap gap) (key_ne : key ≠ [])
    (key_word : ∀ c ∈ key, isWord c = true) (trimmed : trim value = value) :
    arg? (gap ++ (key ++ ':' :: ' ' :: value)) = some (String.ofList key, String.ofList value) := by
  have absent : ':' ∉ gap ++ key := by
    rw [List.mem_append, not_or]
    exact ⟨not_mem_of_forall blank (by decide), not_mem_of_forall key_word (by decide)⟩
  have before : trim (gap ++ key) = key := by
    rw [trim_gap_append blank, trim_eq_self fun c member => isBlank_eq_false_of_isWord (key_word c member)]
  have after : trim (' ' :: value) = value := by
    rw [← List.singleton_append, trim_gap_append (by simp; decide), trimmed]
  rw [← List.append_assoc, arg?_append_colon absent, before, after, if_neg (by simpa using key_ne)]

/-- An arg that can be written on a line and read back. -/
structure CanonicalArg where
  key : List Char
  value : List Char
  key_ne : key ≠ []
  key_word : ∀ c ∈ key, isWord c = true
  trimmed : trim value = value
  no_comma : ',' ∉ value
  no_open : '{' ∉ value
  no_close : '}' ∉ value
  no_export : ¬"export".toList <:+: value
  readable : ¬TooLong (unquote value)

namespace CanonicalArg

def pair (arg : CanonicalArg) : String × String :=
  (String.ofList arg.key, String.ofList arg.value)

/-- The arg on a line of its own. -/
def line (arg : CanonicalArg) : List Char :=
  "    ".toList ++ arg.key ++ ": ".toList ++ arg.value ++ ",\n".toList

end CanonicalArg

/-- The inside of an args block with an arg on each line. -/
def argsBody (args : List CanonicalArg) : List Char :=
  '\n' :: (args.flatMap CanonicalArg.line ++ "  ".toList)

theorem argsBody_cons (arg : CanonicalArg) (args : List CanonicalArg) :
    argsBody (arg :: args) = "\n    ".toList ++ (arg.key ++ ':' :: ' ' :: arg.value) ++
      ',' :: argsBody args := by
  have line : arg.line = "    ".toList ++ arg.key ++ [':', ' '] ++ arg.value ++ [',', '\n'] := rfl
  have gap : "\n    ".toList = '\n' :: "    ".toList := rfl
  unfold argsBody
  rw [List.flatMap_cons, line, gap]
  simp only [List.append_assoc, List.cons_append, List.nil_append]

theorem splitArgs_argsBody (args : List CanonicalArg) :
    splitArgs (argsBody args) = args.map CanonicalArg.pair := by
  induction args with
  | nil => rfl
  | cons arg args ih =>
    have key_absent : ',' ∉ arg.key := not_mem_of_forall arg.key_word (by decide)
    have absent : ',' ∉ "\n    ".toList ++ (arg.key ++ ':' :: ' ' :: arg.value) := by
      simp [key_absent, arg.no_comma]
    have blank : IsGap "\n    ".toList := by simp; decide
    have read := arg?_keyed blank arg.key_ne arg.key_word arg.trimmed
    rw [splitArgs, argsBody_cons, split_append absent, List.filterMap_cons, read, List.map_cons]
    exact congrArg _ ih

/-- No brace stands in a canonical block. -/
theorem brace_not_mem_argsBody (args : List CanonicalArg) : '{' ∉ argsBody args ∧ '}' ∉ argsBody args := by
  induction args with
  | nil => decide
  | cons arg args ih =>
    have key_open : '{' ∉ arg.key := not_mem_of_forall arg.key_word (by decide)
    have key_close : '}' ∉ arg.key := not_mem_of_forall arg.key_word (by decide)
    simp [argsBody_cons, key_open, key_close, arg.no_open, arg.no_close, ih]

/-- The values of a canonical block can be read, and are those of its pairs. -/
theorem coercedArgs_argsBody (args : List CanonicalArg) :
    ∃ values, coercedArgs (argsBody args) = .ok values ∧
      CoercedTo (Fields.ofList (args.map CanonicalArg.pair)) values := by
  have readable : ∀ pair ∈ splitArgs (argsBody args), ¬TooLong (unquote pair.2.toList) := by
    intro pair member
    rw [splitArgs_argsBody, List.mem_map] at member
    obtain ⟨arg, -, rfl⟩ := member
    simpa [CanonicalArg.pair] using arg.readable
  obtain ⟨values, read⟩ := exists_coercedArgs readable
  refine ⟨values, read, ?_⟩
  rw [← splitArgs_argsBody]
  exact coercedTo_of_coercedArgs read

end StoryCatalog.Story
