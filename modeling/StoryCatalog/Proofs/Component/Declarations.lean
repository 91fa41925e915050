import StoryCatalog.Proofs.Component.Properties
import StoryCatalog.Proofs.Fields

/-!
# The pass over declarations

A declaration starts at any word with a colon behind it and goes on to the first semicolon, over whatever stands
between. So a text in which such a start has no semicolon behind it takes everything up to the next semicolon
into one declaration, and a text without one leaves what follows it alone. The declarations before a semicolon are
the same whatever stands behind it. What a declaration gives to a property holds until a later declaration of the
same name.
-/

namespace StoryCatalog.Component

open Text Scan Source

/-! ## One declaration -/

/-- The start of a declaration: a name, perhaps a question mark, and a colon. -/
structure DeclarationHead (name head : List Char) : Prop where
  name_ne : name ≠ []
  name_word : ∀ c ∈ name, isWord c = true
  spelled : ∃ mark, (mark = [] ∨ mark = ['?']) ∧ head = name ++ (mark ++ [':'])

namespace DeclarationHead

variable {name head : List Char}

theorem not_mem (declared : DeclarationHead name head) {c : Char} (foreign : isWord c = false)
    (other : c ∉ "?:".toList) : c ∉ head := by
  obtain ⟨mark, marked, rfl⟩ := declared.spelled
  have sign : c ≠ '?' ∧ c ≠ ':' := by simpa using other
  have named : c ∉ name := not_mem_of_forall declared.name_word foreign
  rcases marked with rfl | rfl
  · simpa [named] using sign.2
  · simpa [named] using sign

theorem colon_mem (declared : DeclarationHead name head) : ':' ∈ head := by
  obtain ⟨mark, -, rfl⟩ := declared.spelled
  simp

theorem name_prefix (declared : DeclarationHead name head) : name <+: head := by
  obtain ⟨mark, -, rfl⟩ := declared.spelled
  exact List.prefix_append ..

end DeclarationHead

/-- A default behind its equals sign, where there is one. -/
def defaultText : Option (List Char) → List Char
  | none => []
  | some text => '=' :: text

/-- A declaration with the pieces it is read from. -/
structure Declares (name type : List Char) (default : Option (List Char)) (text rest : List Char) : Prop where
  spelled : ∃ head, DeclarationHead name head ∧ text = head ++ (type ++ (defaultText default ++ ';' :: rest))
  type_ne : type ≠ []
  type_plain : ∀ c ∈ type, c ≠ '=' ∧ c ≠ ';'
  default_plain : ∀ value ∈ default, value ≠ [] ∧ ';' ∉ value

/-- A question mark before the colon is read where it stands. -/
theorem maybe_mark_iff {text rest : List Char} :
    (∃ out, maybe (char '?') text = some (out, ':' :: rest)) ↔
      ∃ mark, (mark = [] ∨ mark = ['?']) ∧ text = mark ++ ':' :: rest := by
  simp only [maybe_eq_some_iff, char_eq_some_iff]
  constructor
  · rintro ⟨_, ⟨_, -, rfl⟩ | ⟨-, rfl, -⟩⟩
    · exact ⟨['?'], .inr rfl, rfl⟩
    · exact ⟨[], .inl rfl, rfl⟩
  · rintro ⟨mark, rfl | rfl, rfl⟩
    · exact ⟨none, .inr ⟨rfl, rfl, rfl⟩⟩
    · exact ⟨some (), .inl ⟨(), rfl, rfl⟩⟩

/-- The part of a declaration from its equals sign on. -/
def declaredDefault : Scan (List Char) := do
  char '='
  run1 (· ≠ ';')

theorem maybe_default_iff {text rest : List Char} {default : Option (List Char)} :
    maybe declaredDefault text = some (default, ';' :: rest) ↔
      text = defaultText default ++ ';' :: rest ∧ ∀ value ∈ default, value ≠ [] ∧ ';' ∉ value := by
  have plain (value : List Char) : (∀ c ∈ value, decide (c ≠ ';') = true) ↔ ';' ∉ value := by
    simp only [decide_eq_true_eq]
    exact ⟨fun every member => every ';' member rfl, fun absent c member same => absent (same ▸ member)⟩
  simp only [maybe_eq_some_iff, declaredDefault, bind_eq_some_iff, char_eq_some_iff, run1_eq_some_iff, plain]
  constructor
  · rintro (⟨value, rfl, _, _, rfl, value_ne, rfl, absent, -⟩ | ⟨rfl, rfl, -⟩)
    · exact ⟨rfl, by simpa using ⟨value_ne, absent⟩⟩
    · exact ⟨rfl, by simp⟩
  · rintro ⟨rfl, filled⟩
    cases default with
    | none => exact .inr ⟨rfl, rfl, rfl⟩
    | some value =>
      obtain ⟨value_ne, absent⟩ := filled value rfl
      exact .inl ⟨value, rfl, (), _, rfl, value_ne, rfl, absent, by simp⟩

/-- Nothing is a default between an equals sign and a semicolon. -/
theorem equals_semicolon_ne {type other rest left : List Char} {default : Option (List Char)}
    (plain : ∀ c ∈ type, c ≠ '=' ∧ c ≠ ';') (other_plain : ∀ c ∈ other, c ≠ '=' ∧ c ≠ ';')
    (default_plain : ∀ value ∈ default, value ≠ [] ∧ ';' ∉ value) :
    type ++ '=' :: ';' :: rest ≠ other ++ (defaultText default ++ ';' :: left) := by
  intro same
  have signless (text : List Char) (all : ∀ c ∈ text, c ≠ '=' ∧ c ≠ ';') :
      ∀ c ∈ text, (decide (c ≠ '=') && decide (c ≠ ';')) = true := by
    simpa only [Bool.and_eq_true, decide_eq_true_eq] using all
  have stops : Stops (fun c => decide (c ≠ '=') && decide (c ≠ ';')) (defaultText default ++ ';' :: left) := by
    cases default <;> exact (stops_cons ..).mpr (by decide)
  obtain ⟨-, behind⟩ := append_inj_of_stops (signless type plain) ((stops_cons ..).mpr (by decide))
    (signless other other_plain) stops same
  cases default with
  | none => exact absurd (List.cons.inj behind).1 (by decide)
  | some value =>
    obtain ⟨value_ne, ends⟩ := default_plain value rfl
    obtain ⟨c, more, rfl⟩ := List.exists_cons_of_ne_nil value_ne
    obtain ⟨rfl, -⟩ := List.cons.inj (List.cons.inj behind).2
    exact ends (List.mem_cons_self ..)

theorem fieldDeclaration_eq_some_iff {text rest : List Char} {declaration : FieldDeclaration} :
    fieldDeclaration text = some (declaration, rest) ↔
      ∃ name type default, Declares name type default text rest ∧
        declaration = ⟨String.ofList name, String.ofList (trim type),
          default.map fun value => String.ofList (trim value)⟩ := by
  have plain (type : List Char) : (∀ c ∈ type, (decide (c ≠ '=') && decide (c ≠ ';')) = true) ↔
      ∀ c ∈ type, c ≠ '=' ∧ c ≠ ';' := by
    simp only [Bool.and_eq_true, decide_eq_true_eq]
  change (do
    let name ← identifier
    let _ ← maybe (char '?')
    char ':'
    let type ← run1 fun c => c ≠ '=' && c ≠ ';'
    let default ← maybe declaredDefault
    char ';'
    return (⟨String.ofList name, String.ofList (trim type),
      default.map fun text => String.ofList (trim text)⟩ : FieldDeclaration) : Scan FieldDeclaration) text = _ ↔ _
  simp only [bind_eq_some_iff, identifier_eq_some_iff, char_eq_some_iff, run1_eq_some_iff, pure_eq_some_iff, plain]
  constructor
  · rintro ⟨name, left, ⟨name_ne, rfl, name_word, -⟩, out, _, marked, -, _, rfl, type, _,
      ⟨type_ne, rfl, type_plain, -⟩, default, _, defaulted, -, _, rfl, rfl, rfl⟩
    obtain ⟨mark, one, rfl⟩ := maybe_mark_iff.mp ⟨out, marked⟩
    obtain ⟨rfl, default_plain⟩ := maybe_default_iff.mp defaulted
    exact ⟨name, type, default, ⟨⟨_, ⟨name_ne, name_word, mark, one, rfl⟩, by simp⟩, type_ne, type_plain,
      default_plain⟩, rfl⟩
  · rintro ⟨name, type, default, ⟨⟨_, ⟨name_ne, name_word, mark, one, rfl⟩, rfl⟩, type_ne, type_plain,
      default_plain⟩, rfl⟩
    let after := defaultText default ++ ';' :: rest
    obtain ⟨out, marked⟩ := maybe_mark_iff.mpr ⟨mark, one, (rfl : mark ++ ':' :: (type ++ after) = _)⟩
    have defaulted := maybe_default_iff.mpr ⟨(rfl : after = _), default_plain⟩
    have stops : Stops isWord (mark ++ ':' :: (type ++ after)) := by
      rcases one with rfl | rfl <;> exact (stops_cons ..).mpr (by decide)
    have ended : Stops (fun c => c ≠ '=' && c ≠ ';') after := by
      cases default <;> exact (stops_cons ..).mpr (by decide)
    exact ⟨name, _, ⟨name_ne, by simp [after], name_word, stops⟩, out, _, marked, (), _, rfl, type, _,
      ⟨type_ne, rfl, type_plain, ended⟩, default, _, defaulted, (), _, rfl, rfl, rfl⟩

/-! ## Declarations in a text -/

/-- A text that can stand between the colon and the semicolon of a declaration. -/
structure DeclarationBody (body : List Char) : Prop where
  ne_nil : body ≠ []
  typed : Stops (· = '=') body
  one : ';' ∉ body

theorem Declares.body {name type text rest : List Char} {default : Option (List Char)}
    (declared : Declares name type default text rest) :
    ∃ head body, DeclarationHead name head ∧ DeclarationBody body ∧ text = head ++ (body ++ ';' :: rest) := by
  obtain ⟨head, headed, rfl⟩ := declared.spelled
  have typed : '=' ∉ type ∧ ';' ∉ type :=
    ⟨fun member => (declared.type_plain _ member).1 rfl, fun member => (declared.type_plain _ member).2 rfl⟩
  refine ⟨head, type ++ defaultText default, headed, ⟨?_, ?_, ?_⟩, by simp⟩
  · exact List.append_ne_nil_of_left_ne_nil declared.type_ne _
  · refine stops_append_of_ne_nil declared.type_ne (fun c member => ?_) _
    exact decide_eq_false (declared.type_plain c member).1
  · cases default with
    | none => simpa [defaultText] using typed.2
    | some value => simpa [defaultText] using ⟨typed.2, (declared.default_plain value rfl).2⟩

/-- A body that does not end with an equals sign is a type, perhaps with a default. -/
theorem exists_declares {name head body : List Char} (headed : DeclarationHead name head)
    (filled : DeclarationBody body) (valued : body.getLast? ≠ some '=') (rest : List Char) :
    ∃ type default, Declares name type default (head ++ (body ++ ';' :: rest)) rest := by
  have unended (piece : List Char) (within : piece <:+: body) : ';' ∉ piece := fun member =>
    filled.one (within.mem member)
  by_cases equals : '=' ∈ body
  · obtain ⟨type, value, rfl, typed⟩ := List.eq_append_cons_of_mem equals
    have type_ne : type ≠ [] := by
      rintro rfl
      exact absurd filled.typed (by simp)
    have value_ne : value ≠ [] := by
      rintro rfl
      exact valued (by simp)
    have unvalued := unended value ⟨type ++ ['='], [], by simp⟩
    refine ⟨type, some value, ⟨head, headed, by simp [defaultText]⟩, type_ne, ?_,
      by simpa using ⟨value_ne, unvalued⟩⟩
    rintro c member
    exact ⟨fun same => typed (same ▸ member), fun same => unended type ⟨[], _, rfl⟩ (same ▸ member)⟩
  · refine ⟨body, none, ⟨head, headed, rfl⟩, filled.ne_nil, ?_, by simp⟩
    rintro c member
    exact ⟨fun same => equals (same ▸ member), fun same => filled.one (same ▸ member)⟩

/-- A declaration that starts in the text has its semicolon behind the text. -/
def LeavesOpen (text : List Char) : Prop :=
  ∃ before name head rest, text = before ++ (head ++ rest) ∧ DeclarationHead name head ∧
    Stops (· = '=') rest ∧ ';' ∉ rest

theorem LeavesOpen.append {text : List Char} (opened : LeavesOpen text) (before : List Char) :
    LeavesOpen (before ++ text) := by
  obtain ⟨earlier, name, head, rest, rfl, headed, typed, one⟩ := opened
  exact ⟨before ++ earlier, name, head, rest, by simp, headed, typed, one⟩

/-- Behind its last semicolon a text is as open as the whole. -/
theorem leavesOpen_append_semicolon (before after : List Char) :
    LeavesOpen (before ++ ';' :: after) ↔ LeavesOpen after := by
  constructor
  · rintro ⟨earlier, name, head, rest, same, headed, typed, one⟩
    have unended : ';' ∉ head ++ rest := by
      rw [List.mem_append, not_or]
      exact ⟨headed.not_mem (by decide) (by decide), one⟩
    obtain ⟨more, rfl, tail⟩ | ⟨more, rfl, tail⟩ := List.append_eq_append_iff.mp same
    · cases more with
      | nil =>
        rw [List.nil_append] at tail
        exact absurd (tail ▸ List.mem_cons_self ..) unended
      | cons c more =>
        obtain ⟨-, rfl⟩ := List.cons.inj tail
        exact ⟨more, name, head, rest, rfl, headed, typed, one⟩
    · exact absurd (tail ▸ List.mem_append_right _ (List.mem_cons_self ..)) unended
  · intro opened
    have whole := opened.append (before ++ [';'])
    rwa [List.append_assoc] at whole

/-- A text without a colon leaves nothing open. -/
theorem not_leavesOpen_of_no_colon {text : List Char} (absent : ':' ∉ text) : ¬LeavesOpen text := by
  rintro ⟨before, name, head, rest, rfl, headed, -⟩
  exact absent (List.mem_append_right _ (List.mem_append_left _ headed.colon_mem))

/-- No declaration starts before its colon, nor at a sign that neither its name nor its question mark can be. -/
theorem nowhere_fieldDeclaration {before : List Char} {stop : Char} (absent : ':' ∉ before ++ [stop])
    (foreign : isWord stop = false) (other : stop ∉ "?:".toList) (here : List Char) :
    Nowhere fieldDeclaration.Reads (before ++ [stop]) here := by
  refine nowhere_of_stop (fun text read => ?_) absent here
  obtain ⟨declaration, rest, read⟩ := read
  obtain ⟨name, type, default, declared, -⟩ := fieldDeclaration_eq_some_iff.mp read
  obtain ⟨head, headed, rfl⟩ := declared.spelled
  have unstopped := headed.not_mem foreign other
  obtain ⟨mark, -, rfl⟩ := headed.spelled
  refine ⟨name ++ mark, _, by simp; rfl, fun member => unstopped ?_⟩
  rw [← List.append_assoc]
  exact List.mem_append_left _ member

/-- A declaration that starts in a text before a quote ends at a semicolon of the text, or leaves the text open and
ends at the next semicolon behind it. -/
theorem exists_end_of_read {text here rest : List Char} {declaration : FieldDeclaration}
    (read : fieldDeclaration (text ++ '\x27' :: here) = some (declaration, rest)) :
    declaration.name.toList <:+: text ∧
      ((∃ before after, text = before ++ ';' :: after ∧ rest = after ++ '\x27' :: here) ∨
        LeavesOpen text ∧
          ∃ more body, ';' ∉ more ∧ ';' ∉ body ∧ more ++ '\x27' :: here = body ++ ';' :: rest) := by
  obtain ⟨name, type, default, declared, rfl⟩ := fieldDeclaration_eq_some_iff.mp read
  obtain ⟨head, body, headed, filled, split⟩ := declared.body
  have unquoted : '\x27' ∉ head := headed.not_mem (by decide) (by decide)
  obtain ⟨more, rfl, behind⟩ : ∃ more, text = head ++ more ∧ more ++ '\x27' :: here = body ++ ';' :: rest := by
    obtain ⟨more, rfl, tail⟩ | ⟨more, rfl, tail⟩ := List.append_eq_append_iff.mp split
    · cases more with
      | nil => exact ⟨[], by simp, tail⟩
      | cons c more =>
        obtain ⟨rfl, -⟩ := List.cons.inj tail
        exact absurd (List.mem_append_right _ (List.mem_cons_self ..)) unquoted
    · exact ⟨more, rfl, tail.symm⟩
  rw [String.toList_ofList]
  refine ⟨headed.name_prefix.isInfix.trans (List.prefix_append ..).isInfix, ?_⟩
  by_cases ended : ';' ∈ more
  · obtain ⟨first, after, rfl, one⟩ := List.eq_append_cons_of_mem ended
    rw [List.append_assoc] at behind
    obtain ⟨-, rfl⟩ := append_cons_inj one filled.one behind
    exact .inl ⟨head ++ first, after, by simp, rfl⟩
  · refine .inr ⟨⟨[], name, head, more, rfl, headed, ?_, ended⟩, more, body, ended, filled.one, behind⟩
    cases more with
    | nil => exact stops_nil _
    | cons c more =>
      obtain ⟨d, rest', split'⟩ := List.exists_cons_of_ne_nil filled.ne_nil
      have typed := filled.typed
      rw [split', List.cons_append] at behind
      rw [split', stops_cons, ← (List.cons.inj behind).1] at typed
      exact (stops_cons ..).mpr typed

/-- Nothing is open at a place where nothing is read. -/
theorem leavesOpen_cons_iff {c : Char} {text more rest : List Char} (one : ';' ∉ more)
    (valued : more.getLast? ≠ some '=')
    (unread : fieldDeclaration (c :: text ++ '\x27' :: (more ++ ';' :: rest)) = none) :
    LeavesOpen (c :: text) ↔ LeavesOpen text := by
  refine ⟨fun opened => ?_, fun opened => opened.append [c]⟩
  obtain ⟨before, name, head, behind, split, headed, typed, unended⟩ := opened
  cases before with
  | cons d before => exact ⟨before, name, head, behind, (List.cons.inj split).2, headed, typed, unended⟩
  | nil =>
    have filled : DeclarationBody (behind ++ '\x27' :: more) := by
      refine ⟨by simp, ?_, by simp [unended, one]⟩
      cases behind with
      | nil => exact (stops_cons ..).mpr (by decide)
      | cons d behind => exact (stops_cons ..).mpr ((stops_cons ..).mp typed)
    have last : (behind ++ '\x27' :: more).getLast? ≠ some '=' := by
      rw [List.getLast?_append_cons]
      cases more with
      | nil => decide
      | cons d more => rwa [List.getLast?_cons_cons]
    obtain ⟨type, default, declared⟩ := exists_declares headed filled last rest
    have read := fieldDeclaration_eq_some_iff.mpr ⟨name, type, default, declared, rfl⟩
    rw [List.nil_append] at split
    rw [split, List.append_assoc] at unread
    rw [List.append_assoc, List.cons_append, unread] at read
    contradiction

/-- The declarations that start in a text before a quote have their names from the text. If the text leaves one
open, it takes what stands behind up to the next semicolon; if not, the search goes on at the quote. -/
theorem findAll_append_quote (text : List Char) {more : List Char} (one : ';' ∉ more)
    (valued : more.getLast? ≠ some '=') (rest : List Char) :
    ∃ found, (∀ declaration ∈ found, declaration.name.toList <:+: text) ∧
      (LeavesOpen text → findAll fieldDeclaration (text ++ '\x27' :: (more ++ ';' :: rest)) =
        found ++ findAll fieldDeclaration rest) ∧
      (¬LeavesOpen text → findAll fieldDeclaration (text ++ '\x27' :: (more ++ ';' :: rest)) =
        found ++ findAll fieldDeclaration ('\x27' :: (more ++ ';' :: rest))) := by
  -- A declaration takes many signs away at once, so the induction is on the length of what is left.
  induction bound : text.length using Nat.strong_induction_on generalizing text with
  | _ n ih =>
    subst bound
    cases text with
    | nil =>
      have closed : ¬LeavesOpen [] := not_leavesOpen_of_no_colon List.not_mem_nil
      exact ⟨[], by simp, fun opened => absurd opened closed, by simp⟩
    | cons c text =>
      cases read : fieldDeclaration (c :: text ++ '\x27' :: (more ++ ';' :: rest)) with
      | none =>
        obtain ⟨found, named, opened, closed⟩ := ih text.length (Nat.lt_succ_self _) text rfl
        rw [List.cons_append] at read ⊢
        rw [findAll_cons_of_none read, leavesOpen_cons_iff one valued read]
        exact ⟨found, fun declaration member =>
          (named declaration member).trans (List.suffix_cons c text).isInfix, opened, closed⟩
      | some out =>
        obtain ⟨declaration, left⟩ := out
        obtain ⟨within, ⟨before, after, split, rfl⟩ | ⟨opened, first, body, unended, filled, same⟩⟩ :=
          exists_end_of_read read
        · have shorter : after.length < (c :: text).length := by
            rw [split, List.length_append, List.length_cons]
            omega
          obtain ⟨found, named, opened, closed⟩ := ih after.length shorter after rfl
          have spelled : c :: text ++ '\x27' :: (more ++ ';' :: rest) =
              (before ++ [';']) ++ (after ++ '\x27' :: (more ++ ';' :: rest)) := by
            rw [split]
            simp
          rw [spelled] at read
          have tail : after <:+: c :: text := split ▸ ⟨before ++ [';'], [], by simp⟩
          rw [spelled, findAll_append_of_some (by simp) read, split, leavesOpen_append_semicolon, ← split]
          refine ⟨declaration :: found, ?_, fun goes => ?_, fun ends => ?_⟩
          · rw [List.forall_mem_cons]
            exact ⟨within, fun other member => (named other member).trans tail⟩
          · rw [opened goes, List.cons_append]
          · rw [closed ends, List.cons_append]
        · -- The open declaration ends at the semicolon in front of the rest, which is the next one.
          have unquoted : ';' ∉ first ++ '\x27' :: more := by
            simp [unended, one]
          have spelled : first ++ '\x27' :: (more ++ ';' :: rest) = (first ++ '\x27' :: more) ++ ';' :: rest := by
            simp
          obtain ⟨-, rfl⟩ := append_cons_inj unquoted filled (spelled ▸ same)
          have whole : c :: text ++ '\x27' :: (more ++ ';' :: rest) =
              (c :: text ++ '\x27' :: (more ++ [';'])) ++ rest := by
            simp
          rw [whole] at read
          refine ⟨[declaration], by simpa using within, fun _ => ?_, fun ends => absurd opened ends⟩
          rw [whole, findAll_append_of_some (by simp) read, List.singleton_append]

/-! ## Declarations up to a semicolon -/

/-- A declaration is what stands up to the first semicolon behind its start, and nothing behind that matters. -/
theorem fieldDeclaration_taken {text rest : List Char} {declaration : FieldDeclaration}
    (read : fieldDeclaration text = some (declaration, rest)) :
    ∃ taken, ';' ∉ taken ∧ text = taken ++ ';' :: rest ∧
      ∀ other, fieldDeclaration (taken ++ ';' :: other) = some (declaration, other) := by
  obtain ⟨name, type, default, declared, same⟩ := fieldDeclaration_eq_some_iff.mp read
  obtain ⟨head, headed, rfl⟩ := declared.spelled
  refine ⟨head ++ (type ++ defaultText default), ?_, by simp, fun other => ?_⟩
  · have typed : ';' ∉ type := fun member => (declared.type_plain _ member).2 rfl
    have valued : ';' ∉ defaultText default := by
      cases default with
      | none => exact List.not_mem_nil
      | some value => simpa [defaultText] using (declared.default_plain value rfl).2
    rw [List.mem_append, List.mem_append, not_or, not_or]
    exact ⟨headed.not_mem (by decide) (by decide), typed, valued⟩
  · have again : Declares name type default (head ++ (type ++ defaultText default) ++ ';' :: other) other :=
      ⟨⟨head, headed, by simp⟩, declared.type_ne, declared.type_plain, declared.default_plain⟩
    exact fieldDeclaration_eq_some_iff.mpr ⟨name, type, default, again, same⟩

/-- What follows a declaration does not matter to it. -/
theorem fieldDeclaration_append {text rest : List Char} {declaration : FieldDeclaration}
    (read : fieldDeclaration text = some (declaration, rest)) (more : List Char) :
    fieldDeclaration (text ++ more) = some (declaration, rest ++ more) := by
  obtain ⟨taken, -, rfl, stable⟩ := fieldDeclaration_taken read
  rw [List.append_assoc, List.cons_append]
  exact stable (rest ++ more)

theorem fieldDeclaration_semicolon (after : List Char) : fieldDeclaration (';' :: after) = none := by
  have alone : ':' ∉ [] ++ [';'] := by decide
  exact not_reads_iff.mp (nowhere_fieldDeclaration alone (by decide) (by decide) after).1

/-- The declarations before a semicolon do not depend on what stands behind it. -/
theorem findAll_fieldDeclaration_append_semicolon (before after : List Char) :
    findAll fieldDeclaration (before ++ ';' :: after) =
      findAll fieldDeclaration (before ++ [';']) ++ findAll fieldDeclaration after := by
  -- A declaration takes many signs away at once, so the induction is on the length of what is left.
  induction bound : before.length using Nat.strong_induction_on generalizing before with
  | _ n ih =>
    subst bound
    cases before with
    | nil =>
      rw [List.nil_append, List.nil_append, findAll_cons_of_none (fieldDeclaration_semicolon after),
        findAll_cons_of_none (fieldDeclaration_semicolon [])]
      rfl
    | cons c before =>
      cases read : fieldDeclaration (c :: before ++ ';' :: after) with
      | none =>
        have unread : fieldDeclaration (c :: before ++ [';']) = none := by
          rw [Option.eq_none_iff_forall_ne_some]
          rintro ⟨declaration, left⟩ shorter
          have longer := fieldDeclaration_append shorter after
          rw [List.append_assoc, List.singleton_append, read] at longer
          contradiction
        rw [List.cons_append] at read unread ⊢
        rw [List.cons_append, findAll_cons_of_none read, findAll_cons_of_none unread]
        exact ih before.length (Nat.lt_succ_self _) before rfl
      | some out =>
        obtain ⟨declaration, rest⟩ := out
        obtain ⟨taken, unended, split, stable⟩ := fieldDeclaration_taken read
        have goes_on (other : List Char) : findAll fieldDeclaration (taken ++ ';' :: other) =
            declaration :: findAll fieldDeclaration other := by
          have whole : taken ++ ';' :: other = (taken ++ [';']) ++ other := by simp
          have again := stable other
          rw [whole] at again ⊢
          exact findAll_append_of_some (by simp) again
        by_cases ended : ';' ∈ c :: before
        · obtain ⟨first, more, same, one⟩ := List.eq_append_cons_of_mem ended
          rw [same, List.append_assoc, List.cons_append] at split ⊢
          obtain ⟨rfl, -⟩ := append_cons_inj one unended split
          have shorter : more.length < (c :: before).length := by
            rw [same, List.length_append, List.length_cons]
            omega
          rw [goes_on, List.append_assoc, List.cons_append, goes_on, ih more.length shorter more rfl,
            List.cons_append]
        · obtain ⟨rfl, rfl⟩ := append_cons_inj ended unended split
          rw [goes_on, goes_on]
          rfl

/-! ## What declarations leave of a property -/

variable {properties : Fields Property} {name : String} {declarations : List FieldDeclaration}

theorem get?_withDeclarations_of_ne (others : ∀ declaration ∈ declarations, declaration.name ≠ name) :
    (withDeclarations properties declarations).get? name = properties.get? name := by
  induction declarations generalizing properties with
  | nil => rfl
  | cons declaration declarations ih =>
    rw [List.forall_mem_cons] at others
    have later := @ih (properties.modify declaration.name declaration.applyTo) others.2
    rwa [Fields.get?_modify, if_neg (Ne.symm others.1)] at later

theorem isSome_get?_withDeclarations (properties : Fields Property) (declarations : List FieldDeclaration)
    (name : String) :
    ((withDeclarations properties declarations).get? name).isSome = (properties.get? name).isSome := by
  induction declarations generalizing properties with
  | nil => rfl
  | cons declaration declarations ih =>
    have later := ih (properties.modify declaration.name declaration.applyTo)
    rw [Fields.get?_modify] at later
    refine later.trans ?_
    split_ifs
    · rw [Option.isSome_map]
    · rfl

/-- The last declaration of a name settles the type of its property, and the default if it has one. -/
theorem get?_withDeclarations_of_last {earlier later : List FieldDeclaration} {declaration : FieldDeclaration}
    (last : ∀ other ∈ later, other.name ≠ declaration.name) :
    (withDeclarations properties (earlier ++ declaration :: later)).get? declaration.name =
      ((withDeclarations properties earlier).get? declaration.name).map declaration.applyTo := by
  have steps : withDeclarations properties (earlier ++ declaration :: later) =
      withDeclarations ((withDeclarations properties earlier).modify declaration.name declaration.applyTo)
        later := by
    simp only [withDeclarations, List.foldl_append, List.foldl_cons]
  rw [steps, get?_withDeclarations_of_ne last, Fields.get?_modify, if_pos rfl]

/-- What one declaration after the other leaves of a property. -/
def settled (property : Property) (declarations : List FieldDeclaration) : Property :=
  declarations.foldl (fun property declaration => declaration.applyTo property) property

/-- Each property is changed by the declarations of its name, one after the other. -/
theorem withDeclarations_eq_map (entries : List (String × Property)) (declarations : List FieldDeclaration) :
    withDeclarations ⟨entries⟩ declarations = ⟨entries.map fun entry =>
      (entry.1, settled entry.2 (declarations.filter (·.name = entry.1)))⟩ := by
  induction declarations generalizing entries with
  | nil => simp [withDeclarations, settled]
  | cons declaration declarations ih =>
    have step : withDeclarations ⟨entries⟩ (declaration :: declarations) =
        withDeclarations ((⟨entries⟩ : Fields Property).modify declaration.name declaration.applyTo)
          declarations := rfl
    rw [step, Fields.modify, ih, List.map_map]
    refine congrArg _ (List.map_congr_left fun entry _ => ?_)
    obtain ⟨name, property⟩ := entry
    simp only [Function.comp_apply, List.filter_cons, decide_eq_true_eq, eq_comm (a := declaration.name)]
    split_ifs <;> rfl

/-- What declarations leave of a property: the type of the last, and the last default that one has. -/
def withLastDeclared (declarations : List FieldDeclaration) (property : Property) : Property :=
  { property with
    declaredType := (declarations.getLast?.map (·.type)).or property.declaredType
    default := (declarations.filterMap (·.default)).getLast?.or property.default }

theorem settled_eq_withLastDeclared (property : Property) (declarations : List FieldDeclaration) :
    settled property declarations = withLastDeclared declarations property := by
  induction declarations using List.reverseRecOn with
  | nil => rfl
  | append_singleton earlier last ih =>
    have step : settled property (earlier ++ [last]) = last.applyTo (settled property earlier) := by
      rw [settled, List.foldl_append]
      rfl
    have defaults : ((earlier ++ [last]).filterMap (·.default)).getLast? =
        last.default.or (earlier.filterMap (·.default)).getLast? := by
      rw [List.filterMap_append, List.getLast?_append]
      cases valued : last.default <;> simp [valued]
    rw [step, ih]
    simp only [FieldDeclaration.applyTo, withLastDeclared, defaults, List.getLast?_concat, Option.or_assoc]
    cases last.default <;> rfl

/-- A property without a default is left alone where no declaration has one and the last has its type. -/
theorem settled_eq_self_iff {property : Property} (missing : property.default = none)
    {declarations : List FieldDeclaration} :
    settled property declarations = property ↔
      (∀ declaration ∈ declarations, declaration.default = none) ∧
        ∀ declaration ∈ declarations.getLast?, some declaration.type = property.declaredType := by
  have valued : (declarations.filterMap (·.default)).getLast? = none ↔
      ∀ declaration ∈ declarations, declaration.default = none := by
    rw [List.getLast?_eq_none_iff, List.filterMap_eq_nil_iff]
  obtain ⟨description, kind, required, declaredType, default⟩ := property
  obtain rfl : default = none := missing
  rw [settled_eq_withLastDeclared, withLastDeclared, Property.mk.injEq]
  simp only [Option.or_none, true_and, valued]
  rw [and_comm]
  refine and_congr_right fun _ => ?_
  cases declarations.getLast? <;> simp

end StoryCatalog.Component
