import StoryCatalog.Proofs.FileSystem.Memory
import StoryCatalog.Proofs.Path.Join
import StoryCatalog.Story.Session

/-!
# What a session is answered

Files in memory hold under each place what was written there last, and a session's questions leave them as they
are. So a question is answered from the writings before it alone, and leaving it out of the session changes no
other answer.
-/

namespace StoryCatalog

open NormalPath

/-! ## The last writing -/

namespace MemoryFiles

/-- Something was written to the place of the path. -/
def WrittenTo (writings : List (String × String)) (path : String) : Prop :=
  ∃ pair ∈ writings, root.normalText pair.1 = root.normalText path

/-- The content was written to the place of the path, and nothing was written there later. -/
def LastWritten (writings : List (String × String)) (path content : String) : Prop :=
  ∃ earlier other later, writings = earlier ++ (other, content) :: later ∧
    root.normalText other = root.normalText path ∧ ∀ pair ∈ later, root.normalText pair.1 ≠ root.normalText path

variable {writings : List (String × String)} {path content : String}

theorem ofList_append_singleton (writings : List (String × String)) (path content : String) :
    ofList (writings ++ [(path, content)]) = (ofList writings).write path content := by
  rw [ofList, List.foldl_append]
  rfl

theorem get?_write_of_same (files : MemoryFiles) {other : String} (content : String)
    (same : root.normalText other = root.normalText path) : (files.write other content).get? path = some content := by
  rw [get?_congr _ (show root.normalText path = root.normalText other from same.symm), get?_write]

/-- A writing of a longer list is its last one, or stands in the list before. -/
private theorem concat_eq_append_cons {α : Type} {front earlier later : List α} {last here : α}
    (split : front ++ [last] = earlier ++ here :: later) :
    (later = [] ∧ last = here) ∨ ∃ between, later = between ++ [last] ∧ front = earlier ++ here :: between := by
  rcases List.eq_nil_or_concat later with rfl | ⟨between, ending, rfl⟩
  · exact .inl ⟨rfl, (List.cons.inj (List.append_inj' split rfl).2).1⟩
  · rw [List.concat_eq_append, ← List.cons_append, ← List.append_assoc] at split
    obtain ⟨same, ends⟩ := List.append_inj' split rfl
    exact .inr ⟨between, by rw [List.concat_eq_append, (List.cons.inj ends).1], same⟩

theorem lastWritten_concat_of_same {other : String} (same : root.normalText other = root.normalText path) (text : String) :
    LastWritten (writings ++ [(other, text)]) path content ↔ text = content := by
  constructor
  · rintro ⟨earlier, written, later, split, -, elsewhere⟩
    rcases concat_eq_append_cons split with ⟨-, last⟩ | ⟨between, rfl, -⟩
    · exact congrArg Prod.snd last
    · have last := (List.forall_mem_append.mp elsewhere).2 (other, text) (List.mem_singleton.mpr rfl)
      exact absurd same last
  · rintro rfl
    exact ⟨writings, other, [], rfl, same, fun _ member => absurd member List.not_mem_nil⟩

theorem lastWritten_concat_of_ne {other : String} (differ : root.normalText other ≠ root.normalText path) (text : String) :
    LastWritten (writings ++ [(other, text)]) path content ↔ LastWritten writings path content := by
  constructor
  · rintro ⟨earlier, written, later, split, same, elsewhere⟩
    rcases concat_eq_append_cons split with ⟨-, last⟩ | ⟨between, rfl, rfl⟩
    · obtain ⟨rfl, -⟩ := Prod.mk.inj last
      exact absurd same differ
    · exact ⟨earlier, written, between, rfl, same, (List.forall_mem_append.mp elsewhere).1⟩
  · rintro ⟨earlier, written, later, rfl, same, elsewhere⟩
    refine ⟨earlier, written, later ++ [(other, text)], by simp, same, ?_⟩
    exact List.forall_mem_append.mpr ⟨elsewhere, List.forall_mem_singleton.mpr differ⟩

/-- Under each path stands what was written there last. -/
theorem get?_ofList_eq_some_iff : (ofList writings).get? path = some content ↔ LastWritten writings path content := by
  induction writings using List.reverseRecOn with
  | nil =>
    refine ⟨fun found => (nomatch found), ?_⟩
    rintro ⟨earlier, other, later, split, -, -⟩
    exact absurd split.symm (by simp)
  | append_singleton writings pair ih =>
    obtain ⟨other, text⟩ := pair
    rw [ofList_append_singleton]
    by_cases same : root.normalText other = root.normalText path
    · rw [get?_write_of_same _ text same, lastWritten_concat_of_same same, Option.some.injEq]
    · rw [get?_write_of_ne _ text same, ih, lastWritten_concat_of_ne same]

theorem exists_lastWritten_iff : (∃ content, LastWritten writings path content) ↔ WrittenTo writings path := by
  constructor
  · rintro ⟨content, earlier, other, later, rfl, same, -⟩
    exact ⟨_, List.mem_append_right _ (List.mem_cons_self ..), same⟩
  · rintro ⟨pair, member, same⟩
    induction writings using List.reverseRecOn with
    | nil => exact absurd member List.not_mem_nil
    | append_singleton writings last ih =>
      obtain ⟨other, text⟩ := last
      by_cases here : root.normalText other = root.normalText path
      · exact ⟨text, (lastWritten_concat_of_same here text).mpr rfl⟩
      · rcases List.mem_append.mp member with earlier | ending
        · obtain ⟨content, found⟩ := ih earlier
          exact ⟨content, (lastWritten_concat_of_ne here text).mpr found⟩
        · obtain rfl := List.mem_singleton.mp ending
          exact absurd same here

theorem get?_ofList_eq_none_iff : (ofList writings).get? path = none ↔ ¬WrittenTo writings path := by
  rw [← exists_lastWritten_iff, Option.eq_none_iff_forall_ne_some, not_exists]
  exact forall_congr' fun content => not_congr get?_ofList_eq_some_iff

end MemoryFiles

namespace Story

open MemoryFiles

/-! ## Steps -/

/-- The writings of a session in its order. -/
def writings : List SessionStep → List (String × String)
  | [] => []
  | .write path content :: steps => (path, content) :: writings steps
  | .ask _ :: steps => writings steps

/-- The files as a session leaves them. -/
def leaves (files : MemoryFiles) (steps : List SessionStep) : MemoryFiles :=
  (writings steps).foldl (fun files (path, content) => files.write path content) files

variable {view : FileSystem → FileSystem}

theorem length_answers (files : MemoryFiles) (steps : List SessionStep) :
    (answers view files steps).length = steps.length := by
  induction steps generalizing files with
  | nil => rfl
  | cons step steps ih =>
    cases step with
    | write path content => exact congrArg (· + 1) (ih _)
    | ask question => exact congrArg (· + 1) (ih _)

/-- The steps behind others are answered from the files that those leave. -/
theorem answers_append (files : MemoryFiles) (before after : List SessionStep) :
    answers view files (before ++ after) = answers view files before ++ answers view (leaves files before) after := by
  induction before generalizing files with
  | nil => rfl
  | cons step before ih =>
    cases step with
    | write path content => exact congrArg (none :: ·) (ih _)
    | ask question => exact congrArg (some (question.answer (view files.toFileSystem)) :: ·) (ih _)

theorem leaves_ofList (given : List (String × String)) (steps : List SessionStep) :
    leaves (ofList given) steps = ofList (given ++ writings steps) := by
  rw [leaves, ofList, ofList, List.foldl_append]

/-- What a question is answered behind some steps and before others. -/
def answerBetween (files : MemoryFiles) (before : List SessionStep) (question : Question) (after : List SessionStep) :
    Option Answer :=
  (answers id files (before ++ .ask question :: after))[before.length]?.join

/-- A question is answered from the files that the writings before it make. -/
theorem answerBetween_ofList (given : List (String × String)) (before : List SessionStep) (question : Question)
    (after : List SessionStep) : answerBetween (ofList given) before question after =
      some (question.answer (ofList (given ++ writings before)).toFileSystem) := by
  have first : (answers id (ofList given) before).length = before.length := length_answers _ _
  rw [answerBetween, answers_append, leaves_ofList, List.getElem?_append_right first.le, first, Nat.sub_self]
  rfl

/-- A session is answered the same without one of its questions. -/
theorem eraseIdx_answers (files : MemoryFiles) (before : List SessionStep) (question : Question)
    (after : List SessionStep) : (answers view files (before ++ .ask question :: after)).eraseIdx before.length =
      answers view files (before ++ after) := by
  have first : (answers view files before).length = before.length := length_answers _ _
  rw [answers_append, answers_append, ← first, List.eraseIdx_append_of_length_le le_rfl, Nat.sub_self]
  rfl

theorem answer_isFile (files : MemoryFiles) (path : String) :
    (Question.isFile path).answer files.toFileSystem = .isFile (.ok (files.get? path).isSome) := rfl

theorem answer_readText_iff (files : MemoryFiles) {path content : String} :
    (Question.readText path).answer files.toFileSystem = .readText (.ok content) ↔ files.get? path = some content := by
  simp only [Question.answer, toFileSystem, Answer.readText.injEq]
  cases files.get? path <;> simp

theorem answer_readText_unwritten_iff (files : MemoryFiles) {path : String} :
    (Question.readText path).answer files.toFileSystem = .readText (.error (.neverWritten path)) ↔
      files.get? path = none := by
  simp only [Question.answer, toFileSystem, Answer.readText.injEq]
  cases files.get? path <;> simp

/-- Wherever in a session it is asked, there is a file exactly where one can be read, which is where something was
written before to the same place; what is read is what was written there last, and nothing but the path is told
where nothing was written. No question changes what the session is answered otherwise. -/
theorem session_reads_last_written (given : List (String × String)) (before after : List SessionStep) (path : String) :
    (∀ content, answerBetween (ofList given) before (.readText path) after = some (.readText (.ok content)) ↔
      LastWritten (given ++ writings before) path content) ∧
    ((∃ content, answerBetween (ofList given) before (.readText path) after = some (.readText (.ok content))) ↔
      WrittenTo (given ++ writings before) path) ∧
    (answerBetween (ofList given) before (.isFile path) after = some (.isFile (.ok true)) ↔
      WrittenTo (given ++ writings before) path) ∧
    (answerBetween (ofList given) before (.isFile path) after = some (.isFile (.ok false)) ↔
      ¬WrittenTo (given ++ writings before) path) ∧
    (answerBetween (ofList given) before (.readText path) after = some (.readText (.error (.neverWritten path))) ↔
      ¬WrittenTo (given ++ writings before) path) ∧
    (Fault.neverWritten path).message = path ∧
    ∀ question, (answers id (ofList given) (before ++ .ask question :: after)).eraseIdx before.length =
      answers id (ofList given) (before ++ after) := by
  have read (content : String) : answerBetween (ofList given) before (.readText path) after =
      some (.readText (.ok content)) ↔ LastWritten (given ++ writings before) path content := by
    rw [answerBetween_ofList, Option.some.injEq, answer_readText_iff, get?_ofList_eq_some_iff]
  have written : (∃ content, LastWritten (given ++ writings before) path content) ↔
      WrittenTo (given ++ writings before) path := exists_lastWritten_iff
  refine ⟨read, (exists_congr read).trans written, ?_, ?_, ?_, rfl, fun question => eraseIdx_answers _ _ question _⟩
  · rw [answerBetween_ofList, answer_isFile, ← written]
    simp only [Option.some.injEq, Answer.isFile.injEq, Except.ok.injEq, Option.isSome_iff_exists,
      get?_ofList_eq_some_iff]
  · rw [answerBetween_ofList, answer_isFile, ← get?_ofList_eq_none_iff]
    simp only [Option.some.injEq, Answer.isFile.injEq, Except.ok.injEq, Option.isSome_eq_false_iff,
      Option.isNone_iff_eq_none]
  · rw [answerBetween_ofList, Option.some.injEq, answer_readText_unwritten_iff, get?_ofList_eq_none_iff]

end Story

end StoryCatalog
