import StoryCatalog.Proofs.Component.Members
import StoryCatalog.Proofs.Source.BlockComment

/-!
# Comments that stay with their constructs

What is reported of a component or of a decorated member is the text of the doc comment directly before it, in every
file whose pieces are contained. Any piece that is not can make a file report a member that no doc comment stands
before.
-/

namespace StoryCatalog.Component

open Text Scan Source

/-! ## What stands behind a doc comment -/

/-- What a member is read from behind its doc comment. -/
def memberBehind (comment : List Char) : Scan (String × Property) := do
  blanks
  char '@'
  let kind ← decorator
  Scan.literal "()"
  blanks
  let name ← identifier
  let description := stripComment comment
  return (String.ofList name,
    { description := String.ofList (trim (erase requiredToken description))
      kind
      required := occurs requiredToken description })

theorem decoratedMember_eq : decoratedMember = docComment >>= memberBehind := rfl

def declarationBehind (comment : List Char) : Scan (List Char) := do
  declarationHead
  return comment

theorem describedDeclaration_eq : describedDeclaration = docComment >>= declarationBehind := rfl

/-- An input or output decorator without arguments and the name of its member, behind blanks only. -/
def StartsMember (name : List Char) (kind : PropertyKind) (text : List Char) : Prop :=
  ∃ (gap between rest : List Char) (written : Decorator), IsGap gap ∧ IsGap between ∧ name ≠ [] ∧
    (∀ c ∈ name, isWord c = true) ∧ Stops isWord rest ∧ written.kind = kind ∧
    text = gap ++ '@' :: (written.word ++ ("()".toList ++ (between ++ (name ++ rest))))

/-- Blanks and a sign that is no star do not start with a star. -/
theorem star_ne_gap_append {gap text rest : List Char} {c : Char} (blank : IsGap gap) (other : c ≠ '*') :
    '*' :: text ≠ gap ++ c :: rest := by
  intro same
  cases gap with
  | nil => exact other (List.cons.inj same).1.symm
  | cons d gap =>
    have star := blank d (List.mem_cons_self ..)
    rw [← (List.cons.inj same).1] at star
    exact absurd star (by decide)

theorem decorator_eq_some_iff {text rest : List Char} {kind : PropertyKind} :
    decorator text = some (kind, rest) ↔ ∃ written : Decorator, written.kind = kind ∧ text = written.word ++ rest := by
  constructor
  · intro read
    simp only [decorator, orElse_eq_some_iff, bind_eq_some_iff, literal_eq_some_iff, pure_eq_some_iff] at read
    rcases read with ⟨_, _, rfl, rfl, rfl⟩ | ⟨-, _, _, rfl, rfl, rfl⟩
    · exact ⟨.input, rfl, rfl⟩
    · exact ⟨.output, rfl, rfl⟩
  · rintro ⟨written, rfl, rfl⟩
    exact decorator_word written rest

theorem memberBehind_eq_some_iff {comment text rest : List Char} {member : String × Property} :
    memberBehind comment text = some (member, rest) ↔
      ∃ (gap between name : List Char) (written : Decorator), IsGap gap ∧ IsGap between ∧ name ≠ [] ∧
        (∀ c ∈ name, isWord c = true) ∧ Stops isWord rest ∧
        text = gap ++ '@' :: (written.word ++ ("()".toList ++ (between ++ (name ++ rest)))) ∧
        member = (String.ofList name, decoratedProperty comment written.kind) := by
  simp only [memberBehind, bind_eq_some_iff, blanks_eq_some_iff, char_eq_some_iff, decorator_eq_some_iff,
    literal_eq_some_iff, identifier_eq_some_iff, pure_eq_some_iff]
  constructor
  · rintro ⟨_, _, ⟨gap, rfl, blank, -⟩, _, _, rfl, _, _, ⟨written, rfl, rfl⟩, _, _, rfl, _, _,
      ⟨between, rfl, between_blank, -⟩, name, _, ⟨name_ne, rfl, name_word, stops⟩, rfl, rfl⟩
    exact ⟨gap, between, name, written, blank, between_blank, name_ne, name_word, stops, rfl, rfl⟩
  · rintro ⟨gap, between, name, written, blank, between_blank, name_ne, name_word, stops, rfl, rfl⟩
    have letter := stops_append_of_ne_nil name_ne (fun c member => isBlank_eq_false_of_isWord (name_word c member))
    exact ⟨(), _, ⟨gap, rfl, blank, (stops_cons ..).mpr (by decide)⟩, (), _, rfl, _, _, ⟨written, rfl, rfl⟩, (), _,
      rfl, (), _, ⟨between, rfl, between_blank, letter _⟩, name, _, ⟨name_ne, rfl, name_word, stops⟩, rfl, rfl⟩

theorem memberBehind_goesOn : GoesOn memberBehind where
  alike comment other text read := by
    obtain ⟨member, rest, read⟩ := read
    obtain ⟨gap, between, name, written, spelled⟩ := memberBehind_eq_some_iff.mp read
    obtain ⟨blank, between_blank, name_ne, name_word, stops, same, -⟩ := spelled
    exact ⟨_, rest, memberBehind_eq_some_iff.mpr
      ⟨gap, between, name, written, blank, between_blank, name_ne, name_word, stops, same, rfl⟩⟩
  starless comment text read := by
    obtain ⟨member, rest, read⟩ := read
    obtain ⟨gap, between, name, written, blank, -, -, -, -, same, -⟩ := memberBehind_eq_some_iff.mp read
    exact star_ne_gap_append blank (by decide) same
  stops comment := by
    have decorated : StopsAt '/' decorator :=
      ((StopsAt.literal (by decide)).bind fun _ => StopsAt.pure _).orElse
        ((StopsAt.literal (by decide)).bind fun _ => StopsAt.pure _)
    refine (StopsAt.blanks (by decide)).bind fun _ => (StopsAt.char (by decide)).bind fun _ =>
      decorated.bind fun kind => (StopsAt.literal (by decide)).bind fun _ => ?_
    exact (StopsAt.blanks (by decide)).bind fun _ => (StopsAt.identifier (by decide)).bind fun name =>
      StopsAt.pure _

/-- What a component is declared with: its decorator, or an exported function, class or constant. -/
inductive ConstructStart : List Char → Prop
  | decorated (rest : List Char) : ConstructStart ("@Component".toList ++ rest)
  | exported {gap default keyword : List Char} (rest : List Char) (gap_ne : gap ≠ []) (blank : IsGap gap)
      (marked : default = [] ∨ ∃ more, more ≠ [] ∧ IsGap more ∧ default = "default".toList ++ more)
      (declares : keyword ∈ ["function".toList, "class".toList, "const".toList]) :
      ConstructStart ("export".toList ++ (gap ++ (default ++ (keyword ++ rest))))

theorem constructStart_of_declarationHead {text rest : List Char} {out : Unit}
    (read : declarationHead text = some (out, rest)) :
    ∃ gap construct, IsGap gap ∧ ConstructStart construct ∧ text = gap ++ construct := by
  simp only [declarationHead, bind_eq_some_iff, blanks_eq_some_iff, orElse_eq_some_iff, literal_eq_some_iff,
    blanks1_eq_some_iff, maybe_eq_some_iff] at read
  obtain ⟨_, _, ⟨gap, rfl, blank, -⟩, rfl | ⟨-, _, _, rfl, _, behind, ⟨between, between_ne, rfl, between_blank, -⟩,
    _, declared, marked, declares⟩⟩ := read
  · exact ⟨gap, _, blank, .decorated rest, rfl⟩
  · obtain ⟨keyword, listed, rfl⟩ :
        ∃ keyword ∈ ["function".toList, "class".toList, "const".toList], declared = keyword ++ rest := by
      rcases declares with rfl | ⟨-, rfl | ⟨-, rfl⟩⟩
      · exact ⟨_, by simp, rfl⟩
      · exact ⟨_, by simp, rfl⟩
      · exact ⟨_, by simp, rfl⟩
    rcases marked with ⟨-, -, _, _, rfl, more, more_ne, rfl, more_blank, -⟩ | ⟨-, rfl, -⟩
    · refine ⟨gap, _, blank, .exported rest between_ne between_blank (.inr ⟨more, more_ne, more_blank, rfl⟩) listed,
        ?_⟩
      simp only [List.append_assoc]
    · exact ⟨gap, _, blank, .exported rest between_ne between_blank (.inl rfl) listed, rfl⟩

theorem declarationBehind_goesOn : GoesOn declarationBehind where
  alike comment other text read := by
    obtain ⟨value, rest, read⟩ := read
    obtain ⟨_, left, read, -⟩ := bind_eq_some_iff.mp read
    exact ⟨other, left, bind_eq_some_iff.mpr ⟨(), left, read, rfl⟩⟩
  starless comment text read := by
    obtain ⟨value, rest, read⟩ := read
    obtain ⟨_, left, read, -⟩ := bind_eq_some_iff.mp read
    obtain ⟨gap, construct, blank, starts, same⟩ := constructStart_of_declarationHead read
    cases starts with
    | decorated => exact star_ne_gap_append blank (by decide) same
    | exported => exact star_ne_gap_append blank (by decide) same
  stops comment := by
    have declared : StopsAt '/' (literal "function" <|> literal "class" <|> literal "const") :=
      (StopsAt.literal (by decide)).orElse ((StopsAt.literal (by decide)).orElse (StopsAt.literal (by decide)))
    have default : StopsAt '/' (do literal "default"; blanks1) :=
      (StopsAt.literal (by decide)).bind fun _ => StopsAt.blanks1 (by decide)
    have exported : StopsAt '/' (do
        literal "export"
        blanks1
        let _ ← maybe do
          literal "default"
          blanks1
        literal "function" <|> literal "class" <|> literal "const") :=
      (StopsAt.literal (by decide)).bind fun _ => (StopsAt.blanks1 (by decide)).bind fun _ =>
        default.maybe.bind fun _ => declared
    exact ((StopsAt.blanks (by decide)).bind fun _ => (StopsAt.literal (by decide)).orElse exported).bind fun _ =>
      StopsAt.pure comment

/-! ## What is reported -/

/-- What is reported is the text of doc comments directly before what it is reported of. -/
structure Attached (file : CommentedText) (description : String) (properties : Fields Property) : Prop where
  described : description = "" ∨ ∃ comment code gap construct, (comment, code) ∈ file.parts ∧ comment.IsDoc ∧
    IsGap gap ∧ ConstructStart construct ∧ code.text = gap ++ construct ∧
    description = String.ofList (stripComment comment.body)
  members : ∀ name property, (name, property) ∈ properties.entries → property.kind ≠ .prop →
    ∃ comment code, (comment, code) ∈ file.parts ∧ comment.IsDoc ∧
      StartsMember name.toList property.kind code.text ∧
      property.description = String.ofList (trim (erase requiredToken (stripComment comment.body)))

/-- Wherever the text is the file of a component, its documentation says such things if there is any, and there is
some where no reading fails. -/
def Reports (content : List Char) (shown : String → Fields Property → Prop) : Prop :=
  ∀ fs path, fs.readFile? path = .ok (some (String.ofList content)) →
    (∀ docs, extractDocs fs path = some docs → shown docs.description docs.properties) ∧
      ((∀ reference, ∃ found, fs.readFile? reference = .ok found) → ∃ docs, extractDocs fs path = some docs)

theorem source_of_extractDocs {fs : FileSystem} {path content : String} {docs : ComponentDocs}
    (read : fs.readFile? path = .ok (some content)) (extracted : extractDocs fs path = some docs) :
    docs.description = (docsOfSource content.toList).description ∧ docs.properties = properties content.toList := by
  rw [docs_eq_of_extractDocs read extracted]
  exact ⟨rfl, rfl⟩

theorem reports_iff {content : List Char} {shown : String → Fields Property → Prop} :
    Reports content shown ↔ shown (docsOfSource content).description (properties content) := by
  constructor
  · intro every
    have read := MemoryFiles.readFile?_write {} "/component.ts" (String.ofList content)
    obtain ⟨held, found⟩ := every _ _ read
    obtain ⟨docs, extracted⟩ := found fun reference => ⟨_, MemoryFiles.readFile? ..⟩
    obtain ⟨description, properties⟩ := source_of_extractDocs read extracted
    have said := held docs extracted
    rwa [description, properties, String.toList_ofList] at said
  · intro held fs path read
    refine ⟨fun docs extracted => ?_, fun readable => exists_extractDocs read readable⟩
    obtain ⟨description, properties⟩ := source_of_extractDocs read extracted
    rwa [description, properties, String.toList_ofList]

theorem PropertyKind.name_injective : Function.Injective PropertyKind.name := by
  intro first second
  cases first <;> cases second <;> decide

/-- Each property was found by one of the passes, with the description that it has. -/
theorem exists_found_of_mem_properties {content : List Char} {name : String} {property : Property}
    (listed : (name, property) ∈ (properties content).entries) :
    ∃ found, (name, found) ∈ decoratedMembers content ++ interfaceFields content ∧ found.kind = property.kind ∧
      found.description = property.description := by
  have same : documented (properties content) =
      documented (Fields.ofList (decoratedMembers content ++ interfaceFields content)) :=
    documented_withDeclarations ..
  have there : (name, property.kind.name, property.description, property.required) ∈ documented (properties content) :=
    List.mem_map.mpr ⟨_, listed, rfl⟩
  rw [same] at there
  obtain ⟨⟨other, found⟩, among, alike⟩ := List.mem_map.mp there
  simp only [Prod.mk.injEq] at alike
  obtain ⟨rfl, kinds, descriptions, -⟩ := alike
  exact ⟨found, Fields.mem_of_mem_ofList among, PropertyKind.name_injective kinds, descriptions⟩

theorem written_of_mem_interfaceFields {content : List Char} {name : String} {property : Property}
    (listed : (name, property) ∈ interfaceFields content) : property.kind = .prop ∧ property.default = none := by
  unfold interfaceFields at listed
  cases found : findFirst? propsInterface content with
  | none =>
    rw [found] at listed
    contradiction
  | some body =>
    rw [found] at listed
    obtain ⟨before, here, rest, -, read⟩ := exists_of_mem_findAll listed
    simp only [interfaceField, bind_eq_some_iff, pure_eq_some_iff, Prod.mk.injEq] at read
    obtain ⟨_, _, -, _, _, -, _, _, -, _, _, -, _, _, -, _, _, -, ⟨-, rfl⟩, -⟩ := read
    exact ⟨rfl, rfl⟩

theorem kind_of_mem_interfaceFields {content : List Char} {name : String} {property : Property}
    (listed : (name, property) ∈ interfaceFields content) : property.kind = .prop :=
  (written_of_mem_interfaceFields listed).1

theorem written_of_mem_decoratedMembers {content : List Char} {name : String} {property : Property}
    (listed : (name, property) ∈ decoratedMembers content) :
    ∃ comment, ∃ written : Decorator, property = decoratedProperty comment written.kind := by
  obtain ⟨before, here, rest, -, read⟩ := exists_of_mem_findAll listed
  rw [decoratedMember_eq] at read
  obtain ⟨comment, left, -, read⟩ := bind_eq_some_iff.mp read
  obtain ⟨_, _, _, written, -, -, -, -, -, -, same⟩ := memberBehind_eq_some_iff.mp read
  exact ⟨comment, written, (Prod.mk.inj same).2⟩

theorem kind_of_mem_decoratedMembers {content : List Char} {name : String} {property : Property}
    (listed : (name, property) ∈ decoratedMembers content) : property.kind ≠ .prop := by
  obtain ⟨comment, written, rfl⟩ := written_of_mem_decoratedMembers listed
  cases written <;> simp [decoratedProperty, Decorator.kind]

/-- What a pass finds is a property. -/
theorem exists_property_of_found {content : List Char} {name : String} {found : Property}
    (listed : (name, found) ∈ decoratedMembers content ++ interfaceFields content) :
    ∃ property, (name, property) ∈ (properties content).entries := by
  have keys : (properties content).keys =
      (Fields.ofList (decoratedMembers content ++ interfaceFields content)).keys := by
    have same := congrArg (List.map (·.1)) (documented_withDeclarations
      (Fields.ofList (decoratedMembers content ++ interfaceFields content)) (findAll fieldDeclaration content))
    rw [documented, documented, List.map_map, List.map_map] at same
    exact same
  have there : name ∈ (properties content).keys := by
    rw [keys, Fields.keys_ofList, List.mem_eraseDups]
    exact List.mem_map_of_mem listed
  obtain ⟨⟨_, property⟩, present, rfl⟩ := List.mem_map.mp there
  exact ⟨property, present⟩

theorem readPart_eq_some_iff {α : Type} {next : List Char → Scan α} {comment : BlockComment} {code : CodeText}
    {value : α} :
    readPart next (comment, code) = some value ↔
      comment.IsDoc ∧ ∃ rest, next comment.body code.text = some (value, rest) := by
  rw [readPart, Option.ite_none_right_eq_some]
  simp

/-! ## Where all pieces are contained -/

variable {file : CommentedText}

theorem described_attached (contained : file.Contained) :
    (docsOfSource file.source).description = "" ∨
      ∃ comment code gap construct, (comment, code) ∈ file.parts ∧ comment.IsDoc ∧
        IsGap gap ∧ ConstructStart construct ∧ code.text = gap ++ construct ∧
        (docsOfSource file.source).description = String.ofList (stripComment comment.body) := by
  have ended : describedDeclaration [] = none := rfl
  have first := findFirst?_eq_head?_findAll ended file.source
  rw [describedDeclaration_eq, declarationBehind_goesOn.findAll_source contained, ← describedDeclaration_eq] at first
  cases found : (file.parts.filterMap (readPart declarationBehind)).head? with
  | none =>
    rw [found] at first
    exact .inl (by rw [docsOfSource, first])
  | some body =>
    rw [found] at first
    obtain ⟨⟨comment, code⟩, listed, read⟩ := List.mem_filterMap.mp (List.mem_of_head? found)
    obtain ⟨doc, rest, read⟩ := readPart_eq_some_iff.mp read
    obtain ⟨_, left, headed, same⟩ := bind_eq_some_iff.mp read
    obtain ⟨rfl, -⟩ := pure_eq_some_iff.mp same
    obtain ⟨gap, construct, blank, starts, split⟩ := constructStart_of_declarationHead headed
    exact .inr ⟨comment, code, gap, construct, listed, doc, blank, starts, split, by rw [docsOfSource, first]⟩

theorem members_attached (contained : file.Contained) {name : String} {property : Property}
    (listed : (name, property) ∈ (properties file.source).entries) (decorated : property.kind ≠ .prop) :
    ∃ comment code, (comment, code) ∈ file.parts ∧ comment.IsDoc ∧
      StartsMember name.toList property.kind code.text ∧
      property.description = String.ofList (trim (erase requiredToken (stripComment comment.body))) := by
  obtain ⟨found, among, kind, description⟩ := exists_found_of_mem_properties listed
  rcases List.mem_append.mp among with among | among
  · rw [decoratedMembers, decoratedMember_eq, memberBehind_goesOn.findAll_source contained] at among
    obtain ⟨⟨comment, code⟩, there, read⟩ := List.mem_filterMap.mp among
    obtain ⟨doc, rest, read⟩ := readPart_eq_some_iff.mp read
    obtain ⟨gap, between, word, written, blank, between_blank, word_ne, all_word, stops, split, same⟩ :=
      memberBehind_eq_some_iff.mp read
    obtain ⟨rfl, rfl⟩ := Prod.mk.inj same
    refine ⟨comment, code, there, doc, ?_, description.symm⟩
    rw [String.toList_ofList]
    exact ⟨gap, between, rest, written, blank, between_blank, word_ne, all_word, stops, kind, split⟩
  · exact absurd (kind ▸ kind_of_mem_interfaceFields among) decorated

/-! ## Where one piece is not -/

/-- A member that is found where no doc comment stands before one is reported without such a comment. -/
theorem not_reports_of_member {before here : List Char} (split : file.source = before ++ here)
    (read : decoratedMember.Reads here) (fieldless : Nowhere WordAfterComment file.source [])
    (unattached : ∀ comment code, (comment, code) ∈ file.parts → comment.IsDoc → '@' ∉ code.text) :
    ¬Reports file.source (Attached file) := by
  intro every
  have attached := (reports_iff.mp every).members
  have ended : decoratedMember [] = none := rfl
  have found : decoratedMembers file.source ≠ [] := by
    rw [split]
    exact findAll_ne_nil ended read
  obtain ⟨⟨name, member⟩, listed⟩ := List.exists_mem_of_ne_nil _ found
  obtain ⟨property, there⟩ := exists_property_of_found (List.mem_append_left (interfaceFields file.source) listed)
  obtain ⟨other, among, kind, -⟩ := exists_found_of_mem_properties there
  rw [interfaceFields_eq_nil fieldless, List.append_nil] at among
  have decorated : property.kind ≠ .prop := kind ▸ kind_of_mem_decoratedMembers among
  obtain ⟨comment, code, present, doc, ⟨gap, between, rest, written, -, -, -, -, -, -, spelled⟩, -⟩ :=
    attached name property there decorated
  exact unattached comment code present doc (spelled ▸ List.mem_append_right _ (List.mem_cons_self ..))

/-! ### Files around one piece -/

/-- A comment that is no doc comment. -/
def note : BlockComment where
  inside := " d ".toList
  ends := nowhere_literal_of_not_mem '*' rfl (by decide) _

def lineCode : CodeText where
  text := ['\n']
  unopened := by decide
  unclosed := by decide

/-- A member that is attached to whatever doc comment is read before it. -/
def memberCode : CodeText where
  text := "\n@Input() x".toList
  unopened := by decide
  unclosed := by decide

def noCode : CodeText where
  text := []
  unopened := by decide
  unclosed := by decide

/-- A file around one part. -/
def fileOf (part : BlockComment × CodeText) (parts : List (BlockComment × CodeText)) : CommentedText :=
  ⟨noCode, part :: parts⟩

theorem CodeText.contained_of_head {code : CodeText} (starts : code.text.head? ≠ some '*') : code.Contained := by
  intro more same
  rw [same] at starts
  exact absurd rfl starts

theorem note_contained : note.Contained :=
  ⟨by decide, .inr (by decide)⟩

theorem memberBehind_memberCode (comment : List Char) : (memberBehind comment).Reads memberCode.text := by
  have read : (memberBehind []).Reads memberCode.text := ⟨_, _, rfl⟩
  exact memberBehind_goesOn.alike [] comment _ read

/-- A text without the three signs of a doc comment has no word behind one. -/
theorem nowhere_wordAfterComment_of_unstarred {text : List Char} (absent : ¬"/**".toList <:+: text) :
    Nowhere WordAfterComment text [] :=
  (nowhere_of_absent absent).mono fun _ worded => starred_of_docComment (worded.commented)

/-- No word stands behind a doc comment within a comment, where it stands behind none that starts at its end. -/
theorem nowhere_wordAfterComment_source {comment : BlockComment} {gap rest : List Char} {sign : Char}
    (blank : IsGap gap) (solid : isBlank sign = false) (foreign : isWord sign = false)
    (crossing : ¬WordAfterComment ("/**/".toList ++ (gap ++ sign :: rest)))
    (closing : ¬WordAfterComment ('/' :: (gap ++ sign :: rest))) :
    Nowhere WordAfterComment comment.source (gap ++ sign :: rest) := by
  rw [nowhere_iff]
  rintro before here split nonempty worded
  obtain ⟨text, left, read⟩ := worded.commented
  obtain ⟨rfl, -⟩ | rfl | rfl := BlockComment.docComment_within split read nonempty
  · exact not_wordAfterComment_of_sign read blank solid foreign worded
  · exact crossing worded
  · exact closing worded

/-- A sign that cannot start a doc comment with a line feed behind it. -/
theorem not_wordAfterComment_line (rest : List Char) : ¬WordAfterComment ('/' :: '\n' :: rest) := by
  intro worded
  have starred := starred_of_docComment (worded.commented)
  exact absurd (List.cons_prefix_cons.mp (List.cons_prefix_cons.mp starred).2).1 (by decide)

theorem isGap_line : IsGap ['\n'] := by
  simp
  decide

/-- A comment that ends right behind three signs of a doc comment makes one with the code and the comment behind
it. -/
theorem not_reports_of_end {comment : BlockComment} (ended : "/**/".toList <:+ comment.source) :
    ¬Reports (fileOf (comment, lineCode) [(note, memberCode)]).source
      (Attached (fileOf (comment, lineCode) [(note, memberCode)])) := by
  obtain ⟨before, split⟩ := ended
  let rest := ['\n'] ++ '/' :: "* d */\n@Input() x".toList
  have spelled : (fileOf (comment, lineCode) [(note, memberCode)]).source = comment.source ++ rest := by
    simp [CommentedText.source, fileOf, noCode, partSource, lineCode, List.append_assoc]
    rfl
  have whole : (fileOf (comment, lineCode) [(note, memberCode)]).source =
      before ++ ("/**/".toList ++ rest) := by
    rw [spelled, ← split, List.append_assoc]
  have crossed : docComment ("/**/".toList ++ rest) = some ("/\n/* d".toList, memberCode.text) := by
    decide +kernel
  have read : decoratedMember.Reads ("/**/".toList ++ rest) := by
    obtain ⟨member, left, found⟩ := memberBehind_memberCode "/\n/* d".toList
    exact ⟨member, left, bind_eq_some_iff.mpr ⟨_, _, crossed, found⟩⟩
  refine not_reports_of_member whole read ?_ ?_
  · have crossing : ¬WordAfterComment ("/**/".toList ++ rest) :=
      not_wordAfterComment_of_sign crossed isGap_line (by decide) (by decide)
    rw [spelled, nowhere_append, List.append_nil]
    exact ⟨nowhere_wordAfterComment_source isGap_line (by decide) (by decide) crossing (not_wordAfterComment_line _),
      nowhere_wordAfterComment_of_unstarred (by decide)⟩
  · intro other code listed doc
    rcases List.mem_pair.mp listed with same | same
    · obtain ⟨-, rfl⟩ := Prod.mk.inj same
      decide
    · obtain ⟨rfl, -⟩ := Prod.mk.inj same
      exact absurd doc (by decide)

/-- A comment that is no doc comment but holds one inside lends it to the member behind. -/
theorem not_reports_of_inside {comment : BlockComment} (undocumented : ¬comment.IsDoc)
    (inside : "/**".toList <:+: comment.inside) :
    ¬Reports (fileOf (comment, memberCode) []).source (Attached (fileOf (comment, memberCode) [])) := by
  obtain ⟨before, more, split⟩ := inside
  have spelled : (fileOf (comment, memberCode) []).source = comment.source ++ memberCode.text := by
    simp [CommentedText.source, fileOf, noCode, partSource]
  have whole : (fileOf (comment, memberCode) []).source =
      (['/', '*'] ++ before) ++ ("/**".toList ++ (more ++ ("*/".toList ++ memberCode.text))) := by
    rw [spelled, BlockComment.source, ← split]
    simp only [List.append_assoc]
    rfl
  have ends : Nowhere (literal "*/").Reads more "*/".toList := by
    have all := comment.ends
    rw [← split, nowhere_append] at all
    exact all.2
  have read : decoratedMember.Reads ("/**".toList ++ (more ++ ("*/".toList ++ memberCode.text))) := by
    obtain ⟨member, left, found⟩ := memberBehind_memberCode (trim more)
    exact ⟨member, left, bind_eq_some_iff.mpr ⟨_, _, docComment_eq_some_iff.mpr ⟨more, rfl, ends, rfl⟩, found⟩⟩
  refine not_reports_of_member whole read ?_ ?_
  · rw [spelled, nowhere_append]
    refine ⟨?_, nowhere_wordAfterComment (by decide) _⟩
    have unended : docComment ("/**/".toList ++ memberCode.text) = none := by decide +kernel
    rw [List.append_nil]
    refine nowhere_wordAfterComment_source isGap_line (by decide) (by decide) (fun worded => ?_)
      (not_wordAfterComment_line _)
    exact not_reads_iff.mpr unended (worded.commented)
  · intro other code listed doc
    obtain ⟨rfl, -⟩ := Prod.mk.inj (List.mem_singleton.mp listed)
    exact absurd doc undocumented

/-- Code that goes on with two stars behind a comment makes a doc comment of the comment's end, up to the end of the
next comment. -/
theorem not_reports_of_stars {code : CodeText} {more : List Char} (stars : code.text = "**".toList ++ more)
    (ended : more.getLast? ≠ some '*') :
    ¬Reports (fileOf (note, code) [(note, memberCode)]).source
      (Attached (fileOf (note, code) [(note, memberCode)])) := by
  have spelled : (fileOf (note, code) [(note, memberCode)]).source =
      ('/' :: "* d *".toList) ++ ('/' :: (code.text ++ (note.source ++ memberCode.text))) := by
    simp [CommentedText.source, fileOf, noCode, partSource]
    rfl
  have ends : Nowhere (literal "*/").Reads (more ++ "/* d ".toList) "*/".toList := by
    have unclosed : ¬['*', '/'] <:+: more := fun found =>
      code.unclosed (found.trans (stars ▸ (List.suffix_append "**".toList more).isInfix))
    rw [nowhere_append]
    exact ⟨nowhere_commentEnd unclosed fun last => absurd last ended,
      nowhere_commentEnd (by decide) fun _ => (stops_cons ..).mpr (by decide)⟩
  have crossed : docComment ('/' :: (code.text ++ (note.source ++ memberCode.text))) =
      some (trim (more ++ "/* d ".toList), memberCode.text) := by
    refine docComment_eq_some_iff.mpr ⟨_, ?_, ends, rfl⟩
    rw [stars]
    simp only [List.append_assoc]
    rfl
  have read : decoratedMember.Reads ('/' :: (code.text ++ (note.source ++ memberCode.text))) := by
    obtain ⟨member, left, found⟩ := memberBehind_memberCode (trim (more ++ "/* d ".toList))
    exact ⟨member, left, bind_eq_some_iff.mpr ⟨_, _, crossed, found⟩⟩
  refine not_reports_of_member spelled read ?_ ?_
  · have unstarred (rest : List Char) : ¬WordAfterComment ('/' :: "* d *".toList ++ rest) := by
      intro worded
      have starred := starred_of_docComment (worded.commented)
      have third := (List.cons_prefix_cons.mp (List.cons_prefix_cons.mp starred).2).2
      exact absurd (List.cons_prefix_cons.mp third).1 (by decide)
    have behind : Nowhere WordAfterComment code.text (note.source ++ memberCode.text) :=
      (code.nowhere_docComment (.inr ⟨_, rfl⟩)).mono fun _ => WordAfterComment.commented
    rw [spelled, nowhere_append, nowhere_cons, nowhere_cons, nowhere_append]
    simp only [List.append_nil]
    exact ⟨⟨unstarred _, nowhere_wordAfterComment (by decide) _⟩,
      not_wordAfterComment_of_sign crossed isGap_line (by decide) (by decide), behind,
      nowhere_wordAfterComment_of_unstarred (by decide)⟩
  · intro other text listed doc
    rcases List.mem_pair.mp listed with same | same
    · obtain ⟨rfl, -⟩ := Prod.mk.inj same
      exact absurd doc (by decide)
    · obtain ⟨rfl, -⟩ := Prod.mk.inj same
      exact absurd doc (by decide)

/-- What is reported of a component and its decorated members is the text of the doc comments directly before them,
where all pieces of the file are contained. Of a comment or a code that is not contained that cannot be said: with
contained pieces around it something else is reported. -/
theorem attached_where_contained (file : CommentedText) :
    (file.Contained → Reports file.source (Attached file)) ∧
    ∀ part ∈ file.parts,
      (¬part.1.Contained → ∃ code parts, code.Contained ∧ (∀ other ∈ parts, ContainedPart other) ∧
        ¬Reports (fileOf (part.1, code) parts).source (Attached (fileOf (part.1, code) parts))) ∧
      (¬part.2.Contained → ∃ comment parts, comment.Contained ∧ (∀ other ∈ parts, ContainedPart other) ∧
        ¬Reports (fileOf (comment, part.2) parts).source (Attached (fileOf (comment, part.2) parts))) := by
  have behind : ∀ part ∈ [(note, memberCode)], ContainedPart part :=
    List.forall_mem_singleton.mpr ⟨note_contained, CodeText.contained_of_head (by decide)⟩
  refine ⟨fun contained => ?_, ?_⟩
  · rw [reports_iff]
    exact ⟨described_attached contained, fun _ _ listed decorated => members_attached contained listed decorated⟩
  · rintro ⟨comment, code⟩ -
    refine ⟨fun uncontained => ?_, fun uncontained => ?_⟩
    · by_cases ended : "/**/".toList <:+ comment.source
      · exact ⟨lineCode, _, CodeText.contained_of_head (by decide), behind, not_reports_of_end ended⟩
      · rw [BlockComment.Contained, not_and_or, not_not, not_or, not_not] at uncontained
        obtain ⟨undocumented, inside⟩ := uncontained.resolve_left ended
        exact ⟨memberCode, [], CodeText.contained_of_head (by decide), by simp,
          not_reports_of_inside undocumented inside⟩
    · obtain ⟨more, uncontained⟩ := not_forall.mp uncontained
      obtain ⟨stars, ended⟩ := Classical.not_imp.mp uncontained
      exact ⟨note, _, note_contained, behind, not_reports_of_stars stars ended⟩

def buttonComment : BlockComment where
  inside := "* A button. ".toList
  ends := nowhere_commentEnd (by decide) fun _ => (stops_cons ..).mpr (by decide)

def captionComment : BlockComment where
  inside := "* The caption. @required ".toList
  ends := nowhere_commentEnd (by decide) fun _ => (stops_cons ..).mpr (by decide)

/-- A comment without anything in it. -/
def emptyComment : BlockComment where
  inside := []
  ends := trivial

def constantCode : CodeText where
  text := "\nconst size = 1;\n".toList
  unopened := by decide
  unclosed := by decide

def classCode : CodeText where
  text := "\n@Component(\x7b\x7d)\nexport class Button \x7b\n".toList
  unopened := by decide
  unclosed := by decide

def captionCode : CodeText where
  text := "\n  @Input() caption = 1;\n\x7d\n".toList
  unopened := by decide
  unclosed := by decide

/-- A class with a doc comment and a member with one, behind a comment that is none. -/
def buttonFile : CommentedText :=
  ⟨noCode, [(note, constantCode), (buttonComment, classCode), (captionComment, captionCode)]⟩

/-- A class with a doc comment behind an empty comment. -/
def emptyFirstFile : CommentedText :=
  ⟨noCode, [(emptyComment, constantCode), (buttonComment, classCode)]⟩

/-- The text of a file, in memory. -/
def commentedFile (file : CommentedText) : MemoryFiles :=
  .write {} "/button.ts" (String.ofList file.source)

theorem buttonFile_attached :
    buttonFile.Contained ∧
    ∃ docs, extractDocs (commentedFile buttonFile).toFileSystem "/button.ts" = some docs ∧
      Attached buttonFile docs.description docs.properties ∧ docs.description = "A button." ∧
      docs.properties.entries.map (fun entry => (entry.1, entry.2.description)) = [("caption", "The caption.")] := by
  have contained : buttonFile.Contained := by
    have commented : note.Contained ∧ buttonComment.Contained ∧ captionComment.Contained :=
      ⟨note_contained, ⟨by decide, .inl (by decide)⟩, ⟨by decide, .inl (by decide)⟩⟩
    rintro part listed
    simp only [buttonFile, List.mem_cons, List.not_mem_nil, or_false] at listed
    rcases listed with rfl | rfl | rfl
    · exact ⟨commented.1, CodeText.contained_of_head (by decide)⟩
    · exact ⟨commented.2.1, CodeText.contained_of_head (by decide)⟩
    · exact ⟨commented.2.2, CodeText.contained_of_head (by decide)⟩
  have read := MemoryFiles.readFile?_write {} "/button.ts" (String.ofList buttonFile.source)
  obtain ⟨held, found⟩ := (attached_where_contained buttonFile).1 contained _ _ read
  obtain ⟨docs, extracted⟩ := found fun reference => ⟨_, MemoryFiles.readFile? ..⟩
  obtain ⟨description, properties⟩ := source_of_extractDocs read extracted
  refine ⟨contained, docs, extracted, held docs extracted, ?_, ?_⟩
  · rw [description]
    decide +kernel
  · rw [properties]
    decide +kernel

/-- Behind an empty comment the component is described with code, and with the start of its own comment. -/
theorem emptyComment_reaches_on :
    (extractDocs (commentedFile emptyFirstFile).toFileSystem "/button.ts").map ComponentDocs.description =
        some "/\nconst size = 1;\n/** A button." ∧
      String.ofList (stripComment buttonComment.body) = "A button." := by
  decide +kernel

end StoryCatalog.Component
