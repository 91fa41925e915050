import StoryCatalog.Proofs.Component.AttachedComments
import StoryCatalog.Proofs.Component.Declarations

/-!
# What each pass settles

Which properties a component has, in which order, and what their comments say is settled by the decorated members and
the fields of the interface. A field takes the place of a member of its name, and of two that are alike the later
stays. The declarations of a name add its type and its default and touch nothing else: the type is that of the last
declaration, and the default that of the last one that has any.
-/

namespace StoryCatalog.Component

open Text Scan Source

variable {content : List Char} {name : String}

/-! ## The first two passes -/

/-- What is found last under a name. -/
def lastUnder? (name : String) (found : List (String × Property)) : Option Property :=
  found.reverse.lookup name

theorem lastUnder?_append (members fields : List (String × Property)) :
    lastUnder? name (members ++ fields) = (lastUnder? name fields).or (lastUnder? name members) := by
  rw [lastUnder?, List.reverse_append, List.lookup_append]
  rfl

theorem mem_of_lastUnder? {found : List (String × Property)} {property : Property}
    (last : lastUnder? name found = some property) : (name, property) ∈ found := by
  obtain ⟨before, after, split, -⟩ := List.lookup_eq_some_iff.mp last
  rw [← List.mem_reverse, split]
  exact List.mem_append_right _ (List.mem_cons_self ..)

/-- What the first two passes leave under a name: the last field of the interface, or, where no field has the name,
the last decorated member. -/
inductive FoundLast (content : List Char) (name : String) (found : Property) : Prop
  | field (last : lastUnder? name (interfaceFields content) = some found) (kind : found.kind = .prop)
  | member (unlisted : lastUnder? name (interfaceFields content) = none)
      (last : lastUnder? name (decoratedMembers content) = some found) (kind : found.kind ≠ .prop)

theorem FoundLast.mem {found : Property} (last : FoundLast content name found) :
    (name, found) ∈ decoratedMembers content ++ interfaceFields content := by
  cases last with
  | field last => exact List.mem_append_right _ (mem_of_lastUnder? last)
  | member _ last => exact List.mem_append_left _ (mem_of_lastUnder? last)

theorem foundLast_of_get? {found : Property}
    (there : (Fields.ofList (decoratedMembers content ++ interfaceFields content)).get? name = some found) :
    FoundLast content name found := by
  rw [Fields.get?_ofList, ← lastUnder?, lastUnder?_append] at there
  cases last : lastUnder? name (interfaceFields content) with
  | some field =>
    rw [last, Option.some_or, Option.some.injEq] at there
    subst there
    exact .field last (kind_of_mem_interfaceFields (mem_of_lastUnder? last))
  | none =>
    rw [last, Option.none_or] at there
    exact .member last there (kind_of_mem_decoratedMembers (mem_of_lastUnder? there))

/-- No pass over comments finds a default. -/
theorem FoundLast.default_eq_none {found : Property} (last : FoundLast content name found) : found.default = none := by
  cases last with
  | field last => exact (written_of_mem_interfaceFields (mem_of_lastUnder? last)).2
  | member _ last =>
    obtain ⟨comment, written, rfl⟩ := written_of_mem_decoratedMembers (mem_of_lastUnder? last)
    rfl

/-! ## The pass over declarations -/

/-- The declarations of a name, in their order. -/
def declarationsUnder (content : List Char) (name : String) : List FieldDeclaration :=
  (findAll fieldDeclaration content).filter (·.name = name)

theorem properties_eq (content : List Char) :
    properties content = ⟨(Fields.ofList (decoratedMembers content ++ interfaceFields content)).entries.map
      fun (name, found) => (name, withLastDeclared (declarationsUnder content name) found)⟩ := by
  rw [properties, withDeclarations_eq_map]
  simp only [settled_eq_withLastDeclared, declarationsUnder]

/-- The first two passes decide which properties there are, in the order in which their names are first found, and
what their comments say: the last field of a name does, and the last decorated member where no field has the name. The
declarations change only the type, which the last one of the name settles, and the default, which is that of the last
one with a default. -/
theorem properties_left_by_passes {fs : FileSystem} {path content : String} {docs : ComponentDocs}
    (read : fs.readFile? path = .ok (some content)) (extracted : extractDocs fs path = some docs) :
    docs.properties.keys =
        ((decoratedMembers content.toList ++ interfaceFields content.toList).map (·.1)).eraseDups ∧
      ∀ name property, (name, property) ∈ docs.properties.entries →
        ∃ found, FoundLast content.toList name found ∧
          property = { found with
            declaredType := ((declarationsUnder content.toList name).getLast?.map (·.type)).or found.declaredType
            default := ((declarationsUnder content.toList name).filterMap (·.default)).getLast? } := by
  rw [(source_of_extractDocs read extracted).2, properties_eq, ← Fields.keys_ofList]
  refine ⟨by rw [Fields.keys, List.map_map]; rfl, fun name property listed => ?_⟩
  obtain ⟨⟨_, found⟩, there, same⟩ := List.mem_map.mp listed
  obtain ⟨rfl, rfl⟩ := Prod.mk.inj same
  have last := foundLast_of_get? ((Fields.get?_eq_some_iff (Fields.nodup_keys_ofList _)).mpr there)
  refine ⟨found, last, ?_⟩
  rw [withLastDeclared, last.default_eq_none, Option.or_none]

/-- A member and a field of one name, which is declared three times. -/
def repeatedSource : String :=
  "/** One. */ @Input() size;\n/** Two. */ @Output() pick;\n" ++
    "interface Props \x7b /** Three. */ size?: Size; \x7d\nsize: Big = 3;\nsize: Any;\n"

def repeatedFile : MemoryFiles :=
  .write {} "/text.ts" repeatedSource

theorem size_left_by_passes :
    repeatedFile.toFileSystem.readFile? "/text.ts" = .ok (some repeatedSource) ∧
      ∃ docs, extractDocs repeatedFile.toFileSystem "/text.ts" = some docs ∧
        docs.properties.keys = ["size", "pick"] ∧
        ∀ property, ("size", property) ∈ docs.properties.entries →
          property =
            { description := "Three."
              kind := .prop
              required := false
              declaredType := some "Any"
              default := some "3" } := by
  have read : repeatedFile.toFileSystem.readFile? "/text.ts" = .ok (some repeatedSource) :=
    MemoryFiles.readFile?_write ..
  obtain ⟨docs, extracted, -⟩ := properties_extractDocs read fun reference => ⟨_, MemoryFiles.readFile? ..⟩
  obtain ⟨keys, settled⟩ := properties_left_by_passes read extracted
  refine ⟨read, docs, extracted, keys.trans (by decide +kernel), fun property listed => ?_⟩
  obtain ⟨found, last, rfl⟩ := settled "size" property listed
  have field : lastUnder? "size" (interfaceFields repeatedSource.toList) =
      some { description := "Three.", kind := .prop, required := false, declaredType := some "Size" } := by
    decide +kernel
  have declared : declarationsUnder repeatedSource.toList "size" =
      [⟨"size", "Size", none⟩, ⟨"size", "Big", some "3"⟩, ⟨"size", "Any", none⟩] := by
    decide +kernel
  cases last with
  | field last =>
    obtain rfl := Option.some.inj (field.symm.trans last)
    rw [declared]
    rfl
  | member unlisted => exact absurd (field.symm.trans unlisted) (Option.some_ne_none _)

end StoryCatalog.Component
