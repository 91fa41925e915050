import StoryCatalog.Text.Case
import StoryCatalog.Text.Split
import StoryCatalog.Text.Wide

/-!
# Story names

A story's id is its kind and its slug with two hyphens between them. The slug's words, run together
with their first letters in upper case, are the name under which the story file exports the story.
-/

namespace StoryCatalog.Story

open Text

def capitalize (word : List Char) : List Char :=
  upper (word.take 1) ++ lower (word.drop 1)

def pascalCase (slug : List Char) : List Char :=
  (split '-' slug).flatMap capitalize

/-- The slug of the page that documents a kind as a whole. -/
def docsSlug : List Char := "docs".toList

/-- The text after the first separator of an id and before the second. -/
def slug? {α : Type} [DecidableEq α] (hyphen : α) (id : List α) : Option (List α) := do
  let (_, rest) ← cut? [hyphen, hyphen] id
  match cut? [hyphen, hyphen] rest with
  | some (slug, _) => return slug
  | none => return rest

/-- The name that the story of an id is exported under; the page of a kind has none. -/
def exportName? (id : List Char) : Option (List Char) := do
  let slug ← slug? '-' id
  if slug.isEmpty || slug = docsSlug then none
  return pascalCase slug

/-- The name that an id with halves of surrogate pairs stands for, which is that of its slug alone: no story file
exports a name with a half. -/
def exportNameOf? : WideText → Option (List Char)
  | .whole id => exportName? id.toList
  | .halved front half rest => do
    let slug ← TextUnit.chars? (← slug? (.char '-') (WideText.halved front half rest).units)
    exportName? ('-' :: '-' :: slug)

@[simp] theorem exportNameOf?_whole (id : String) : exportNameOf? (.whole id) = exportName? id.toList := rfl

end StoryCatalog.Story
