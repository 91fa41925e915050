import StoryCatalog.Text.Blank
import StoryCatalog.Text.Scan

/-!
# Doc comments

A doc comment starts with a slash and two stars and ends at the first star and slash after them, so
it stays with the construct it stands before and never reaches back to an earlier comment. Its lines
may each begin with a star, which is no part of the documentation.
-/

namespace StoryCatalog.Source

open Text

/-- The body of a doc comment, trimmed. -/
def docComment : Scan (List Char) := do
  Scan.literal "/**"
  let (body, ()) ← Scan.upTo (Scan.literal "*/")
  return trim body

/-- What is taken off a line's start: blanks, a star, and one blank after it. The blanks may run over
empty lines, and the last one may be the line's end. -/
def leader : Scan Unit := do
  let _ ← Scan.run isBlank
  let _ ← Scan.one (· = '*')
  let _ ← Scan.maybe (Scan.one isBlank)

/-- The text of a comment's body without the leaders of its lines. -/
def stripComment (body : List Char) : List Char :=
  trim ((Scan.atLineStarts leader body).filterMap fun
    | .inl c => some c
    | .inr () => none)

end StoryCatalog.Source
