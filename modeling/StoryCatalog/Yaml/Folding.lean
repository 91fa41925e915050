import StoryCatalog.Yaml.Cursor
import StoryCatalog.Yaml.Error

/-!
# Text that goes on over several lines

A line break inside a scalar is folded: a single one counts as a space, and of several the first is
left out.
-/

namespace StoryCatalog.Yaml

/-- What a line break and the breaks of the empty lines after it come to. -/
def folded (lineBreak breaks : List Char) : List Char :=
  (if lineBreak ≠ ['\n'] then lineBreak else if breaks.isEmpty then [' '] else []) ++ breaks

namespace Cursor

/-- The breaks of the empty lines from the start of a line on, and the place of the next text. Blanks
at the start of a line do not count; a mark that separates documents must not stand there. `fuel` is
the count of lines at most. -/
def emptyLines : Nat → Cursor → Except Error (List Char × Cursor)
  | 0, _ => .error .malformed
  | fuel + 1, cursor =>
    if cursor.isSeparator then .error .malformed
    else
      let next := cursor.skip isGap
      if (next.peek?.map isBreak).getD false then do
        let (lineBreak, next) := next.lineBreak
        let (breaks, next) ← emptyLines fuel next
        return (lineBreak ++ breaks, next)
      else .ok ([], next)

end Cursor

end StoryCatalog.Yaml
