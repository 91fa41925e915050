import StoryCatalog.Fields
import StoryCatalog.Text.Blank
import StoryCatalog.Text.Split

/-!
# Raw args

The body of an args block is cut at every comma, whatever the comma stands in, and each piece at its
first colon. Pieces without a key are passed over.
-/

namespace StoryCatalog.Story

open Text

/-- The key and the value of one piece, trimmed. A colon at the very start makes no key. -/
def arg? (piece : List Char) : Option (String × String) :=
  match cut? [':'] piece with
  | some (before, after) =>
    let key := trim before
    if key.isEmpty then none else some (String.ofList key, String.ofList (trim after))
  | none => none

def splitArgs (body : List Char) : List (String × String) :=
  (split ',' body).filterMap arg?

/-- The pairs as a mapping, a later value taking the place of an earlier one. -/
def rawArgs (body : List Char) : Fields String :=
  Fields.ofList (splitArgs body)

end StoryCatalog.Story
