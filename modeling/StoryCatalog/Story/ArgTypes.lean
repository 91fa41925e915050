import StoryCatalog.Fields
import StoryCatalog.Source.Token

/-!
# Arg types

The controls that a story file chooses for its args, from the block that lists them. The block ends
at the first brace after which a comment, the args, the tags or the end of the file comes.
-/

namespace StoryCatalog.Story

open Text Source

def argTypesBlock : Scan (List Char) := do
  Scan.literal "argTypes:"
  blanks
  openBrace
  let (body, ()) ← Scan.upTo do
    closeBrace
    let _ ← Scan.maybe (char ',')
    blanks
    Scan.literal "//" <|> Scan.literal "args:" <|> Scan.literal "tags:" <|> Scan.atEnd
  return body

/-- A name and a body in braces that holds no braces. -/
def argTypeEntry : Scan (List Char × List Char) := do
  let name ← identifier
  char ':'
  blanks
  openBrace
  let body ← Scan.run fun c => c ≠ '{' && c ≠ '}'
  closeBrace
  return (name, body)

/-- The control of one entry; an entry without one is passed over. -/
def control? (entry : List Char × List Char) : Option (String × String) :=
  (Scan.findFirst? (quotedAfter "control:") entry.2).map fun kind =>
    (String.ofList entry.1, String.ofList kind)

def argTypesOf (content : List Char) : Fields String :=
  match Scan.findFirst? argTypesBlock content with
  | some body => Fields.ofList ((Scan.findAll argTypeEntry body).filterMap control?)
  | none => {}

end StoryCatalog.Story
