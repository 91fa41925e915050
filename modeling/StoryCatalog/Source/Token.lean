import StoryCatalog.Text.Blank
import StoryCatalog.Text.Scan
import StoryCatalog.Text.Word

/-!
# Small pieces of source text

The readings that the constructs of component and story files are made of.
-/

namespace StoryCatalog.Source

open Text

def blanks : Scan Unit := do
  let _ ← Scan.run isBlank

def blanks1 : Scan Unit := do
  let _ ← Scan.run1 isBlank

/-- An identifier, as long as it goes. -/
def identifier : Scan (List Char) :=
  Scan.run1 isWord

def char (c : Char) : Scan Unit := do
  let _ ← Scan.one (· = c)

def openBrace : Scan Unit := char '{'

def closeBrace : Scan Unit := char '}'

/-- The text up to a brace that closes whatever is open. -/
def throughBrace : Scan (List Char) := do
  let (body, ()) ← Scan.upTo closeBrace
  return body

def isQuote (c : Char) : Bool :=
  c = '\x27' || c = '"'

/-- A text between quotes that holds no quote; the quotes need not be alike. -/
def quotedText : Scan (List Char) := do
  let _ ← Scan.one isQuote
  let body ← Scan.run1 fun c => !isQuote c
  let _ ← Scan.one isQuote
  return body

/-- A key with its colon, and the quoted text after it. -/
def quotedAfter (key : String) : Scan (List Char) := do
  Scan.literal key
  blanks
  quotedText

end StoryCatalog.Source
