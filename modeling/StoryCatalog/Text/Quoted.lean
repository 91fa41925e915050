import StoryCatalog.Text.Printable
import StoryCatalog.Text.Wide

/-!
# Quoted text

The form in which messages and listings show a text: between single quotes, or between double
quotes when it holds single quotes only, with escapes for all that is not printable.
-/

namespace StoryCatalog.Text

/-- A character inside a text quoted by `mark`. -/
def quotedChar (mark : Char) (c : Char) : List Char :=
  if c = mark || c = '\\' then ['\\', c]
  else if c = '\t' then ['\\', 't']
  else if c = '\n' then ['\\', 'n']
  else if c = '\r' then ['\\', 'r']
  else if isPrintable c then [c]
  else if c.toNat < 0x100 then '\\' :: 'x' :: hexDigits c.toNat 2
  else if c.toNat < 0x10000 then '\\' :: 'u' :: hexDigits c.toNat 4
  else '\\' :: 'U' :: hexDigits c.toNat 8

def quotedUnit (mark : Char) : TextUnit → List Char
  | .char c => quotedChar mark c
  | .lone half => half.escape

/-- The quote that needs the fewest escapes, single if both do. -/
def quoteMark (units : List TextUnit) : Char :=
  if units.contains (.char '\x27') && !units.contains (.char '"') then '"' else '\x27'

def quoted (text : WideText) : String :=
  let mark := quoteMark text.units
  String.ofList (mark :: text.units.flatMap (quotedUnit mark) ++ [mark])

end StoryCatalog.Text
