import StoryCatalog.Json.Basic
import StoryCatalog.Number.Notation

/-!
# Writing JSON

Values on one line, a space after each comma and colon, and everything outside ASCII escaped.
-/

namespace StoryCatalog.Json

open Text Number

/-- A character outside ASCII by its one or two units of sixteen bits. -/
def unitEscapes (c : Char) : List Char :=
  let unit (n : Nat) : List Char := '\\' :: 'u' :: hexDigits n 4
  if c.toNat < 0x10000 then unit c.toNat
  else
    let n := c.toNat - 0x10000
    unit (0xD800 + n / 0x400) ++ unit (0xDC00 + n % 0x400)

def writtenChar (c : Char) : List Char :=
  if c = '"' || c = '\\' then ['\\', c]
  else if c = '\n' then ['\\', 'n']
  else if c = '\r' then ['\\', 'r']
  else if c = '\t' then ['\\', 't']
  else if c = '\x0c' then ['\\', 'f']
  else if c = '\x08' then ['\\', 'b']
  else if 0x20 ≤ c.toNat && c.toNat < 0x7F then [c]
  else unitEscapes c

def writtenUnit : TextUnit → List Char
  | .char c => writtenChar c
  | .lone half => half.escape

def writeString (s : WideText) : List Char :=
  '"' :: s.units.flatMap writtenUnit ++ ['"']

/-- As numbers are written elsewhere, but with the long names of those without digits. -/
def jsonForm : FloatForm :=
  { plainForm with nan := "NaN", infinity := "Infinity" }

mutual

def write : Json → List Char
  | .null => "null".toList
  | .bool value => (if value then "true" else "false").toList
  | .int value => (intText value).toList
  | .float value => (jsonForm.write value).toList
  | .str value => writeString value
  | .arr items => '[' :: writeItems items ++ [']']
  | .obj fields => '\x7b' :: writeFields fields ++ ['\x7d']

def writeItems : List Json → List Char
  | [] => []
  | [item] => write item
  | item :: items => write item ++ ',' :: ' ' :: writeItems items

def writeFields : List (WideText × Json) → List Char
  | [] => []
  | [(name, value)] => writeString name ++ ':' :: ' ' :: write value
  | (name, value) :: fields => writeString name ++ ':' :: ' ' :: write value ++ ',' :: ' ' :: writeFields fields

end

end StoryCatalog.Json
