import StoryCatalog.Text.Wide
import StoryCatalog.Yaml.Folding

/-!
# Quoted scalars

Text between quotes. Between single quotes a quote is written twice and nothing else is special;
between double quotes a backslash starts an escape, or joins lines at its end. Only by an escape can half a
surrogate pair come into a text.
-/

namespace StoryCatalog.Yaml

open Text Number

/-- The characters that one letter after a backslash stands for. -/
def shortEscapes : List (Char × Char) :=
  [('0', '\x00'), ('a', '\x07'), ('b', '\x08'), ('t', '\t'), ('\t', '\t'), ('n', '\n'), ('v', '\x0b'),
    ('f', '\x0c'), ('r', '\r'), ('e', '\x1b'), (' ', ' '), ('"', '"'), ('\\', '\\'), ('/', '/'),
    ('N', '\x85'), ('_', '\xa0'), ('L', '\u2028'), ('P', '\u2029')]

/-- The count of hexadecimal digits after a letter. -/
def escapeWidth? (c : Char) : Option Nat :=
  if c = 'x' then some 2 else if c = 'u' then some 4 else if c = 'U' then some 8 else none

/-- The largest number that is compared with code points at all. -/
def largestCode : Nat := Nat.pow 2 31 - 1

def escapedCode (n : Nat) : Except Error TextUnit :=
  if largestCode < n then .error .codeTooLarge
  else if 0x10FFFF < n then .error .codePoint
  else .ok (.ofCode n)

/-- What an escape by number stands for, from after its letter on. -/
def numberedEscape (width : Nat) (cursor : Cursor) : Except Error (TextUnit × Cursor) :=
  let digits := (cursor.rest.take width).filterMap hexValue?
  if digits.length < width then .error .malformed
  else do return (← escapedCode (ofDigits 16 digits), cursor.forward width)

/-- What an escape stands for, from after its backslash on. -/
def escapeAt (cursor : Cursor) : Except Error (List TextUnit × Cursor) :=
  match cursor.peek? with
  | none => .error .malformed
  | some c =>
    match shortEscapes.lookup c, escapeWidth? c with
    | some short, _ => .ok ([.char short], cursor.step)
    | none, some width => do
      let (unit, next) ← numberedEscape width cursor.step
      return ([unit], next)
    | none, none =>
      if isBreak c then do
        let (breaks, next) ← Cursor.emptyLines (cursor.rest.length + 1) cursor.lineBreak.2
        return (breaks.map .char, next)
      else .error .malformed

/-- The blanks here as they count in a value: they stay inside a line and are folded with its end. -/
def gapAt (cursor : Cursor) : Except Error (List Char × Cursor) := do
  let (gap, next) := cursor.run isGap
  match next.peek? with
  | none => .error .malformed
  | some c =>
    if isBreak c then
      let (lineBreak, next) := next.lineBreak
      let (breaks, next) ← Cursor.emptyLines (next.rest.length + 1) next
      return (folded lineBreak breaks, next)
    else return (gap, next)

/-- The text up to the closing quote, and the place after it. Each round reads at least one character,
so `fuel` is the length of the text. -/
def quotedFrom (quote : Char) : Nat → Cursor → Except Error (List TextUnit × Cursor)
  | 0, _ => .error .malformed
  | fuel + 1, cursor =>
    match cursor.rest with
    | [] => .error .malformed
    | c :: rest =>
      if c = quote then
        if quote = '\x27' && rest.head? = some '\x27' then do
          let (more, next) ← quotedFrom quote fuel (cursor.forward 2)
          return (.char '\x27' :: more, next)
        else .ok ([], cursor.step)
      else if quote = '"' && c = '\\' then do
        let (units, next) ← escapeAt cursor.step
        let (more, next) ← quotedFrom quote fuel next
        return (units ++ more, next)
      else if isGap c || isBreak c then do
        let (chars, next) ← gapAt cursor
        let (more, next) ← quotedFrom quote fuel next
        return (chars.map .char ++ more, next)
      else do
        let (more, next) ← quotedFrom quote fuel cursor.step
        return (.char c :: more, next)

/-- The scalar that opens here with `quote`. -/
def quotedScalar (quote : Char) (cursor : Cursor) : Except Error (List TextUnit × Cursor) :=
  quotedFrom quote (cursor.rest.length + 1) cursor.step

end StoryCatalog.Yaml
