/-!
# Places in a YAML text

Where reading stands in a text: what follows, and how far in, on which line and in which column that
is. Columns decide the structure of a document, so nothing is read without keeping count.
-/

namespace StoryCatalog.Yaml

structure Cursor where
  rest : List Char
  index : Nat := 0
  line : Nat := 0
  column : Nat := 0
  deriving DecidableEq, Repr

def isBreak (c : Char) : Bool :=
  c = '\n' || c = '\r' || c = '\x85' || c = '\u2028' || c = '\u2029'

/-- The blanks inside a line. -/
def isGap (c : Char) : Bool :=
  c = ' ' || c = '\t'

/-- The end of the text or of the line. -/
def endsLine : Option Char → Bool
  | none => true
  | some c => isBreak c

/-- The end of the line or a space. -/
def endsWord : Option Char → Bool
  | none => true
  | some c => c = ' ' || isBreak c

/-- The end of the line or a blank. -/
def endsMark : Option Char → Bool
  | none => true
  | some c => isGap c || isBreak c

/-- A character that a byte order mark is written as takes no column. -/
def byteOrderMark : Char := '\ufeff'

namespace Cursor

def ofText (text : List Char) : Cursor := { rest := text }

def peek? (cursor : Cursor) : Option Char := cursor.rest.head?

def peekAt? (cursor : Cursor) (n : Nat) : Option Char := cursor.rest[n]?

/-- One character on. A carriage return before a line feed does not end the line by itself. -/
def step (cursor : Cursor) : Cursor :=
  match cursor.rest with
  | [] => cursor
  | c :: rest =>
    if isBreak c && !(c = '\r' && rest.head? = some '\n') then
      ⟨rest, cursor.index + 1, cursor.line + 1, 0⟩
    else ⟨rest, cursor.index + 1, cursor.line, if c = byteOrderMark then cursor.column else cursor.column + 1⟩

def forward : Nat → Cursor → Cursor
  | 0, cursor => cursor
  | n + 1, cursor => forward n cursor.step

/-- Past a text that stands here. -/
def past (cursor : Cursor) (text : List Char) : Cursor :=
  forward text.length cursor

/-- The longest run of a class here, and the place after it. -/
def run (p : Char → Bool) (cursor : Cursor) : List Char × Cursor :=
  let taken := cursor.rest.takeWhile p
  (taken, cursor.past taken)

def skip (p : Char → Bool) (cursor : Cursor) : Cursor :=
  (cursor.run p).2

def skipSpaces (cursor : Cursor) : Cursor :=
  cursor.skip (· = ' ')

/-- Up to the column `indent` through spaces. -/
def skipIndent (indent : Nat) (cursor : Cursor) : Cursor :=
  cursor.past ((cursor.rest.take (indent - cursor.column)).takeWhile (· = ' '))

/-- Past a comment, if one starts here. -/
def skipComment (cursor : Cursor) : Cursor :=
  if cursor.peek? = some '#' then cursor.skip (!isBreak ·) else cursor

/-- The line break here as it counts in a value: every kind but the two separators is a line feed. -/
def lineBreak (cursor : Cursor) : List Char × Cursor :=
  match cursor.rest with
  | '\r' :: '\n' :: _ => (['\n'], forward 2 cursor)
  | c :: _ =>
    if c = '\n' || c = '\r' || c = '\x85' then (['\n'], cursor.step)
    else if c = '\u2028' || c = '\u2029' then ([c], cursor.step)
    else ([], cursor)
  | [] => ([], cursor)

/-- Whether three characters of a kind stand here with nothing joined to them. -/
def isMark (c : Char) (cursor : Cursor) : Bool :=
  match cursor.rest with
  | a :: b :: d :: rest => a = c && b = c && d = c && endsMark rest.head?
  | _ => false

/-- Whether a mark stands here that separates documents when it starts a line. -/
def isSeparator (cursor : Cursor) : Bool :=
  cursor.isMark '-' || cursor.isMark '.'

end Cursor

end StoryCatalog.Yaml
