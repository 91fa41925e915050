import StoryCatalog.Yaml.Folding

/-!
# Plain scalars

Text without quotes. It ends before a colon or a comment, at the brackets and commas of a flow
collection, and where a line is indented too little; lines are folded.
-/

namespace StoryCatalog.Yaml

/-- The characters that end a plain scalar inside a flow collection. -/
def isFlowIndicator (c : Char) : Bool :=
  [',', '?', '[', ']', '\x7b', '\x7d'].contains c

/-- Whether a colon before this is an indicator. -/
def endsKey (flow : Bool) (after : Option Char) : Bool :=
  endsMark after ||
    (flow && match after with
      | some c => isFlowIndicator c && c ≠ '?'
      | none => false)

/-- A stretch of plain text without blanks. -/
def plainChunk (flow : Bool) : List Char → List Char
  | [] => []
  | c :: rest =>
    if endsMark (some c) || (c = ':' && endsKey flow rest.head?) || (flow && isFlowIndicator c) then []
    else c :: plainChunk flow rest

/-- The breaks of the empty lines and the indentation before the next text, from the start of a line
on; nothing at a mark that separates documents. `fuel` is the length of the text. -/
def plainLines : Nat → Cursor → Option (List Char) × Cursor
  | 0, cursor => (none, cursor)
  | fuel + 1, cursor =>
    if cursor.isSeparator then (none, cursor)
    else
      let next := cursor.skipSpaces
      if (next.peek?.map isBreak).getD false then
        let (lineBreak, next) := next.lineBreak
        let (breaks, next) := plainLines fuel next
        (breaks.map (lineBreak ++ ·), next)
      else (some [], next)

/-- What stands between two stretches of plain text. -/
structure PlainGap where
  /-- Empty where the text must end. -/
  text : List Char
  crossesLines : Bool
  next : Cursor

def plainGap (cursor : Cursor) : PlainGap :=
  let (spaces, next) := cursor.run (· = ' ')
  if (next.peek?.map isBreak).getD false then
    let (lineBreak, next) := next.lineBreak
    let (breaks, next) := plainLines (next.rest.length + 1) next
    ⟨(breaks.map (folded lineBreak)).getD [], true, next⟩
  else ⟨spaces, false, next⟩

structure PlainScalar where
  text : List Char
  /-- Whether reading went on to a new line after the last text. -/
  crossesLines : Bool
  next : Cursor

/-- The plain text here, whose later lines must reach the column `least` outside flow collections; what
`gap` holds is part of the text only if more text follows. `fuel` is the length of the text. -/
def plainFrom (flow : Bool) (least : Nat) : Nat → PlainGap → PlainScalar
  | 0, gap => ⟨[], gap.crossesLines, gap.next⟩
  | fuel + 1, gap =>
    let chunk := plainChunk flow gap.next.rest
    if gap.next.peek? = some '#' || chunk.isEmpty then ⟨[], gap.crossesLines, gap.next⟩
    else
      let after := plainGap (gap.next.past chunk)
      let text := gap.text ++ chunk
      if after.text.isEmpty || (!flow && after.next.column < least) then
        ⟨text, after.crossesLines, after.next⟩
      else
        let more := plainFrom flow least fuel after
        { more with text := text ++ more.text }

def plainScalar (flow : Bool) (least : Nat) (cursor : Cursor) : PlainScalar :=
  plainFrom flow least (cursor.rest.length + 1) ⟨[], false, cursor⟩

end StoryCatalog.Yaml
