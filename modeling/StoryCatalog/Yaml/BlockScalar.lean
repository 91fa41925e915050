import StoryCatalog.Yaml.Folding

/-!
# Block scalars

Text set off by its indentation. A header says whether lines are folded, what becomes of the line
breaks at the end, and by how much the text is indented; without a number the first line with text
decides.
-/

namespace StoryCatalog.Yaml

/-- What becomes of the line breaks at the end: all go, the first stays, or all stay. -/
inductive Chomping where
  | strip
  | clip
  | keep
  deriving DecidableEq, Repr

structure BlockHeader where
  chomping : Chomping := .clip
  increment : Option Nat := none
  deriving DecidableEq, Repr

/-- The chomping indicator here, if there is one. -/
def chompingAt (cursor : Cursor) : Chomping × Cursor :=
  match cursor.peek? with
  | some '+' => (.keep, cursor.step)
  | some '-' => (.strip, cursor.step)
  | _ => (.clip, cursor)

/-- The indentation indicator here, if there is one; zero is none. -/
def incrementAt (cursor : Cursor) : Except Error (Option Nat × Cursor) :=
  match cursor.peek? with
  | some c =>
    if c = '0' then .error .malformed
    else if c.isDigit then .ok (some (c.toNat - 48), cursor.step)
    else .ok (none, cursor)
  | none => .ok (none, cursor)

/-- The rest of a line that may hold a comment only, with its break. -/
def ignoredLine (cursor : Cursor) : Except Error Cursor :=
  let next := cursor.skipSpaces.skipComment
  if endsLine next.peek? then .ok next.lineBreak.2 else .error .malformed

/-- The two indicators in either order, and the rest of their line. -/
def blockHeader (cursor : Cursor) : Except Error (BlockHeader × Cursor) := do
  let (chomping, next) := chompingAt cursor
  let (increment, next) ← incrementAt next
  let (chomping, next) := if chomping = .clip then chompingAt next else (chomping, next)
  if !endsWord next.peek? then .error .malformed
  return ({ chomping, increment }, ← ignoredLine next)

/-- The breaks of the empty lines before the first text, the widest indentation among these lines and
the text's, and the place reached. `fuel` is the length of the text. -/
def leadingLines : Nat → Cursor → List Char × Nat × Cursor
  | 0, cursor => ([], 0, cursor)
  | fuel + 1, cursor =>
    match cursor.peek? with
    | some ' ' =>
      let (breaks, widest, next) := leadingLines fuel cursor.step
      (breaks, max cursor.step.column widest, next)
    | some c =>
      if isBreak c then
        let (lineBreak, next) := cursor.lineBreak
        let (breaks, widest, next) := leadingLines fuel next
        (lineBreak ++ breaks, widest, next)
      else ([], 0, cursor)
    | none => ([], 0, cursor)

/-- The breaks of the lines that hold no more than indentation, and the place reached. `fuel` is the
count of lines at most. -/
def bareLines (indent : Nat) : Nat → Cursor → List Char × Cursor
  | 0, cursor => ([], cursor)
  | fuel + 1, cursor =>
    let next := cursor.skipIndent indent
    if (next.peek?.map isBreak).getD false then
      let (lineBreak, next) := next.lineBreak
      let (breaks, next) := bareLines indent fuel next
      (lineBreak ++ breaks, next)
    else ([], next)

/-- The lines of a block scalar as read: its text without the breaks at the end, the last line's break,
and the breaks of the empty lines after it. -/
structure BlockLines where
  text : List Char
  lineBreak : List Char
  breaks : List Char
  next : Cursor

def isText (cursor : Cursor) (indent : Nat) : Bool :=
  cursor.column = indent && cursor.peek?.isSome

def startsWithGap (cursor : Cursor) : Bool :=
  (cursor.peek?.map isGap).getD false

/-- The lines from a place on that may be the start of one, after the breaks of empty lines. Lines that
start with a blank are not folded. `fuel` is the count of lines at most. -/
def blockLines (fold : Bool) (indent : Nat) : Nat → List Char → Cursor → BlockLines
  | 0, breaks, cursor => ⟨[], [], breaks, cursor⟩
  | fuel + 1, breaks, cursor =>
    if !isText cursor indent then ⟨[], [], breaks, cursor⟩
    else
      let (line, next) := cursor.run (!isBreak ·)
      let (lineBreak, next) := next.lineBreak
      let (after, next) := bareLines indent (next.rest.length + 1) next
      if isText next indent then
        let joint :=
          if fold && lineBreak = ['\n'] && !startsWithGap cursor && !startsWithGap next then
            if after.isEmpty then [' '] else []
          else lineBreak
        let more := blockLines fold indent fuel after next
        { more with text := breaks ++ line ++ joint ++ more.text }
      else ⟨breaks ++ line, lineBreak, after, next⟩

/-- The block scalar whose indicator stands here, inside a block at the column before `least`. -/
def blockScalar (fold : Bool) (least : Nat) (cursor : Cursor) : Except Error (List Char × Cursor) := do
  let (header, next) ← blockHeader cursor.step
  let least := max least 1
  let fuel := next.rest.length + 1
  let lines := match header.increment with
    | none =>
      let (breaks, widest, next) := leadingLines fuel next
      blockLines fold (max least widest) fuel breaks next
    | some increment =>
      let indent := least + increment - 1
      let (breaks, next) := bareLines indent fuel next
      blockLines fold indent fuel breaks next
  let ending := match header.chomping with
    | .strip => []
    | .clip => lines.lineBreak
    | .keep => lines.lineBreak ++ lines.breaks
  return (lines.text ++ ending, lines.next)

end StoryCatalog.Yaml
