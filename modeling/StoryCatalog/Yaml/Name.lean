import StoryCatalog.Text.Hex
import StoryCatalog.Text.Utf8
import StoryCatalog.Yaml.BlockScalar

/-!
# Anchors, tags and directives

The names that a document gives to its nodes and their types. An anchor is letters and digits; a tag
is a handle and a suffix, or a whole name between angle brackets; a directive fills a line of its own.
-/

namespace StoryCatalog.Yaml

open Text Number

/-- A tag as written: a handle to be looked up, if there is one, and what follows it. -/
structure TagName where
  handle : Option String
  suffix : String
  deriving DecidableEq, Repr

inductive Directive where
  | version (major minor : Nat)
  | tagHandle (handle meaning : String)
  | unknown
  deriving DecidableEq, Repr

def isNameChar (c : Char) : Bool :=
  c.isAlphanum || c = '-' || c = '_'

/-- Letters and digits here, at least one. -/
def nameAt (cursor : Cursor) : Except Error (List Char × Cursor) :=
  let (name, next) := cursor.run isNameChar
  if name.isEmpty then .error .malformed else .ok (name, next)

/-- What may stand right after an anchor. -/
def endsAnchor (after : Option Char) : Bool :=
  endsMark after ||
    match after with
    | some c => ['?', ':', ',', ']', '\x7d', '%', '@', '\x60'].contains c
    | none => false

/-- The name of an anchor or an alias, from its indicator on. -/
def anchorAt (cursor : Cursor) : Except Error (String × Cursor) := do
  let (name, next) ← nameAt cursor.step
  if endsAnchor next.peek? then return (String.ofList name, next) else throw .malformed

def isTagChar (c : Char) : Bool :=
  c.isAlphanum || "-;/?:@&=+$,_.!~*'()[]".toList.contains c

/-- The bytes that percent signs here escape. `fuel` is the length of the text. -/
def escapedBytes : Nat → Cursor → Except Error (List UInt8 × Cursor)
  | 0, cursor => .ok ([], cursor)
  | fuel + 1, cursor =>
    if cursor.peek? = some '%' then
      match ((cursor.rest.drop 1).take 2).filterMap hexValue? with
      | [high, low] => do
        let (bytes, next) ← escapedBytes fuel (cursor.forward 3)
        return ((high * 16 + low).toUInt8 :: bytes, next)
      | _ => .error .malformed
    else .ok ([], cursor)

/-- The rest of a tag, with escaped bytes decoded. `fuel` is the length of the text. -/
def tagTextFrom : Nat → Cursor → Except Error (List Char × Cursor)
  | 0, cursor => .ok ([], cursor)
  | fuel + 1, cursor =>
    match cursor.peek? with
    | some c =>
      if isTagChar c then do
        let (more, next) ← tagTextFrom fuel cursor.step
        return (c :: more, next)
      else if c = '%' then do
        let (bytes, next) ← escapedBytes (fuel + 1) cursor
        match decodeUtf8 bytes with
        | .error _ => throw .malformed
        | .ok chars =>
          let (more, next) ← tagTextFrom fuel next
          return (chars ++ more, next)
      else .ok ([], cursor)
    | none => .ok ([], cursor)

/-- A tag's text here, at least one character of it. -/
def tagText (cursor : Cursor) : Except Error (String × Cursor) := do
  let (text, next) ← tagTextFrom (cursor.rest.length + 1) cursor
  if next.index = cursor.index then throw .malformed
  return (String.ofList text, next)

/-- A handle: one exclamation mark alone before a space, else a name between two. -/
def handleAt (cursor : Cursor) : Except Error (String × Cursor) :=
  if cursor.peek? ≠ some '!' then .error .malformed
  else if cursor.peekAt? 1 = some ' ' then .ok ("!", cursor.step)
  else
    let (name, next) := cursor.step.run isNameChar
    if next.peek? = some '!' then .ok (String.ofList ('!' :: name ++ ['!']), next.step)
    else .error .malformed

/-- Whether the tag here goes on to a second exclamation mark in the same word. -/
def hasHandle (cursor : Cursor) : Bool :=
  (cursor.rest.drop 1).takeWhile (fun c => !endsWord (some c)) |>.contains '!'

/-- The tag whose exclamation mark stands here. -/
def tagAt (cursor : Cursor) : Except Error (TagName × Cursor) := do
  let (tag, next) ←
    if cursor.peekAt? 1 = some '<' then do
      let (suffix, next) ← tagText (cursor.forward 2)
      if next.peek? = some '>' then pure (⟨none, suffix⟩, next.step) else throw .malformed
    else if endsMark (cursor.peekAt? 1) then pure (⟨none, "!"⟩, cursor.step)
    else do
      let (handle, next) ← if hasHandle cursor then handleAt cursor else pure ("!", cursor.step)
      let (suffix, next) ← tagText next
      pure (⟨some handle, suffix⟩, next)
  if endsWord next.peek? then return (tag, next) else throw .malformed

def versionNumber (cursor : Cursor) : Except Error (Nat × Cursor) := do
  let (digits, next) := cursor.run Char.isDigit
  if digits.isEmpty then throw .malformed
  match wholeOfDigits (digits.map fun c => c.toNat - 48) with
  | .ok n => return (n, next)
  | .error error => throw (.scalar (.tooManyDigits error))

def versionAt (cursor : Cursor) : Except Error (Directive × Cursor) := do
  let (major, next) ← versionNumber cursor.skipSpaces
  if next.peek? ≠ some '.' then throw .malformed
  let (minor, next) ← versionNumber next.step
  if endsWord next.peek? then return (.version major minor, next) else throw .malformed

def tagHandleAt (cursor : Cursor) : Except Error (Directive × Cursor) := do
  let (handle, next) ← handleAt cursor.skipSpaces
  if next.peek? ≠ some ' ' then throw .malformed
  let (meaning, next) ← tagText next.skipSpaces
  if endsWord next.peek? then return (.tagHandle handle meaning, next) else throw .malformed

/-- The directive whose percent sign stands here, with its line. What an unknown one says is passed
over. -/
def directiveAt (cursor : Cursor) : Except Error (Directive × Cursor) := do
  let (name, next) ← nameAt cursor.step
  if !endsWord next.peek? then throw .malformed
  let (directive, next) ←
    if name = "YAML".toList then versionAt next
    else if name = "TAG".toList then tagHandleAt next
    else pure (.unknown, next.skip (!isBreak ·))
  return (directive, ← ignoredLine next)

end StoryCatalog.Yaml
