import StoryCatalog.Yaml.Name
import StoryCatalog.Yaml.PlainScalar
import StoryCatalog.Yaml.QuotedScalar

/-!
# Tokens of YAML

A text as the tokens that make up its structure. Indentation is not seen any more in them: blocks have
tokens for their starts and ends. That a mapping starts, and where, shows only when the colon after
its first key is met, so tokens are put in before ones that were read already; a key that could still
turn up this way has to stand on the line of its colon and close to it. Until that is decided the token
is not settled: where the text cannot be read on before, the fault stands in the token's place.
-/

namespace StoryCatalog.Yaml

inductive Token where
  | directive (directive : Directive)
  | documentStart
  | documentEnd
  | blockSequenceStart
  | blockMappingStart
  | blockEnd
  | flowSequenceStart
  | flowSequenceEnd
  | flowMappingStart
  | flowMappingEnd
  | blockEntry
  | flowEntry
  | key
  | value
  | alias (name : String)
  | anchor (name : String)
  | tag (name : TagName)
  | scalar (text : WideText) (plain : Bool)
  | streamEnd
  /-- The place from which on the text cannot be read. -/
  | broken (error : Error)
  deriving DecidableEq, Repr

/-- A token that may turn out to be the first of a key. -/
structure KeyCandidate where
  /-- How many tokens come before it. -/
  position : Nat
  /-- Whether only a key can stand here. -/
  required : Bool
  index : Nat
  line : Nat
  column : Nat
  deriving DecidableEq, Repr

/-- How far a key may reach. -/
def keyLimit : Nat := 1024

structure Lexer where
  cursor : Cursor
  tokens : Array Token := #[]
  /-- How many flow collections are open. -/
  flowDepth : Nat := 0
  /-- The columns of the open blocks, the innermost first. -/
  blocks : List Nat := []
  mayStartKey : Bool := true
  /-- At most one candidate for each depth of flow collections. -/
  candidates : List (Nat × KeyCandidate) := []

namespace Lexer

def inFlow (lexer : Lexer) : Bool := lexer.flowDepth ≠ 0

/-- The least column that is inside the innermost block. -/
def innerColumn (lexer : Lexer) : Nat :=
  match lexer.blocks with
  | [] => 0
  | column :: _ => column + 1

def emit (lexer : Lexer) (token : Token) : Lexer :=
  { lexer with tokens := lexer.tokens.push token }

def moveTo (lexer : Lexer) (cursor : Cursor) : Lexer :=
  { lexer with cursor }

/-- Ends the blocks that `closes` holds of, from the innermost one outward. Flow collections ignore
indentation. -/
def closeBlocks (lexer : Lexer) (closes : Nat → Bool) : Lexer :=
  if lexer.inFlow then lexer
  else
    let closed := lexer.blocks.takeWhile closes
    { lexer with
      blocks := lexer.blocks.dropWhile closes
      tokens := lexer.tokens ++ Array.replicate closed.length Token.blockEnd }

/-- Opens a block in a column if it is further in than the innermost one. The token that starts the
block goes before the token at `position`. -/
def openBlock (lexer : Lexer) (column : Nat) (start : Token) (position : Nat) : Lexer :=
  if lexer.innerColumn ≤ column then
    { lexer with
      blocks := column :: lexer.blocks
      tokens := lexer.tokens.insertIdxIfInBounds position start }
  else lexer

/-- Drops the candidate of this depth; one that had to be a key is a fault. -/
def dropCandidate (lexer : Lexer) : Except Error Lexer :=
  match lexer.candidates.lookup lexer.flowDepth with
  | none => .ok lexer
  | some candidate =>
    if candidate.required then .error .malformed
    else .ok { lexer with candidates := lexer.candidates.filter (·.1 ≠ lexer.flowDepth) }

def isStale (lexer : Lexer) (candidate : KeyCandidate) : Bool :=
  candidate.line ≠ lexer.cursor.line || candidate.index + keyLimit < lexer.cursor.index

/-- Drops the candidates that are too far back. -/
def dropStale (lexer : Lexer) : Except Error Lexer :=
  if lexer.candidates.any fun (_, candidate) => candidate.required && lexer.isStale candidate then
    .error .malformed
  else .ok { lexer with candidates := lexer.candidates.filter fun (_, candidate) => !lexer.isStale candidate }

/-- Takes the next token for a candidate, where a key may start. -/
def addCandidate (lexer : Lexer) : Except Error Lexer :=
  if lexer.mayStartKey then do
    let cursor := lexer.cursor
    let required := !lexer.inFlow && lexer.blocks.head? = some cursor.column
    let lexer ← lexer.dropCandidate
    let candidate : KeyCandidate :=
      ⟨lexer.tokens.size, required, cursor.index, cursor.line, cursor.column⟩
    return { lexer with candidates := (lexer.flowDepth, candidate) :: lexer.candidates }
  else .ok lexer

/-- Past spaces, comments and line breaks. A new line outside flow collections may start a key. `fuel`
is the count of lines at most. -/
def skipToToken : Nat → Lexer → Lexer
  | 0, lexer => lexer
  | fuel + 1, lexer =>
    let cursor := lexer.cursor.skipSpaces.skipComment
    if (cursor.peek?.map isBreak).getD false then
      skipToToken fuel
        { lexer with cursor := cursor.lineBreak.2, mayStartKey := lexer.mayStartKey || !lexer.inFlow }
    else { lexer with cursor }

/-- A directive or a mark between documents: all blocks end before it. -/
def separate (lexer : Lexer) : Except Error Lexer := do
  let lexer ← (lexer.closeBlocks fun _ => true).dropCandidate
  return { lexer with mayStartKey := false }

def readDirective (lexer : Lexer) : Except Error Lexer := do
  let lexer ← lexer.separate
  let (directive, next) ← directiveAt lexer.cursor
  return (lexer.emit (.directive directive)).moveTo next

def readSeparator (lexer : Lexer) (token : Token) : Except Error Lexer := do
  let lexer ← lexer.separate
  return (lexer.emit token).moveTo (lexer.cursor.forward 3)

def openFlow (lexer : Lexer) (token : Token) : Except Error Lexer := do
  let lexer ← lexer.addCandidate
  return { (lexer.emit token).moveTo lexer.cursor.step with
    flowDepth := lexer.flowDepth + 1
    mayStartKey := true }

def closeFlow (lexer : Lexer) (token : Token) : Except Error Lexer := do
  let lexer ← lexer.dropCandidate
  return { (lexer.emit token).moveTo lexer.cursor.step with
    flowDepth := lexer.flowDepth - 1
    mayStartKey := false }

def readFlowEntry (lexer : Lexer) : Except Error Lexer := do
  let lexer ← lexer.dropCandidate
  return { (lexer.emit .flowEntry).moveTo lexer.cursor.step with mayStartKey := true }

/-- An indicator of block structure: outside flow collections it may open a block, and it must stand
where a key may start. -/
def enterBlock (lexer : Lexer) (start : Token) : Except Error Lexer :=
  if lexer.inFlow then .ok lexer
  else if lexer.mayStartKey then .ok (lexer.openBlock lexer.cursor.column start lexer.tokens.size)
  else .error .malformed

def readBlockEntry (lexer : Lexer) : Except Error Lexer := do
  let lexer ← (← lexer.enterBlock .blockSequenceStart).dropCandidate
  return { (lexer.emit .blockEntry).moveTo lexer.cursor.step with mayStartKey := true }

def readKey (lexer : Lexer) : Except Error Lexer := do
  let lexer ← (← lexer.enterBlock .blockMappingStart).dropCandidate
  return { (lexer.emit .key).moveTo lexer.cursor.step with mayStartKey := !lexer.inFlow }

/-- A colon. If there is a candidate it was a key. -/
def readValue (lexer : Lexer) : Except Error Lexer := do
  let lexer ← match lexer.candidates.lookup lexer.flowDepth with
    | some candidate =>
      let known : Lexer := { lexer with
        candidates := lexer.candidates.filter (·.1 ≠ lexer.flowDepth)
        tokens := lexer.tokens.insertIdxIfInBounds candidate.position Token.key
        mayStartKey := false }
      pure (if known.inFlow then known
        else known.openBlock candidate.column .blockMappingStart candidate.position)
    | none => do
      let lexer ← (← lexer.enterBlock .blockMappingStart).dropCandidate
      pure { lexer with mayStartKey := !lexer.inFlow }
  return (lexer.emit .value).moveTo lexer.cursor.step

/-- A token that may be a key by itself. -/
def readNamed (lexer : Lexer) (read : Cursor → Except Error (Token × Cursor)) : Except Error Lexer := do
  let lexer ← lexer.addCandidate
  let (token, next) ← read lexer.cursor
  return { (lexer.emit token).moveTo next with mayStartKey := false }

def readAnchor (token : String → Token) (cursor : Cursor) : Except Error (Token × Cursor) := do
  let (name, next) ← anchorAt cursor
  return (token name, next)

def readTag (cursor : Cursor) : Except Error (Token × Cursor) := do
  let (name, next) ← tagAt cursor
  return (.tag name, next)

def readQuoted (quote : Char) (cursor : Cursor) : Except Error (Token × Cursor) := do
  let (text, next) ← quotedScalar quote cursor
  return (.scalar (.ofUnits text) false, next)

def readBlockScalar (lexer : Lexer) (fold : Bool) : Except Error Lexer := do
  let lexer ← lexer.dropCandidate
  let (text, next) ← blockScalar fold lexer.innerColumn lexer.cursor
  return { (lexer.emit (.scalar (String.ofList text) false)).moveTo next with mayStartKey := true }

def readPlain (lexer : Lexer) : Except Error Lexer := do
  let lexer ← lexer.addCandidate
  let scalar := plainScalar lexer.inFlow lexer.innerColumn lexer.cursor
  return { (lexer.emit (.scalar (String.ofList scalar.text) true)).moveTo scalar.next with
    mayStartKey := scalar.crossesLines }

/-- Whether a plain scalar may start with `c` before `after`. -/
def startsPlain (inFlow : Bool) (c : Char) (after : Option Char) : Bool :=
  !(endsMark (some c) || "-?:,[]\x7b\x7d#&*!|>'\"%@\x60".toList.contains c) ||
    (!endsMark after && (c = '-' || (!inFlow && (c = '?' || c = ':'))))

/-- Reads the token that starts with `c` here. -/
def readToken (lexer : Lexer) (c : Char) : Except Error Lexer :=
  let cursor := lexer.cursor
  let apart := endsMark (cursor.peekAt? 1)
  if c = '%' && cursor.column = 0 then lexer.readDirective
  else if cursor.column = 0 && cursor.isMark '-' then lexer.readSeparator .documentStart
  else if cursor.column = 0 && cursor.isMark '.' then lexer.readSeparator .documentEnd
  else if c = '[' then lexer.openFlow .flowSequenceStart
  else if c = '\x7b' then lexer.openFlow .flowMappingStart
  else if c = ']' then lexer.closeFlow .flowSequenceEnd
  else if c = '\x7d' then lexer.closeFlow .flowMappingEnd
  else if c = ',' then lexer.readFlowEntry
  else if c = '-' && apart then lexer.readBlockEntry
  else if c = '?' && (lexer.inFlow || apart) then lexer.readKey
  else if c = ':' && (lexer.inFlow || apart) then lexer.readValue
  else if c = '*' then lexer.readNamed (readAnchor .alias)
  else if c = '&' then lexer.readNamed (readAnchor .anchor)
  else if c = '!' then lexer.readNamed readTag
  else if c = '|' && !lexer.inFlow then lexer.readBlockScalar false
  else if c = '>' && !lexer.inFlow then lexer.readBlockScalar true
  else if c = '\x27' || c = '"' then lexer.readNamed (readQuoted c)
  else if startsPlain lexer.inFlow c (cursor.peekAt? 1) then lexer.readPlain
  else .error .malformed

/-- Reads one token, or ends the stream. A byte order mark is passed over at the very start. -/
def advance (lexer : Lexer) : Except Error (Lexer × Bool) := do
  let lexer :=
    if lexer.cursor.index = 0 && lexer.cursor.peek? = some byteOrderMark then
      lexer.moveTo lexer.cursor.step
    else lexer
  let lexer ← (skipToToken (lexer.cursor.rest.length + 1) lexer).dropStale
  match lexer.cursor.peek? with
  | none =>
    let lexer ← (lexer.closeBlocks fun _ => true).dropCandidate
    return (lexer.emit .streamEnd, true)
  | some c =>
    let column := lexer.cursor.column
    let lexer ← (lexer.closeBlocks (column < ·)).readToken c
    return (lexer, false)

/-- The tokens before the first one that may still turn out to start a key. -/
def settled (lexer : Lexer) : Array Token :=
  let waiting := lexer.candidates.filter fun (_, candidate) => !lexer.isStale candidate
  lexer.tokens.take (waiting.foldl (fun count (_, candidate) => min count candidate.position) lexer.tokens.size)

/-- The tokens from here on. Each round reads at least one character, so `fuel` is the length of the
text. -/
def run : Nat → Lexer → Array Token
  | 0, lexer => lexer.tokens
  | fuel + 1, lexer =>
    match lexer.advance with
    | .error error => lexer.settled.push (.broken error)
    | .ok (next, true) => next.tokens
    | .ok (next, false) => run fuel next

end Lexer

def Token.scan (text : List Char) : List Token :=
  (Lexer.run (text.length + 2) { cursor := .ofText text }).toList

end StoryCatalog.Yaml
