import StoryCatalog.Yaml.Tag
import StoryCatalog.Yaml.Token

/-!
# Nodes of YAML

A document as numbered nodes. A node may be part of several others and, by way of an anchor, of itself,
so collections hold the numbers of their parts. The nodes are built by reading the tokens once from
the front; the first token that does not fit ends it.
-/

namespace StoryCatalog.Yaml

inductive NodeContent where
  | scalar (text : WideText)
  | sequence (items : List Nat)
  | mapping (pairs : List (Nat × Nat))
  deriving DecidableEq, Repr

structure Node where
  tag : Tag
  content : NodeContent
  deriving DecidableEq, Repr

/-- What the reading of tokens has come to. -/
structure Composition where
  tokens : List Token
  nodes : Array Node := #[]
  anchors : List (String × Nat) := []
  handles : List (String × String) := Tag.handles
  /-- How many collections may still be opened inside each other. -/
  nesting : Nat

abbrev Composer := StateT Composition (Except Error)

namespace Composer

/-- The next token; where no token is left the text was cut short. -/
def peek : Composer Token := do
  return ((← get).tokens.head?).getD .streamEnd

def drop : Composer Unit :=
  modify fun s => { s with tokens := s.tokens.drop 1 }

/-- A token that does not fit. Where the text could not be read on, that is the fault. -/
def refuse {α : Type} : Token → Composer α
  | .broken error => throw error
  | _ => throw .malformed

/-- The next token, which must be this one. -/
def expect (token : Token) : Composer Unit := do
  let next ← peek
  if next = token then drop else refuse next

def add (node : Node) : Composer Nat := do
  let number := (← get).nodes.size
  modify fun s => { s with nodes := s.nodes.push node }
  return number

def empty : Composer Nat :=
  add ⟨.null, .scalar (.whole "")⟩

/-- Names a node, which nothing may be named after yet. -/
def name (anchor : Option String) (number : Nat) : Composer Unit := do
  match anchor with
  | none => return
  | some anchor =>
    if ((← get).anchors.lookup anchor).isSome then throw .malformed
    modify fun s => { s with anchors := (anchor, number) :: s.anchors }

def named (anchor : String) : Composer Nat := do
  match (← get).anchors.lookup anchor with
  | some number => return number
  | none => throw .malformed

/-- Adds a node whose parts come after it and may refer to it. -/
def addCollection (tag : Tag) (anchor : Option String) (content : Composer NodeContent) : Composer Nat := do
  let nesting := (← get).nesting
  if nesting = 0 then throw .tooDeep
  let number ← add ⟨tag, .sequence []⟩
  name anchor number
  modify fun s => { s with nesting := nesting - 1 }
  let content ← content
  modify fun s => { s with nodes := s.nodes.set! number ⟨tag, content⟩, nesting }
  return number

/-- The whole text of a tag. -/
def tagText (tag : TagName) : Composer String := do
  match tag.handle with
  | none => return tag.suffix
  | some handle =>
    match (← get).handles.lookup handle with
    | some meaning => return meaning ++ tag.suffix
    | none => throw .malformed

/-- The anchor and the tag before a node's content, in either order. -/
def properties : Composer (Option String × Option String) := do
  match ← peek with
  | .anchor anchor =>
    drop
    match ← peek with
    | .tag tag =>
      drop
      return (some anchor, some (← tagText tag))
    | _ => return (some anchor, none)
  | .tag tag =>
    drop
    match ← peek with
    | .anchor anchor =>
      drop
      return (some anchor, some (← tagText tag))
    | .broken error => throw error
    | _ => return (none, some (← tagText tag))
  | _ => return (none, none)

/-- The tag of a collection; an exclamation mark alone is as good as none. -/
def collectionTag (given : Option String) (default : Tag) : Tag :=
  match given with
  | none | some "!" => default
  | some text => .ofText text

/-- The tag of a scalar. Without a tag the form of plain text decides; an exclamation mark alone makes
it decide for every text. -/
def scalarTag (given : Option String) (plain : Bool) (text : WideText) : Tag :=
  match given with
  | none => if plain then .ofPlain text else .str
  | some "!" => .ofPlain text
  | some tag => .ofText tag

/-- Adds a scalar. -/
def addScalar (anchor given : Option String) (plain : Bool) (text : WideText) : Composer Nat := do
  let number ← add ⟨scalarTag given plain text, .scalar text⟩
  name anchor number
  return number

/-- The kinds of places where a node may stand: they differ in the collections that may start there. -/
inductive Place where
  | flow
  | block
  /-- In a block mapping, where a sequence need not be indented. -/
  | entry
  deriving DecidableEq, Repr

mutual

/-- One node. Each of these functions reads a token before it calls itself or the next one, so `fuel`
twice the count of tokens is never used up. -/
def node (place : Place) : Nat → Composer Nat
  | 0 => throw .malformed
  | fuel + 1 => do
    match ← peek with
    | .alias anchor =>
      drop
      named anchor
    | _ =>
      let (anchor, tag) ← properties
      let sequence := addCollection (collectionTag tag .seq) anchor
      let mapping := addCollection (collectionTag tag .map) anchor
      match ← peek, place with
      | .blockEntry, .entry => sequence (.sequence <$> looseItems fuel)
      | .scalar text plain, _ =>
        drop
        addScalar anchor tag plain text
      | .flowSequenceStart, _ =>
        drop
        sequence (.sequence <$> flowItems true fuel)
      | .flowMappingStart, _ =>
        drop
        mapping (.mapping <$> flowPairs true fuel)
      | .blockSequenceStart, .block | .blockSequenceStart, .entry =>
        drop
        sequence (.sequence <$> blockItems fuel)
      | .blockMappingStart, .block | .blockMappingStart, .entry =>
        drop
        mapping (.mapping <$> blockPairs fuel)
      | .broken error, _ => throw error
      | _, _ =>
        if anchor.isNone && tag.isNone then throw .malformed
        else addScalar anchor tag tag.isNone ""

/-- The items of a block sequence, through its end. -/
def blockItems : Nat → Composer (List Nat)
  | 0 => throw .malformed
  | fuel + 1 => do
    match ← peek with
    | .blockEntry =>
      drop
      let item ← match ← peek with
        | .blockEntry | .blockEnd => empty
        | _ => node .block fuel
      return item :: (← blockItems fuel)
    | .blockEnd =>
      drop
      return []
    | token => refuse token

/-- The items of a sequence that is indented no further than the mapping it stands in. -/
def looseItems : Nat → Composer (List Nat)
  | 0 => throw .malformed
  | fuel + 1 => do
    match ← peek with
    | .blockEntry =>
      drop
      let item ← match ← peek with
        | .blockEntry | .key | .value | .blockEnd => empty
        | _ => node .block fuel
      return item :: (← looseItems fuel)
    | .broken error => throw error
    | _ => return []

/-- A key or a value of a block mapping, which may be left out. -/
def blockPart : Nat → Composer Nat
  | 0 => throw .malformed
  | fuel + 1 => do
    match ← peek with
    | .key | .value | .blockEnd => empty
    | _ => node .entry fuel

/-- The pairs of a block mapping, through its end. -/
def blockPairs : Nat → Composer (List (Nat × Nat))
  | 0 => throw .malformed
  | fuel + 1 => do
    match ← peek with
    | .key =>
      drop
      let key ← blockPart fuel
      let value ← match ← peek with
        | .value =>
          drop
          blockPart fuel
        | .broken error => throw error
        | _ => empty
      return (key, value) :: (← blockPairs fuel)
    | .blockEnd =>
      drop
      return []
    | token => refuse token

/-- The items of a flow sequence, through its closing bracket. A pair by itself is a mapping. -/
def flowItems (first : Bool) : Nat → Composer (List Nat)
  | 0 => throw .malformed
  | fuel + 1 => do
    if (← peek) = .flowSequenceEnd then
      drop
      return []
    if !first then expect .flowEntry
    match ← peek with
    | .flowSequenceEnd =>
      drop
      return []
    | .key =>
      drop
      let item ← addCollection .map none do
        let key ← match ← peek with
          | .value | .flowEntry | .flowSequenceEnd => empty
          | _ => node .flow fuel
        let value ← flowValue .flowSequenceEnd fuel
        return .mapping [(key, value)]
      return item :: (← flowItems false fuel)
    | _ =>
      let item ← node .flow fuel
      return item :: (← flowItems false fuel)

/-- A colon and a value in a flow collection that ends with `last`; both may be left out. -/
def flowValue (last : Token) : Nat → Composer Nat
  | 0 => throw .malformed
  | fuel + 1 => do
    match ← peek with
    | .value =>
      drop
      let next ← peek
      if next = .flowEntry || next = last then empty else node .flow fuel
    | .broken error => throw error
    | _ => empty

/-- The pairs of a flow mapping, through its closing brace. -/
def flowPairs (first : Bool) : Nat → Composer (List (Nat × Nat))
  | 0 => throw .malformed
  | fuel + 1 => do
    if (← peek) = .flowMappingEnd then
      drop
      return []
    if !first then expect .flowEntry
    match ← peek with
    | .flowMappingEnd =>
      drop
      return []
    | .key =>
      drop
      let key ← match ← peek with
        | .value | .flowEntry | .flowMappingEnd => empty
        | _ => node .flow fuel
      let value ← flowValue .flowMappingEnd fuel
      return (key, value) :: (← flowPairs false fuel)
    | _ =>
      let key ← node .flow fuel
      let value ← empty
      return (key, value) :: (← flowPairs false fuel)

end

/-- The directives before a document, the version said at most once and each handle explained once. -/
def directives : Nat → Bool → List (String × String) → Composer (List (String × String))
  | 0, _, _ => throw .malformed
  | fuel + 1, versioned, handles => do
    match ← peek with
    | .directive directive =>
      drop
      match directive with
      | .version major _ =>
        if versioned || major ≠ 1 then throw .malformed
        directives fuel true handles
      | .tagHandle handle meaning =>
        if (handles.lookup handle).isSome then throw .malformed
        directives fuel versioned (handles ++ [(handle, meaning)])
      | .unknown => directives fuel versioned handles
    | _ => return handles

/-- Passes over the marks that end documents. -/
def dropEnds : Nat → Composer Unit
  | 0 => return
  | fuel + 1 => do
    if (← peek) = .documentEnd then
      drop
      dropEnds fuel

/-- A document that starts with directives or a mark. -/
def markedDocument (fuel : Nat) : Composer Nat := do
  let handles ← directives fuel false []
  modify fun s => { s with handles := handles ++ Tag.handles }
  expect .documentStart
  match ← peek with
  | .directive _ | .documentStart | .documentEnd | .streamEnd => empty
  | _ => node .block fuel

/-- The end of the text. Directives that stand there instead are read before a further document is
refused. -/
def ending (fuel : Nat) : Composer Unit := do
  match ← peek with
  | .streamEnd => return
  | _ =>
    let _ ← directives fuel false []
    refuse (← peek)

/-- The number of the only document's root, or nothing if there is no document. -/
def root (fuel : Nat) : Composer (Option Nat) := do
  match ← peek with
  | .streamEnd => return none
  | token =>
    let number ← match token with
      | .directive _ | .documentStart => markedDocument fuel
      | _ => node .block fuel
    dropEnds fuel
    ending fuel
    return some number

end Composer

/-- The nodes of a text and the number of the root, if the text holds anything. As many collections as `nesting`
says may stand inside each other. -/
def nodesOf (nesting : Nat) (text : List Char) : Except Error (Array Node × Option Nat) := do
  let tokens := Token.scan text
  let (root, composition) ← (Composer.root (2 * tokens.length + 2)).run { tokens, nesting }
  return (composition.nodes, root)

end StoryCatalog.Yaml
