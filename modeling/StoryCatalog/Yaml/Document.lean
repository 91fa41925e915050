import StoryCatalog.Yaml.Node
import StoryCatalog.Yaml.Scalar

/-!
# YAML documents

A document as values. Scalars are values at once; a collection is first a value by its number alone and
is filled later, level by level from the root on, so a collection may hold itself and the first fault
is the one on the highest level. Filling a mapping brings in the pairs of those merged into it.
-/

namespace StoryCatalog.Yaml

/-- What a collection holds. The pairs of a mapping stand in the order of their writing; of equal keys
the last counts. -/
inductive Collection where
  | sequence (items : List Value)
  | mapping (pairs : List (Value × Value))
  | set (items : List Value)
  | pairs (items : List (Value × Value))
  deriving DecidableEq, Repr

structure Document where
  root : Value := .null
  collections : List (Nat × Collection) := []
  deriving DecidableEq, Repr

/-- The nodes while they are turned into values. -/
structure Construction where
  nodes : Array Node
  values : List (Nat × Value) := []
  /-- The collections that are still to be filled, the first in line first. -/
  waiting : List Nat := []
  collections : List (Nat × Collection) := []

abbrev Builder := StateT Construction (Except Error)

namespace Builder

def node (number : Nat) : Builder Node := do
  match (← get).nodes[number]? with
  | some node => return node
  | none => throw .malformed

def setNode (number : Nat) (node : Node) : Builder Unit :=
  modify fun s => { s with nodes := s.nodes.setIfInBounds number node }

def tagOf (number : Nat) : Builder Tag := do
  return (← node number).tag

/-- The text that stands for a node where a scalar is wanted: its own, or that of the value key of a
mapping. `fuel` is the count of nodes, so only a mapping that leads back to itself uses it up. -/
def scalarText : Nat → Nat → Builder WideText
  | 0, _ => throw .tooDeep
  | fuel + 1, number => do
    match (← node number).content with
    | .scalar text => return text
    | .sequence _ => throw .malformed
    | .mapping pairs =>
      match ← pairs.findM? fun (key, _) => do return (← tagOf key) = .value with
      | some (_, value) => scalarText fuel value
      | none => throw .malformed

def isScalar : NodeContent → Bool
  | .scalar _ => true
  | _ => false

def isCollectionTag (tag : Tag) : Bool :=
  [Tag.seq, .map, .omap, .pairs, .set].contains tag

/-- The value of a node that has none yet. -/
def build (number : Nat) : Builder Value := do
  let node ← node number
  if isCollectionTag node.tag then
    modify fun s => { s with waiting := s.waiting ++ [number] }
    return .collection number
  else
    let text ← scalarText ((← get).nodes.size + 1) number
    if node.tag = .timestamp && !isScalar node.content then throw (.scalar .nestedTimestamp)
    match Scalar.value node.tag text with
    | .ok value => return value
    | .error error => throw error

/-- The value of a node, the same one each time. -/
def valueOf (number : Nat) : Builder Value := do
  match (← get).values.lookup number with
  | some value => return value
  | none =>
    let value ← build number
    modify fun s => { s with values := (number, value) :: s.values }
    return value

/-- Takes out the first pair with a merge key, going over value keys, which become plain texts. -/
def takeMerge : List (Nat × Nat) → Builder (Option Nat × List (Nat × Nat))
  | [] => return (none, [])
  | (key, value) :: rest => do
    match ← tagOf key with
    | .merge => return (some value, rest)
    | tag =>
      if tag = .value then setNode key { ← node key with tag := .str }
      let (found, rest) ← takeMerge rest
      return (found, (key, value) :: rest)

def pairsOf (number : Nat) : Builder (List (Nat × Nat)) := do
  match (← node number).content with
  | .mapping pairs => return pairs
  | _ => throw .malformed

def setPairs (number : Nat) (pairs : List (Nat × Nat)) : Builder Unit := do
  setNode number { ← node number with content := .mapping pairs }

/-- The pairs that the value of a merge key brings: those of a mapping, or of several, the last one's
first. -/
def brought (flatten : Nat → Builder Unit) (source : Nat) : Builder (List (Nat × Nat)) := do
  match (← node source).content with
  | .mapping _ =>
    flatten source
    pairsOf source
  | .sequence parts =>
    let each ← parts.mapM fun part => do
      let _ ← pairsOf part
      flatten part
      pairsOf part
    return each.reverse.flatten
  | .scalar _ => throw .malformed

/-- Takes the merge keys out of a mapping, one after the other, and gathers what they bring. `fuel` is
the count of all pairs. -/
def takeMerges (flatten : Nat → Builder Unit) (number : Nat) : Nat → Builder (List (Nat × Nat))
  | 0 => return []
  | fuel + 1 => do
    let (source, rest) ← takeMerge (← pairsOf number)
    setPairs number rest
    match source with
    | none => return []
    | some source =>
      let pairs ← brought flatten source
      return pairs ++ (← takeMerges flatten number fuel)

/-- Brings the pairs merged into a mapping in front of its own. A merge key is taken out before what it
brings is looked at, so mappings that are merged into each other come to an end; `fuel` is the count
of all pairs. -/
def flatten : Nat → Nat → Builder Unit
  | 0, _ => throw .malformed
  | fuel + 1, number => do
    let pairs ← takeMerges (flatten fuel) number (fuel + 1)
    setPairs number (pairs ++ (← pairsOf number))

def pairCount (nodes : Array Node) : Nat :=
  nodes.foldl (fun count node =>
    match node.content with
    | .mapping pairs => count + pairs.length
    | _ => count) 0

/-- Whether a value may be a key. -/
def isKey : Value → Bool
  | .collection _ => false
  | _ => true

/-- The pairs of a mapping as values. -/
def mappingOf (number : Nat) : Builder (List (Value × Value)) := do
  let _ ← pairsOf number
  flatten (pairCount (← get).nodes + 1) number
  (← pairsOf number).mapM fun (key, value) => do
    let key ← valueOf key
    if !isKey key then throw .malformed
    return (key, ← valueOf value)

def itemsOf (number : Nat) : Builder (List Nat) := do
  match (← node number).content with
  | .sequence items => return items
  | _ => throw .malformed

/-- The pairs of a sequence of mappings that hold one pair each. -/
def listedPairs (number : Nat) : Builder (List (Value × Value)) := do
  (← itemsOf number).mapM fun item => do
    match ← pairsOf item with
    | [(key, value)] => return (← valueOf key, ← valueOf value)
    | _ => throw .malformed

/-- What the collection of a node holds. -/
def fill (number : Nat) : Builder Collection := do
  match ← tagOf number with
  | .map => return .mapping (← mappingOf number)
  | .set => return .set ((← mappingOf number).map (·.1))
  | .omap | .pairs => return .pairs (← listedPairs number)
  | _ => return .sequence (← (← itemsOf number).mapM valueOf)

/-- Fills the waiting collections. Each node waits at most once, so `fuel` is the count of nodes. -/
def fillAll : Nat → Builder Unit
  | 0 => return
  | fuel + 1 => do
    match (← get).waiting with
    | [] => return
    | number :: rest =>
      modify fun s => { s with waiting := rest }
      let collection ← fill number
      modify fun s => { s with collections := (number, collection) :: s.collections }
      fillAll fuel

end Builder

/-- Whether a document may hold a character: one that is printed, or a tab or line break. -/
def isAllowed (c : Char) : Bool :=
  c = '\t' || c = '\n' || c = '\r' || (' ' ≤ c && c ≤ '~') || c = '\x85' ||
    ('\xa0' ≤ c && c ≤ '\ufffd') || 0x10000 ≤ c.toNat

namespace Document

/-- The document of a text that holds no more than one; one without any is null. As many collections as `nesting` says
may stand inside each other. -/
def read (nesting : Nat) (text : List Char) : Except Error Document := do
  if !text.all isAllowed then throw .malformed
  match ← nodesOf nesting text with
  | (_, none) => return {}
  | (nodes, some root) =>
    let build : Builder Value := do
      let value ← Builder.valueOf root
      Builder.fillAll (nodes.size + 1)
      return value
    let (root, construction) ← build.run { nodes }
    return { root, collections := construction.collections }

/-- What a collection holds; any other value holds nothing. -/
def collection? (document : Document) : Value → Option Collection
  | .collection number => document.collections.lookup number
  | _ => none

def isMapping (document : Document) (value : Value) : Bool :=
  match document.collection? value with
  | some (.mapping _) => true
  | _ => false

/-- The value of a text key in a mapping, the last one if the key is written more than once. -/
def field? (document : Document) (value : Value) (name : String) : Option Value :=
  match document.collection? value with
  | some (.mapping pairs) => (pairs.reverse.find? fun (key, _) => key = .str (.whole name)).map (·.2)
  | _ => none

def Collection.isEmpty : Collection → Bool
  | .sequence items => items.isEmpty
  | .mapping pairs => pairs.isEmpty
  | .set items => items.isEmpty
  | .pairs items => items.isEmpty

/-- Whether a value counts as given: neither null nor false, nor zero, nor empty. -/
def isGiven (document : Document) : Value → Bool
  | .null => false
  | .bool value => value
  | .int value => value != 0
  | .float value => value != 0.0
  | .str value => value != .whole ""
  | .binary bytes => !bytes.isEmpty
  | .timestamp _ => true
  | .collection number =>
    match document.collections.lookup number with
    | some collection => !Collection.isEmpty collection
    | none => false

end Document

end StoryCatalog.Yaml
