import StoryCatalog.Text.CaseTable
import StoryCatalog.Text.Range

/-!
# Upper and lower case

Full case conversion, in which one letter may become several. The only context that matters is that
of the capital sigma: it becomes the final small sigma after a cased letter with none to follow.
-/

namespace StoryCatalog.Text

/-- The characters a code point becomes, given its runs and its expansions. -/
def converted (runs : List CaseRun) (expansions : List (Nat × List Nat)) (c : Char) : List Char :=
  match expansions.lookup c.toNat with
  | some codes => codes.map Char.ofNat
  | none =>
    match runs.findSome? (·.counterpart? c.toNat) with
    | some code => [Char.ofNat code]
    | none => [c]

def upperOf (c : Char) : List Char :=
  if c.toNat < 128 then [c.toUpper] else converted upperRuns upperExpansions c

/-- The lower case of a character out of context. -/
def lowerOf (c : Char) : List Char :=
  if c.toNat < 128 then [c.toLower] else converted lowerRuns lowerExpansions c

def isCased (c : Char) : Bool :=
  if c.toNat < 128 then c.isAlpha else inRanges wideCasedRanges c.toNat

/-- The characters that are passed over in looking for a cased letter beside a sigma. -/
def isCaseIgnorable (c : Char) : Bool :=
  if c.toNat < 128 then ['\x27', '.', ':', '^', '\x60'].contains c
  else inRanges wideCaseIgnorableRanges c.toNat

/-- Whether the next character that is not passed over is a cased letter. -/
def casedAhead (text : List Char) : Bool :=
  match text.dropWhile isCaseIgnorable with
  | [] => false
  | c :: _ => isCased c

/-- The lower case of a text that follows one whose last relevant character is cased or not. -/
def lowerFrom (casedBefore : Bool) : List Char → List Char
  | [] => []
  | c :: rest =>
    let here :=
      if c = 'Σ' then (if casedBefore && !casedAhead rest then ['ς'] else ['σ']) else lowerOf c
    here ++ lowerFrom (if isCaseIgnorable c then casedBefore else isCased c) rest

def lower (text : List Char) : List Char :=
  lowerFrom false text

def upper (text : List Char) : List Char :=
  text.flatMap upperOf

end StoryCatalog.Text
