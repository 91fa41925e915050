import StoryCatalog.Text.Hex
import StoryCatalog.Text.Scan
import StoryCatalog.Text.Split
import StoryCatalog.Text.Wide
import StoryCatalog.Yaml.Timestamp

/-!
# Types of nodes

The type of a node is the tag it is given, or else follows from its form. A plain scalar is a truth
value, a number, a timestamp and so on when it looks like one; everything else is a text.
-/

namespace StoryCatalog.Yaml

open Text Number

inductive Tag where
  | null
  | bool
  | int
  | float
  | binary
  | timestamp
  | str
  | seq
  | map
  | omap
  | pairs
  | set
  /-- The key whose value is merged into a mapping. -/
  | merge
  /-- The key whose value stands for its mapping. -/
  | value
  | unknown
  deriving DecidableEq, Repr

namespace Tag

/-- The beginning that the names of the known types share. -/
def known : String := "tag:yaml.org,2002:"

def names : List (String × Tag) :=
  [("null", .null), ("bool", .bool), ("int", .int), ("float", .float), ("binary", .binary),
    ("timestamp", .timestamp), ("str", .str), ("seq", .seq), ("map", .map), ("omap", .omap),
    ("pairs", .pairs), ("set", .set), ("merge", .merge), ("value", .value)]

def ofText (text : String) : Tag :=
  match dropWord? known.toList text.toList with
  | some name => (names.lookup (String.ofList name)).getD .unknown
  | none => .unknown

/-- The handles that every document has. -/
def handles : List (String × String) := [("!", "!"), ("!!", known)]

/-! ## The forms of plain scalars -/

/-- The three spellings of a word: in lower case, capitalised, and in capitals. -/
def isSpelling (word text : String) : Bool :=
  text = word || text = word.capitalize || text = word.toUpper

def truths : List (String × Bool) :=
  [("yes", true), ("no", false), ("true", true), ("false", false), ("on", true), ("off", false)]

def isDigitOrLine (c : Char) : Bool :=
  c.isDigit || c = '_'

/-- Digits and low lines after a first digit of a class. -/
def isDigits (first : Char → Bool) : List Char → Bool
  | [] => false
  | c :: rest => first c && rest.all isDigitOrLine

/-- One of sixty, in one digit or two. -/
def isSixtieth : List Char → Bool
  | [c] => c.isDigit
  | [c, d] => '0' ≤ c && c ≤ '5' && d.isDigit
  | _ => false

/-- Some characters, all of a class or low lines. -/
def isSome (p : Char → Bool) (text : List Char) : Bool :=
  !text.isEmpty && text.all fun c => p c || c = '_'

/-- A whole number without its sign: binary, hexadecimal, octal, decimal, or with parts of sixty. -/
def isWholeForm (text : List Char) : Bool :=
  match text with
  | '0' :: 'b' :: rest => isSome (fun c => c = '0' || c = '1') rest
  | '0' :: 'x' :: rest => isSome (fun c => (hexValue? c).isSome) rest
  | '0' :: rest => rest.all fun c => ('0' ≤ c && c ≤ '7') || c = '_'
  | _ =>
    match split ':' text with
    | first :: parts => isDigits (fun c => c.isDigit && c ≠ '0') first && parts.all isSixtieth
    | [] => false

/-- An exponent, whose sign must not be left out, or nothing. -/
def isExponent : List Char → Bool
  | [] => true
  | e :: sign :: digits =>
    (e = 'e' || e = 'E') && (sign = '+' || sign = '-') && !digits.isEmpty && digits.all Char.isDigit
  | _ => false

/-- A number with a point, without its sign. Only with a digit before the point, or as the name of
infinity, it may have one. -/
def isRealForm (signed : Bool) (text : List Char) : Bool :=
  let before := text.takeWhile (· ≠ '.')
  match text.dropWhile (· ≠ '.') with
  | [] => false
  | _ :: after =>
    if before.isEmpty then
      ["inf", "Inf", "INF"].contains (String.ofList after) ||
        (!signed && ["nan", "NaN", "NAN"].contains (String.ofList after)) ||
        (!signed && (after.head?.map Char.isDigit).getD false && isExponent (after.dropWhile isDigitOrLine))
    else
      match split ':' before with
      | [first] => isDigits Char.isDigit first && isExponent (after.dropWhile isDigitOrLine)
      | first :: parts => isDigits Char.isDigit first && parts.all isSixtieth && after.all isDigitOrLine
      | [] => false

/-- A date alone must have two digits for month and day. -/
def isTimestampForm (text : List Char) : Bool :=
  match Timestamp.read? text with
  | some stamp => stamp.time.isSome || text.length = "0000-00-00".length
  | none => false

/-- The type that a text without quotes has by its form. -/
def ofForm (text : List Char) : Tag :=
  let word := String.ofList text
  let (_, unsigned) := splitSign text
  let signed := unsigned.length < text.length
  if truths.any fun (truth, _) => isSpelling truth word then .bool
  else if isRealForm signed unsigned then .float
  else if isWholeForm unsigned then .int
  else if word = "<<" then .merge
  else if word = "~" || isSpelling "null" word then .null
  else if isTimestampForm text then .timestamp
  else if word = "=" then .value
  else .str

/-- The type of a plain scalar. Nothing at all is null; a line feed at the end does not change the form
of what is before it. No form has a half of a surrogate pair. -/
def ofPlain : WideText → Tag
  | .whole text =>
    match text.toList.reverse with
    | [] => .null
    | ['\n'] => .str
    | '\n' :: rest => ofForm rest.reverse
    | _ => ofForm text.toList
  | .halved .. => .str

end Tag

end StoryCatalog.Yaml
