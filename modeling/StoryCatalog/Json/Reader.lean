import StoryCatalog.Json.Basic
import StoryCatalog.Number.Reading

/-!
# Reading JSON

Documents are read strictly, except that the three names of numbers without digits are let in and
that a name may come twice in an object: its last value then stands in its first place. A fault is
reported with its line and column; numbers with too many digits and documents nested deeper than the
caller allows are faults of their own.
-/

namespace StoryCatalog.Json

open Text Number

/-- What a reader may miss or find in the way. -/
inductive SyntaxFault where
  | byteOrderMark
  | value
  | propertyName
  | colon
  | comma
  | extraData
  | openString
  | controlCharacter
  | unknownEscape
  | unicodeEscape
  deriving DecidableEq, Repr

def SyntaxFault.reason : SyntaxFault → String
  | .byteOrderMark => "Unexpected UTF-8 BOM (decode using utf-8-sig)"
  | .value => "Expecting value"
  | .propertyName => "Expecting property name enclosed in double quotes"
  | .colon => "Expecting ':' delimiter"
  | .comma => "Expecting ',' delimiter"
  | .extraData => "Extra data"
  | .openString => "Unterminated string starting at"
  | .controlCharacter => "Invalid control character at"
  | .unknownEscape => "Invalid \\escape"
  | .unicodeEscape => "Invalid \\uXXXX escape"

/-- A place in a document: lines and columns count from one, the offset from zero. -/
structure Position where
  line : Nat
  column : Nat
  offset : Nat
  deriving DecidableEq, Repr

def Position.after (text : List Char) : Position where
  line := text.count '\n' + 1
  column := (text.reverse.takeWhile (· ≠ '\n')).length + 1
  offset := text.length

inductive Container where
  | array
  | object
  deriving DecidableEq, Repr

inductive ReadError where
  | malformed (fault : SyntaxFault) (position : Position)
  | tooManyDigits (error : TooManyDigits)
  | tooDeep (container : Container)
  deriving DecidableEq, Repr

def Container.name : Container → String
  | .array => "array"
  | .object => "object"

def ReadError.message : ReadError → String
  | .malformed fault position =>
    fault.reason ++ ": line " ++ toString position.line ++ " column " ++ toString position.column ++
      " (char " ++ toString position.offset ++ ")"
  | .tooManyDigits error => error.message
  | .tooDeep container =>
    "maximum recursion depth exceeded while decoding a JSON " ++ container.name ++
      " from a unicode string"

/-- Why reading stopped; a fault in the text comes with the count of characters from there to the
end of the document. -/
inductive Stop where
  | fault (fault : SyntaxFault) (remaining : Nat)
  | digits (error : TooManyDigits)
  | depth (container : Container)
  deriving DecidableEq, Repr

def isSpace (c : Char) : Bool :=
  c = ' ' || c = '\t' || c = '\n' || c = '\r'

def skipSpace (text : List Char) : List Char :=
  text.dropWhile isSpace

/-- The value of four hexadecimal digits with a character after them, and what follows the digits.
A string cannot end right after them, since its closing quote is missing then. -/
def fourHex? : List Char → Option (Nat × List Char)
  | a :: b :: c :: d :: e :: rest => do
    return (ofDigits 16 [← hexValue? a, ← hexValue? b, ← hexValue? c, ← hexValue? d], e :: rest)
  | _ => none

def isHighSurrogate (n : Nat) : Bool :=
  0xD800 ≤ n && n ≤ 0xDBFF

def isLowSurrogate (n : Nat) : Bool :=
  0xDC00 ≤ n && n ≤ 0xDFFF

/-- What a `\u` escape stands for, from after the `u` on. Two escapes make one character when they
are the halves of a surrogate pair and the document goes on for long enough. -/
def unicodeEscape (text : List Char) : Except Stop (TextUnit × List Char) :=
  let fault (rest : List Char) : Except Stop (TextUnit × List Char) :=
    .error (.fault .unicodeEscape (rest.length + 1))
  match fourHex? text with
  | none => fault text
  | some (high, rest) =>
    if isHighSurrogate high && 6 < rest.length then
      match rest with
      | '\\' :: 'u' :: more =>
        match fourHex? more with
        | none => fault more
        | some (low, after) =>
          if isLowSurrogate low then
            .ok (.char (Char.ofNat (0x10000 + (high - 0xD800) * 0x400 + (low - 0xDC00))), after)
          else .ok (.ofCode high, rest)
      | _ => .ok (.ofCode high, rest)
    else .ok (.ofCode high, rest)

/-- The character that a letter stands for after a backslash. -/
def escaped? (c : Char) : Option Char :=
  if c = '"' || c = '\\' || c = '/' then some c
  else if c = 'b' then some '\x08'
  else if c = 'f' then some '\x0c'
  else if c = 'n' then some '\n'
  else if c = 'r' then some '\r'
  else if c = 't' then some '\t'
  else none

/-- The rest of a string after its opening quote; `opened` characters remained at that quote. Each
step reads at least one character, so `fuel` is the length of the text. -/
def readString (opened : Nat) : Nat → List Char → Except Stop (List TextUnit × List Char)
  | 0, _ => .error (.fault .openString opened)
  | fuel + 1, text =>
    match text with
    | [] => .error (.fault .openString opened)
    | '"' :: rest => .ok ([], rest)
    | ['\\'] => .error (.fault .openString opened)
    | '\\' :: 'u' :: rest => do
      let (unit, rest) ← unicodeEscape rest
      let (more, rest) ← readString opened fuel rest
      return (unit :: more, rest)
    | '\\' :: c :: rest =>
      match escaped? c with
      | none => .error (.fault .unknownEscape (rest.length + 2))
      | some c => do
        let (more, rest) ← readString opened fuel rest
        return (.char c :: more, rest)
    | c :: rest =>
      if c.toNat ≤ 0x1F then .error (.fault .controlCharacter (rest.length + 1))
      else do
        let (more, rest) ← readString opened fuel rest
        return (.char c :: more, rest)

/-- A string from its opening quote on. -/
def stringFrom (rest : List Char) : Except Stop (WideText × List Char) := do
  let (units, rest) ← readString (rest.length + 1) (rest.length + 1) rest
  return (.ofUnits units, rest)

def digitsOf (text : List Char) : List Nat :=
  text.map fun c => c.toNat - 48

/-- The digits after a point, if a digit follows it. -/
def fractionOf (text : List Char) : Option (List Char) × List Char :=
  match text with
  | '.' :: c :: rest =>
    if c.isDigit then (some (c :: rest.takeWhile Char.isDigit), rest.dropWhile Char.isDigit)
    else (none, text)
  | _ => (none, text)

/-- The exponent, if a digit follows its letter and sign. -/
def exponentOf (text : List Char) : Option Int × List Char :=
  match text with
  | e :: rest =>
    if e = 'e' || e = 'E' then
      let (negative, more) := splitSign rest
      let digits := more.takeWhile Char.isDigit
      if digits.isEmpty then (none, text)
      else (some (withSign negative (ofDigits 10 (digitsOf digits))), more.dropWhile Char.isDigit)
    else (none, text)
  | [] => (none, text)

/-- The whole part of a number: a zero, or digits that do not start with one. -/
def wholePart? : List Char → Option (List Char × List Char)
  | [] => none
  | c :: rest =>
    if c = '0' then some (['0'], rest)
    else if c.isDigit then some (c :: rest.takeWhile Char.isDigit, rest.dropWhile Char.isDigit)
    else none

def readNumber (text : List Char) : Except Stop (Json × List Char) :=
  let (negative, unsigned) := match text with
    | '-' :: rest => (true, rest)
    | _ => (false, text)
  match wholePart? unsigned with
  | none => .error (.fault .value text.length)
  | some (whole, rest) =>
    match fractionOf rest with
    | (fraction, rest) =>
      match exponentOf rest with
      | (exponent, rest) =>
        if fraction.isNone && exponent.isNone then
          match wholeOfDigits (digitsOf whole) with
          | .ok n => .ok (.int (withSign negative n), rest)
          | .error error => .error (.digits error)
        else
          let fraction := fraction.getD []
          let value : Decimal :=
            ⟨negative, ofDigits 10 (digitsOf (whole ++ fraction)), exponent.getD 0 - fraction.length⟩
          .ok (.float value.toFloat, rest)

/-- The values that are written as words. -/
def words : List (List Char × Json) :=
  [("null".toList, .null), ("true".toList, .bool true), ("false".toList, .bool false),
    ("NaN".toList, .float (0.0 / 0.0)), ("Infinity".toList, .float (1.0 / 0.0)),
    ("-Infinity".toList, .float (-1.0 / 0.0))]

def readWord? (text : List Char) : Option (Json × List Char) :=
  words.findSome? fun (word, value) =>
    if word.isPrefixOf text then some (value, text.drop word.length) else none

mutual

/-- A value with `depth` levels of nesting left. Every call of these three functions either reads a
character or passes on to the next, so `fuel` twice the length of the text is never used up. -/
def readValue (depth : Nat) : Nat → List Char → Except Stop (Json × List Char)
  | 0, text => .error (.fault .value text.length)
  | fuel + 1, text =>
    match text with
    | [] => .error (.fault .value 0)
    | '"' :: rest => do
      let (s, rest) ← stringFrom rest
      return (.str s, rest)
    | '[' :: rest =>
      match depth with
      | 0 => .error (.depth .array)
      | depth + 1 =>
        match skipSpace rest with
        | ']' :: after => .ok (.arr [], after)
        | inside => do
          let (items, rest) ← readItems depth fuel inside
          return (.arr items, rest)
    | '\x7b' :: rest =>
      match depth with
      | 0 => .error (.depth .object)
      | depth + 1 =>
        match skipSpace rest with
        | '\x7d' :: after => .ok (.obj [], after)
        | inside => do
          let (fields, rest) ← readFields depth fuel {} inside
          return (.obj fields.entries, rest)
    | _ =>
      match readWord? text with
      | some found => .ok found
      | none => readNumber text

/-- The items of an array from the first one on, through the closing bracket. -/
def readItems (depth : Nat) : Nat → List Char → Except Stop (List Json × List Char)
  | 0, text => .error (.fault .value text.length)
  | fuel + 1, text => do
    let (item, rest) ← readValue depth fuel text
    match skipSpace rest with
    | ']' :: after => return ([item], after)
    | ',' :: more =>
      let (items, rest) ← readItems depth fuel (skipSpace more)
      return (item :: items, rest)
    | other => .error (.fault .comma other.length)

/-- The fields of an object from a name on, through the closing brace. -/
def readFields (depth : Nat) :
    Nat → Fields Json WideText → List Char → Except Stop (Fields Json WideText × List Char)
  | 0, _, text => .error (.fault .value text.length)
  | fuel + 1, fields, text =>
    match text with
    | '"' :: rest => do
      let (name, rest) ← stringFrom rest
      match skipSpace rest with
      | ':' :: more =>
        let (value, rest) ← readValue depth fuel (skipSpace more)
        let fields := fields.put name value
        match skipSpace rest with
        | '\x7d' :: after => return (fields, after)
        | ',' :: more => readFields depth fuel fields (skipSpace more)
        | other => .error (.fault .comma other.length)
      | other => .error (.fault .colon other.length)
    | other => .error (.fault .propertyName other.length)

end

/-- A whole document: one value, with nothing but space around it, in which as many containers as `depth` says
may stand inside each other. -/
def readDocument (depth : Nat) (text : List Char) : Except Stop Json := do
  if text.head? = some '\ufeff' then .error (.fault .byteOrderMark text.length)
  let (value, rest) ← readValue depth (2 * text.length + 2) (skipSpace text)
  match skipSpace rest with
  | [] => return value
  | extra => .error (.fault .extraData extra.length)

def read (depth : Nat) (text : List Char) : Except ReadError Json :=
  match readDocument depth text with
  | .ok value => .ok value
  | .error (.fault fault remaining) =>
    .error (.malformed fault (.after (text.take (text.length - remaining))))
  | .error (.digits error) => .error (.tooManyDigits error)
  | .error (.depth container) => .error (.tooDeep container)

end StoryCatalog.Json
