import StoryCatalog.Number.Reading
import StoryCatalog.Source.Token
import StoryCatalog.Text.Hex

/-!
# Literals

What a raw arg stands for. One quote is taken off each end, then the words for truth values and the
forms of numbers are recognised; all else is text. Only a whole number with too many digits has no
value.
-/

namespace StoryCatalog.Story

open Text Source Number

inductive Literal where
  | text (value : String)
  | flag (value : Bool)
  | whole (value : Int)
  | real (value : Float)
  deriving DecidableEq, Repr

/-- The text without a quote at its end; a line feed may stand after the quote. -/
def dropEndQuote (text : List Char) : List Char :=
  match text.reverse with
  | '\n' :: c :: rest => if isQuote c then rest.reverse ++ ['\n'] else text
  | c :: rest => if isQuote c then rest.reverse else text
  | [] => []

def dropStartQuote : List Char → List Char
  | [] => []
  | c :: rest => if isQuote c then rest else c :: rest

def unquote (text : List Char) : List Char :=
  dropEndQuote (dropStartQuote text)

/-- The digits of a hexadecimal number, after its mark. -/
def hexDigits? : List Char → Option (List Char)
  | '0' :: x :: c :: rest =>
    if (x = 'x' || x = 'X') && (c :: rest).all fun c => (hexValue? c).isSome then some (c :: rest)
    else none
  | _ => none

/-- Whether a text is decimal digits with at most a sign before them. -/
def isWhole (text : List Char) : Bool :=
  let (_, digits) := splitSign text
  !digits.isEmpty && digits.all isDecimal

def number? (text : List Char) : Except TooManyDigits (Option Literal) :=
  match hexDigits? text with
  | some digits => .ok (some (.whole (ofDigits 16 (digits.filterMap hexValue?))))
  | none =>
    if isWhole text then (fun n => some (.whole n)) <$> wholeOfText text
    else .ok ((decimal? text).map fun d => .real d.toFloat)

def coerce (raw : List Char) : Except TooManyDigits Literal := do
  let cleaned := unquote raw
  if cleaned = "true".toList then return .flag true
  if cleaned = "false".toList then return .flag false
  match ← number? cleaned with
  | some number => return number
  | none => return .text (String.ofList cleaned)

end StoryCatalog.Story
