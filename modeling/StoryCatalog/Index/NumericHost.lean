import StoryCatalog.Number.Reading
import StoryCatalog.Text.Hex
import StoryCatalog.Text.Split
import StoryCatalog.Text.Wide

/-!
# Numeric hosts

A host that is named by its number: four octets in decimal, or eight groups of hexadecimal digits. One
run of groups may be left out between two colons, the last two groups may be written as four octets,
and a zone may follow.
-/

namespace StoryCatalog.Index

open Text

/-- A number below 256 in decimal digits, none of them an idle zero. -/
def isOctet (text : List Char) : Bool :=
  !text.isEmpty && text.length ≤ 3 && text.all (·.isDigit) && (text = ['0'] || text.head? ≠ some '0') &&
    Number.ofDigits 10 (text.map fun c => c.toNat - 48) < 256

def isFourOctets (text : List Char) : Bool :=
  let octets := split '.' text
  octets.length = 4 && octets.all isOctet

/-- Up to four hexadecimal digits. -/
def isGroup (text : List Char) : Bool :=
  !text.isEmpty && text.length ≤ 4 && text.all fun c => (hexValue? c).isSome

/-- How many groups the pieces are worth. Four octets stand for two groups, at the end only. -/
def groupCount? : List (List Char) → Option Nat
  | [] => some 0
  | [last] => if isGroup last then some 1 else if isFourOctets last then some 2 else none
  | piece :: pieces => if isGroup piece then (groupCount? pieces).map (· + 1) else none

/-- The pieces between colons; an empty text has none. -/
def groupPieces (text : List Char) : List (List Char) :=
  if text.isEmpty then [] else split ':' text

/-- Whether a text is eight groups. What is left out is at least one of them. -/
def isEightGroups (text : List Char) : Bool :=
  match cut? "::".toList text with
  | none => groupCount? (groupPieces text) = some 8
  | some (before, after) =>
    let high := groupPieces before
    high.all isGroup && (groupCount? (groupPieces after)).any (high.length + · < 8)

/-- Eight groups, after which a percent sign may name a zone. The zone may be spelled with anything else. -/
def isZonedGroups (host : List TextUnit) : Bool :=
  (TextUnit.chars? (host.takeWhile (· ≠ .char '%'))).any isEightGroups &&
    match host.dropWhile (· ≠ .char '%') with
    | [] => true
    | _ :: zone => !zone.isEmpty && !zone.contains (.char '%')

end StoryCatalog.Index
