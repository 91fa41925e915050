import StoryCatalog.Index.NumericHost
import StoryCatalog.Text.Quoted
import StoryCatalog.Text.Range

/-!
# The authority of an address

The part between the two slashes and the path names the host. A host in brackets has to be a numeric
one, and no character of the part may be another form of a separator.
-/

namespace StoryCatalog

open Text

/-- What is wrong with the authority of an address. -/
inductive AuthorityFault where
  /-- Brackets stand anywhere but around the host. -/
  | brackets
  /-- The host in brackets starts like one of a later version but is none. -/
  | laterVersion
  | octetsInBrackets
  | notNumeric (host : WideText)
  | hiddenSeparator (authority : WideText)
  deriving DecidableEq, Repr

def AuthorityFault.message : AuthorityFault → WideText
  | .brackets => "Invalid IPv6 URL"
  | .laterVersion => "IPvFuture address is invalid"
  | .octetsInBrackets => "An IPv4 address cannot be in brackets"
  | .notNumeric host => quoted host ++ " does not appear to be an IPv4 or IPv6 address"
  | .hiddenSeparator authority =>
    "netloc '" ++ authority ++ "' contains invalid characters under NFKC normalization"

namespace Index

/-- The address without the control characters and spaces in front of it, and without any tabs and line
breaks. -/
def compact (address : List TextUnit) : List TextUnit :=
  (address.dropWhile (·.isChar (·.toNat ≤ 32))).filter fun unit => !(WideText.units "\t\r\n").contains unit

/-- The letters, digits and signs that a scheme is spelled with. -/
def isSchemeChar (c : Char) : Bool :=
  c.isAlphanum || "+-.".toList.contains c

/-- What follows the scheme of an address; the whole address where it has no well-formed one. -/
def afterScheme (address : List TextUnit) : List TextUnit :=
  let scheme := address.takeWhile (· ≠ .char ':')
  match address.dropWhile (· ≠ .char ':') with
  | _ :: rest =>
    if scheme.head?.any (·.isChar (·.isAlpha)) && scheme.all (·.isChar isSchemeChar) then rest else address
  | [] => address

/-- The authority of an address, empty where there is none. -/
def authority (address : List TextUnit) : List TextUnit :=
  match afterScheme (compact address) with
  | .char '/' :: .char '/' :: rest => rest.takeWhile fun unit => !(WideText.units "/?#").contains unit
  | _ => []

/-- The host of an authority with brackets. Nothing may stand between a bracket and what precedes the
host or its port. -/
def bracketedHost (authority : List TextUnit) : Except AuthorityFault (List TextUnit) :=
  let hostAndPort := (authority.reverse.takeWhile (· ≠ .char '@')).reverse
  match cut? [.char '['] hostAndPort with
  | none => .ok (hostAndPort.takeWhile (· ≠ .char ':'))
  | some (_ :: _, _) => .error .brackets
  | some ([], inner) =>
    match (inner.dropWhile (· ≠ .char ']')).drop 1 with
    | [] | .char ':' :: _ => .ok (inner.takeWhile (· ≠ .char ']'))
    | _ => .error .brackets

/-- A host of a later version: its number in hexadecimal, a point and something after it. -/
def isLaterVersion (host : List TextUnit) : Bool :=
  let isHex (unit : TextUnit) : Bool := unit.isChar fun c => (hexValue? c).isSome
  let number := host.drop 1
  match number.dropWhile isHex with
  | .char '.' :: _ :: _ => number.head?.any isHex
  | _ => false

def checkHost (host : List TextUnit) : Except AuthorityFault Unit :=
  if host.head? = some (.char 'v') then
    if isLaterVersion host then .ok () else .error .laterVersion
  else if (TextUnit.chars? host).any isFourOctets then .error .octetsInBrackets
  else if isZonedGroups host then .ok ()
  else .error (.notNumeric (.ofUnits host))

/-- The characters with a compatible form that holds a slash, a question mark, a number sign, an at sign
or a colon. -/
def isHiddenSeparator (c : Char) : Bool :=
  inRanges [(0x2047, 0x2049), (0x2100, 0x2101), (0x2105, 0x2106), (0x2A74, 0x2A74), (0xFE13, 0xFE13),
    (0xFE16, 0xFE16), (0xFE55, 0xFE56), (0xFE5F, 0xFE5F), (0xFE6B, 0xFE6B), (0xFF03, 0xFF03),
    (0xFF0F, 0xFF0F), (0xFF1A, 0xFF1A), (0xFF1F, 0xFF20)] c.toNat

def checkAuthority (authority : List TextUnit) : Except AuthorityFault Unit := do
  if authority.contains (.char '[') != authority.contains (.char ']') then throw .brackets
  if authority.contains (.char '[') then checkHost (← bracketedHost authority)
  if authority.any (·.isChar isHiddenSeparator) then throw (.hiddenSeparator (.ofUnits authority))

end Index

end StoryCatalog
