import StoryCatalog.Text.Blank
import StoryCatalog.Text.Quoted
import StoryCatalog.Text.Split

/-!
# The address of the index

Where the index of a story server is, and the form in which a request names its address: blanks,
angle brackets and an address label around it are taken off, as is an empty fragment. An address is taken apart
by its units, since the settings may spell one with halves of surrogate pairs.
-/

namespace StoryCatalog.Index

open Text

/-- An address without the slashes at its end. -/
def withoutEndSlashes (address : WideText) : WideText :=
  .ofUnits (dropEnd (· = .char '/') address.units)

/-- The address of the index below a server's address that has no slash at its end. -/
def indexAddress (server : WideText) : WideText :=
  server ++ "/index.json"

/-- What is between the blanks at either end. -/
def trimUnits (units : List TextUnit) : List TextUnit :=
  dropEnd (·.isChar isBlank) (units.dropWhile (·.isChar isBlank))

/-- The address inside its wrapping. -/
def unwrap (address : List TextUnit) : List TextUnit :=
  let trimmed := trimUnits address
  let inner :=
    if trimmed.head? = some (.char '<') && trimmed.getLast? = some (.char '>') then
      trimUnits (trimmed.drop 1).dropLast
    else trimmed
  if (WideText.units "URL:").isPrefixOf inner then trimUnits (inner.drop 4) else inner

/-- The address and its fragment: what comes after the last number sign. -/
def splitFragment (address : List TextUnit) : List TextUnit × Option (List TextUnit) :=
  if address.contains (.char '#') then
    let reversed := address.reverse
    (((reversed.dropWhile (· ≠ .char '#')).drop 1).reverse, some (reversed.takeWhile (· ≠ .char '#')).reverse)
  else (address, none)

/-- The address as a request shows it. -/
def requestAddress (address : WideText) : WideText :=
  let (main, fragment) := splitFragment (unwrap address.units)
  match fragment with
  | some (unit :: rest) => .ofUnits (main ++ .char '#' :: unit :: rest)
  | _ => .ofUnits main

/-- Whether an address names a scheme: something without a slash before its first colon. -/
def hasScheme (address : WideText) : Bool :=
  let main := (splitFragment (unwrap address.units)).1
  let scheme := main.takeWhile fun unit => unit ≠ .char '/' && unit ≠ .char ':'
  !scheme.isEmpty && (main.drop scheme.length).head? = some (.char ':')

end StoryCatalog.Index
