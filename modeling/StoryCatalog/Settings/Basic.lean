import StoryCatalog.Index.Client
import StoryCatalog.Path.Wide
import StoryCatalog.Settings.Error

/-!
# Settings

What the service needs to know: the project whose sources it reads, the port it answers on, and where
the story server is. Everything but the project has a default. A port can be taken away without another
one in its place.
-/

namespace StoryCatalog

structure Settings where
  project : WidePath
  port : Option Int := some 6006
  /-- The port of a story server on this machine. -/
  storyPort : Option Int := some 6010
  /-- The address of the story server, which wins over its port. -/
  storyAddress : Option WideText := none
  timeout : Option Seconds := some (.real 10.0)
  framework : Option WideText := none
  deriving DecidableEq, Repr

namespace Settings

/-- How a port is spelled in an address. -/
def portText : Option Int → Except SettingsError String
  | none => .ok "[]"
  | some port => wholeText port

/-- The address of the story server, without slashes at its end. -/
def server (settings : Settings) : Except SettingsError WideText :=
  match settings.storyAddress with
  | none | some (.whole "") => do return .whole ("http://localhost:" ++ (← portText settings.storyPort))
  | some address => .ok (Index.withoutEndSlashes address)

end Settings

end StoryCatalog
