import StoryCatalog.Project.Manifest

/-!
# Inspecting a project

The version of the story server and the framework, both from the packages a project depends on, and
the directory with the story server's configuration.
-/

namespace StoryCatalog.Project

open Text Number

/-- The packages whose version is the server's own. -/
def corePackages : List String := ["storybook", "@storybook/core"]

/-- The packages that bind the server to a framework. -/
def bindingPackages : List String :=
  ["@storybook/angular", "@storybook/react", "@storybook/vue3", "@storybook/svelte",
    "@storybook/web-components"]

/-- The frameworks, and the packages any of which gives one away, in the order of precedence. -/
def frameworkMarkers : List (String × List String) :=
  [("angular", ["@storybook/angular", "@angular/core"]),
    ("react", ["@storybook/react", "react"]),
    ("vue", ["@storybook/vue3", "vue"]),
    ("svelte", ["@storybook/svelte", "svelte"]),
    ("web-components", ["@storybook/web-components"])]

/-- The first number in a version text. -/
def majorVersion? (version : WideText) : Except TooManyDigits (Option Nat) :=
  let digits := (version.units.dropWhile fun unit => !unit.isChar isDecimal).takeWhile (·.isChar isDecimal)
  if digits.isEmpty then .ok none
  else some <$> wholeOfDigits ((TextUnit.cutAtHalf digits).1.filterMap digitValue?)

/-- The version a package is listed with, unless it is empty. -/
def listed? (dependencies : Fields WideText WideText) (package : String) : Option WideText :=
  (dependencies.get? package).filter (· ≠ .whole "")

/-- The first number among the versions of the listed packages. -/
def firstMajor? (dependencies : Fields WideText WideText) : List String → Except TooManyDigits (Option Nat)
  | [] => .ok none
  | package :: rest =>
    match listed? dependencies package with
    | none => firstMajor? dependencies rest
    | some version => do
      match ← majorVersion? version with
      | some major => return some major
      | none => firstMajor? dependencies rest

/-- The server's major version. Of the core packages only the first that is listed is asked; one that
has no number leaves the question to the bindings. -/
def serverVersion? (dependencies : Fields WideText WideText) : Except TooManyDigits (Option Nat) := do
  let core := (corePackages.filter fun package => (listed? dependencies package).isSome).take 1
  match ← firstMajor? dependencies core with
  | some major => return some major
  | none => firstMajor? dependencies bindingPackages

/-- The framework whose packages are listed, whatever their versions. -/
def framework (dependencies : Fields WideText WideText) : String :=
  match frameworkMarkers.find? fun (_, markers) => markers.any fun package => dependencies.contains package with
  | some (name, _) => name
  | none => "unknown"

/-- What was found out about a project, and what the log is told on the way. -/
structure Finding (α : Type) where
  records : List LogRecord := []
  result : Except ManifestError α

/-- Reads the manifest anew, nested as deep as `depth` says at most, and asks it. -/
def ask {α : Type} (depth : Nat) (machine : Machine) (project : WidePath)
    (question : Fields WideText WideText → Except TooManyDigits α) : Finding α :=
  match Manifest.read depth machine project with
  | .error error => { result := .error error }
  | .ok manifest =>
    { records := manifest.records
      result := (question manifest.dependencies).mapError .version }

def findVersion (depth : Nat) (machine : Machine) (project : WidePath) : Finding (Option Nat) :=
  ask depth machine project serverVersion?

def findFramework (depth : Nat) (machine : Machine) (project : WidePath) : Finding String :=
  ask depth machine project fun dependencies => .ok (framework dependencies)

/-- The names that the configuration directory may have. -/
def configurationNames : List String := [".storybook", "storybook"]

/-- The configuration of the story server, if there is one, be it a directory or not. -/
def configuration? (machine : Machine) (project : WidePath) : Except Fault (Option WidePath) :=
  (configurationNames.map fun (name : String) => project.joinText name).findM? machine.exists?

end StoryCatalog.Project
