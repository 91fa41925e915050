import StoryCatalog.Project.Inspect
import StoryCatalog.Service.Docs
import StoryCatalog.Service.Route
import StoryCatalog.Settings.Basic

/-!
# The service

The service is set up once from settings and a look at the project, and then answers each request by
itself: the index is fetched anew, and the project's files are read anew. The list of all stories is asked for
without a step in between, so it may read an index that is nested one level deeper than the others may.
-/

namespace StoryCatalog

structure Service where
  machine : Machine
  project : WidePath
  framework : WideText
  version : Option Nat
  /-- The address of the story server. -/
  server : WideText
  client : IndexClient
  /-- How deep the index may be nested where one story, or those of one kind, are asked for. -/
  depth : Nat

namespace Service

def apiVersion : String := "1.0.0"

def title : String := "Storybook API"

/-- The framework of the settings, or else the one that the project's manifest shows, which may be nested as deep
as `depth` says. -/
def findFramework (depth : Nat) (machine : Machine) (settings : Settings) : Project.Finding WideText :=
  match settings.framework with
  | none | some (.whole "") =>
    let found := Project.findFramework depth machine settings.project
    { found with result := .whole <$> found.result }
  | some framework => { result := .ok framework }

/-- The service of a project whose framework and version are known. -/
def of (machine : Machine) (settings : Settings) (framework : WideText) (version : Option Nat)
    (server : WideText) (client : IndexClient) (depth : Nat) : Service where
  machine
  project := settings.project
  framework
  version
  server
  client
  depth

/-- Sets the service up by a look at the project, whose manifest may be nested as deep as `manifestDepth` says. -/
def start (manifestDepth : Nat) (machine : Machine) (settings : Settings) (server : WideText)
    (client : IndexClient) (depth : Nat) : Except ManifestError Service := do
  let framework ← (findFramework manifestDepth machine settings).result
  let version ← (Project.findVersion manifestDepth machine settings.project).result
  return .of machine settings framework version server client depth

def endpoints : List (String × String) :=
  [("GET /api", "This documentation"),
    ("GET /api/stories", "Get all stories"),
    ("GET /api/stories/:storyId", "Get a specific story with details"),
    ("GET /api/docs/:storyId", "Get full documentation with code examples"),
    ("GET /api/stories/kind/:kind", "Get stories filtered by kind/category")]

def samples : List (String × String) :=
  [("List stories", "/api/stories"),
    ("Get story", "/api/stories/example-button--primary"),
    ("Get docs", "/api/docs/example-button--docs")]

def textsJson (texts : List (String × String)) : Json :=
  .obj (texts.map fun (name, text) => (.whole name, .text text))

def succeeded : WideText × Json := ("success", .bool true)

/-- What the service says of itself. -/
def overview (service : Service) : List (WideText × Json) :=
  [succeeded, ("name", .str title), ("version", .str apiVersion),
    ("storybookVersion", match service.version with
      | some n => if n = 0 then .str "unknown" else .int n
      | none => .str "unknown"),
    ("framework", .str service.framework), ("endpoints", textsJson endpoints), ("examples", textsJson samples)]

/-- The fields that list stories. One story that cannot be written leaves the list unanswered. -/
def list (stories : List (List (WideText × Json))) : Except ServiceError (List (WideText × Json)) := do
  return [succeeded, ("count", .int stories.length), ("stories", .arr (← stories.mapM recordJson))]

/-- The fields of the answer to a route. -/
def fields (service : Service) : Route → Except ServiceError (List (WideText × Json))
  | .health => .ok [("status", .str "ok")]
  | .overview => writable service.overview
  | .stories => do
    let entries ← (service.client.stories (service.depth + 1)).mapError .index
    list (entries.map (·.fields))
  | .storiesOfKind kind => do
    let entries ← (service.client.storiesOfKind service.depth kind).mapError .index
    return (← list (entries.map (·.summary))) ++ [(.whole "kind", .text kind)]
  | .story id => do
    let entry ← (service.client.story service.depth id).mapError .index
    let details ← entry.details service.machine service.project
    return [succeeded, ("story", ← recordJson details)]
  | .docs id => do
    let entry ← (service.client.story service.depth id).mapError .index
    let documentation ← entry.documentation service.machine service.project service.framework
    return [succeeded, ("docs", ← recordJson documentation)]

/-- Whether the answer to a route is made from the index. -/
def asksIndex : Route → Bool
  | .health | .overview => false
  | _ => true

def serve (service : Service) (route : Route) : Response :=
  match service.fields route with
  | .ok fields => .ofFields fields
  | .error error => .ofError service.server error

/-- The response to a request, and the fetch of the index that it took. -/
def answer (service : Service) (method path : String) : Response × Option IndexCall :=
  match Route.ofPath? path with
  | some route =>
    if method ≠ "GET" then (.wrongMethod, none)
    else (service.serve route, if asksIndex route then service.client.fetch.call else none)
  | none => (if Route.isRedirected path then .redirect else .notFound, none)

end Service

end StoryCatalog
