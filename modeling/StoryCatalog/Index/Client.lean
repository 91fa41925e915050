import StoryCatalog.Index.Address
import StoryCatalog.Index.Authority
import StoryCatalog.Index.Entry
import StoryCatalog.Json.Reader
import StoryCatalog.Log
import StoryCatalog.Number.Notation
import StoryCatalog.Text.Utf8

/-!
# Reading the index

The index is fetched anew for every question. How it is fetched is a value of this module: a source
that gives bytes or fails, or a connection that answers, refuses or breaks. What is fetched must be
a JSON document; one without entries lists no stories. How deep the document may be nested hangs on
who asks: every question comes with that depth.
-/

namespace StoryCatalog

open Text

/-- A length of time, kept as it was given. -/
inductive Seconds where
  | whole (value : Int)
  | real (value : Float)
  deriving DecidableEq, Repr

/-- Why the index could not be had. -/
inductive Unavailable where
  | invalid (reason : String)
  | status (code : Int)
  | unreachable (reason : String)
  /-- In the words of the source itself. -/
  | told (message : String)
  deriving DecidableEq, Repr

def Unavailable.message : Unavailable → String
  | .invalid reason => "Storybook returned an invalid index: " ++ reason
  | .status code => "Storybook responded with HTTP " ++ Number.intText code
  | .unreachable reason => "Storybook is not reachable: " ++ reason
  | .told message => message

/-- What asking the index may end with instead of an answer. -/
inductive IndexError where
  | unavailable (cause : Unavailable)
  | notFound (id : WideText)
  /-- A failure of the service in the words of the source. -/
  | service (message : String)
  /-- A failure of any other kind in the words of the source. -/
  | other (message : String)
  | unknownScheme (address : WideText)
  | authority (fault : AuthorityFault)
  | document (error : Json.ReadError)
  deriving DecidableEq, Repr

def IndexError.message : IndexError → WideText
  | .unavailable cause => cause.message
  | .notFound id => "Story \"" ++ id ++ "\" not found"
  | .service message => message
  | .other message => message
  | .unknownScheme address => "unknown url type: " ++ quoted address
  | .authority cause => cause.message
  | .document error => error.message

/-- How a connection to the story server turns out. -/
inductive Connection where
  | answers (body : List UInt8)
  | refuses (code : Int)
  /-- No connection could be opened. -/
  | unopened (reason : String)
  | breaks (reason : String)
  deriving DecidableEq, Repr

/-- Where the bytes of the index come from. -/
inductive IndexSource where
  | given (result : Except IndexError (List UInt8))
  | connection (connection : Connection)

/-- One attempt to fetch an address. -/
inductive IndexCall where
  | fetch (address : WideText) (timeout : Option Seconds)
  | request (address : WideText) (timeout : Option Seconds) (method accept : String)
  deriving DecidableEq, Repr

/-- What came of an attempt: the call that was made, if one was, what the log is told, and the bytes. -/
structure Fetched where
  call : Option IndexCall
  records : List LogRecord := []
  result : Except IndexError (List UInt8)

structure IndexClient where
  server : WideText
  timeout : Option Seconds
  source : IndexSource

namespace IndexClient

/-- A client of the server at an address. -/
def of (address : WideText) (timeout : Option Seconds) (source : IndexSource) : IndexClient where
  server := Index.withoutEndSlashes address
  timeout
  source

def address (client : IndexClient) : WideText :=
  Index.indexAddress client.server

/-- The reason a connection could not be opened, as it is shown. -/
def unopenedReason (reason : String) : String :=
  "<urlopen error " ++ reason ++ ">"

/-- What a connection gives, and what the log is told of a failure. -/
def overConnection (address : WideText) : Connection → List LogRecord × Except IndexError (List UInt8)
  | .answers body => ([], .ok body)
  | .refuses code =>
    ([⟨.warning, .indexClient, "Storybook index request failed with status " ++ Number.intText code⟩],
      .error (.unavailable (.status code)))
  | .unopened reason => unreachable (unopenedReason reason)
  | .breaks reason => unreachable reason
where
  unreachable (reason : String) : List LogRecord × Except IndexError (List UInt8) :=
    ([⟨.warning, .indexClient, "Storybook is not reachable at " ++ address ++ ": " ++ reason⟩],
      .error (.unavailable (.unreachable reason)))

/-- The request that is sent over a connection, where the address allows one. -/
def request? (client : IndexClient) : Except IndexError IndexCall := do
  let shown := Index.requestAddress client.address
  if !Index.hasScheme client.address then throw (.unknownScheme shown)
  (Index.checkAuthority (Index.authority shown.units)).mapError .authority
  return .request shown client.timeout "GET" "application/json"

def fetch (client : IndexClient) : Fetched :=
  match client.source with
  | .given result => { call := some (.fetch client.address client.timeout), result }
  | .connection connection =>
    match client.request? with
    | .error error => { call := none, result := .error error }
    | .ok request =>
      let (records, result) := overConnection client.address connection
      { call := some request, records, result }

/-- The entries of a document, by the names they are listed under. Only objects describe stories. -/
def entriesOf (document : Json) : Fields IndexEntry WideText :=
  match document.field? "entries" with
  | some (.obj entries) =>
    Fields.ofList (entries.filterMap fun
      | (id, .obj record) => some (id, .ofRecord (.obj record))
      | _ => none)
  | _ => {}

/-- The document that bytes hold. A fault in the text makes the index invalid; the limits on digits
and nesting are failures of their own. -/
def documentOf (depth : Nat) (bytes : List UInt8) : Except IndexError Json :=
  match decodeUtf8 bytes with
  | .error error => .error (.unavailable (.invalid error.message))
  | .ok text =>
    match Json.read depth text with
    | .ok document => .ok document
    | .error (.malformed fault position) =>
      .error (.unavailable (.invalid (Json.ReadError.malformed fault position).message))
    | .error error => .error (.document error)

/-- The index's entries in its order. -/
def entries (client : IndexClient) (depth : Nat) : Except IndexError (Fields IndexEntry WideText) := do
  return entriesOf (← documentOf depth (← client.fetch.result))

def stories (client : IndexClient) (depth : Nat) : Except IndexError (List IndexEntry) := do
  return (← client.entries depth).values

def story (client : IndexClient) (depth : Nat) (id : WideText) : Except IndexError IndexEntry := do
  match (← client.entries depth).get? id with
  | some entry => return entry
  | none => throw (.notFound id)

def storiesOfKind (client : IndexClient) (depth : Nat) (kind : WideText) :
    Except IndexError (List IndexEntry) := do
  return (← client.stories depth).filter (·.belongsTo kind)

end IndexClient

end StoryCatalog
