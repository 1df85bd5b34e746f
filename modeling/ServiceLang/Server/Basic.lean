import ServiceLang.Feature.Hover
import ServiceLang.Feature.Snippets
import ServiceLang.Feature.Symbols
import ServiceLang.Protocol.Capabilities
import ServiceLang.Protocol.Params
import ServiceLang.Server.Method
import ServiceLang.Server.Publisher
import ServiceLang.Server.Session

namespace ServiceLang

/-!
# The server

Handling a message changes documents at once and defers the rest: queries are answered, and
changed documents analyzed, by tasks that keep the snapshot taken when the message arrived.

* `Server.handle`: takes a message;
* `Server.perform`: does one deferred task;
* `Server.settle`: does all of them, the answers before the analyses.
-/

/-- A query with what it needs for its answer. -/
inductive Query where
  | hover (snapshot : Option Snapshot) (position : Position)
  | completion
  | symbols (snapshot : Option Snapshot)
  deriving DecidableEq, Repr

/-- The answer to a query. A document that is not open has nothing to show and no symbols. -/
def Query.answer : Query → Json
  | .hover snapshot position =>
    match snapshot.bind fun s => hoverAt s.text position with
    | some card => card.toJson
    | none => .null
  | .completion => .arr (completions.map (·.toJson))
  | .symbols snapshot =>
    .arr ((snapshot.map fun s => documentSymbols s.text).getD [] |>.map (·.toJson))

/-- Deferred work: the answer to a request, or the analysis of a document. -/
inductive Task where
  | answer (id : Json) (query : Query)
  | refresh (snapshot : Snapshot)
  deriving Repr

/-- Whether a task is the answer to a request. -/
def Task.isAnswer : Task → Bool
  | .answer _ _ => true
  | .refresh _ => false

/-- Whether the server goes on after a message. -/
inductive Flow where
  | proceed
  | exit (code : Nat)
  deriving DecidableEq, Repr

/-- The state of the server for one client. -/
structure Server where
  session : Session := .uninitialized
  documents : Documents := {}
  publisher : Publisher
  tasks : List Task := []

namespace Server

/-- The server before the first message. -/
def fresh (analyzer : Analyzer) : Server := { publisher := { analyzer } }

/-- What the user is told when the configuration changes. -/
def reloadNotice : Notice :=
  ⟨.warning, "webdsl: configuration changed; reload the window to apply it"⟩

/-- The outbox of the server. -/
def outbox (s : Server) : Outbox := s.publisher.outbox

/-- The server with another outbox. -/
def withOutbox (s : Server) (outbox : Outbox) : Server :=
  { s with publisher := { s.publisher with outbox } }

/-- Queues messages if the outbox is open. -/
def post (s : Server) (messages : List Outgoing) : Server := s.withOutbox (s.outbox.post messages)

/-- Defers a task. -/
def defer (s : Server) (task : Task) : Server := { s with tasks := s.tasks ++ [task] }

/-- The wording of an error in a reply: the bare message where the error is made for one. -/
def replyText : ServerError → String
  | .rpc _ message => message
  | e => e.message

/-- The reply to a request. -/
def replyTo (id : Json) : Except ServerError Json → Outgoing
  | .ok value => .result id value
  | .error e => .failure id e.code (replyText e)

/-- The parameters of a message. -/
def readParams {α : Type} (decode : Decode α) (params : Json) : Except ServerError α :=
  match decode params with
  | .ok a => .ok a
  | .error e => .error (.rpc ErrorCode.invalidParams s!"invalid params: {e.message}")

/-! ### Requests -/

/-- A query with the snapshot of its document. -/
def capture (s : Server) (method : QueryMethod) (params : Json) : Except ServerError Query := do
  s.session.check .query
  match method with
  | .hover =>
    let p ← readParams PositionParams.decode params
    return .hover (s.documents.get? p.document.uri) p.position
  | .completion =>
    let _ ← readParams PositionParams.decode params
    return .completion
  | .documentSymbol =>
    let p ← readParams SymbolParams.decode params
    return .symbols (s.documents.get? p.document.uri)

/-- The error of a request with an unknown method. -/
def unknownMethod (session : Session) (name : String) : ServerError :=
  if session = .uninitialized then Session.tooEarly
  else .rpc ErrorCode.methodNotFound s!"method not found: {name}"

/-- Takes a request. Queries are deferred; everything else is answered at once. -/
def handleRequest (s : Server) (id : Json) (method : RequestMethod) (params : Json) : Server :=
  match method with
  | .setUp =>
    match s.session.setUp with
    | .ok session => { s with session }.post [replyTo id (.ok initializeResult)]
    | .error e => s.post [replyTo id (.error e)]
  | .shutDown => { s with session := s.session.shutDown }.post [replyTo id (.ok .null)]
  | .query method =>
    match s.capture method params with
    | .ok query => s.defer (.answer id query)
    | .error e => s.post [replyTo id (.error e)]
  | .unknown name => s.post [replyTo id (.error (unknownMethod s.session name))]

/-! ### Notifications -/

/-- Applies a change to the documents, and gives the snapshot to analyze, if any. A closed
    document is cleared at once. -/
def mutate (s : Server) (method : MutationMethod) (params : Json) :
    Except ServerError (Option Snapshot × Server) := do
  match method with
  | .didOpen =>
    let p ← readParams OpenParams.decode params
    let (snapshot, documents) := s.documents.store p.document.uri p.document.text
    return (some snapshot, { s with documents })
  | .didChange =>
    let p ← readParams ChangeParams.decode params
    match p.changes.getLast? with
    | some change =>
      let (snapshot, documents) := s.documents.store p.document.uri change.text
      return (some snapshot, { s with documents })
    | none => throw (.rpc ErrorCode.invalidParams "didChange without content")
  | .didSave =>
    let p ← readParams SaveParams.decode params
    let (snapshot, documents) := s.documents.save p.document.uri p.text
    return (snapshot, { s with documents })
  | .didClose =>
    let p ← readParams CloseParams.decode params
    let (revision, documents) := s.documents.close p.document.uri
    return (none, { s with documents, publisher := s.publisher.clear p.document.uri revision })

/-- Takes a change of a document. A change that the session does not accept, or that cannot be
    read, does nothing. -/
def handleMutation (s : Server) (method : MutationMethod) (params : Json) : Server :=
  if s.session.acceptsMutation then
    match s.mutate method params with
    | .ok (some snapshot, s) => s.defer (.refresh snapshot)
    | .ok (none, s) => s
    | .error _ => s
  else s

/-- Takes a notification. -/
def handleNotification (s : Server) (method : NotificationMethod) (params : Json) :
    Server × Flow :=
  match method with
  | .confirmed => ({ s with session := s.session.confirm }, .proceed)
  | .exit => ({ s with session := .terminated }, .exit s.session.exitCode)
  | .configurationChanged => (s.post (noticeMessages reloadNotice), .proceed)
  | .mutation method => (s.handleMutation method params, .proceed)
  | .ignored => (s, .proceed)

/-- Takes a message. Responses are ignored. -/
def handle (s : Server) : Message → Server × Flow
  | .request id method params => (s.handleRequest id (.ofName method) params, .proceed)
  | .notification method params => s.handleNotification (.ofName method) params
  | .response _ _ _ => (s, .proceed)

/-! ### Deferred tasks -/

/-- Does one task. -/
def perform (s : Server) : Task → Server
  | .answer id query => s.post [.result id query.answer]
  | .refresh snapshot => { s with publisher := (s.publisher.refresh s.documents snapshot).2 }

/-- Does all deferred tasks: the answers first, then the analyses, each in order of arrival. -/
def settle (s : Server) : Server :=
  let answers := s.tasks.filter (·.isAnswer)
  let analyses := s.tasks.filter (! ·.isAnswer)
  (answers ++ analyses).foldl perform { s with tasks := [] }

/-- The server in words. -/
def describe (s : Server) : String :=
  s!"Server \x7b session: Session \x7b state: {s.session.name} \x7d, documents: {s.documents.size}, tasks: {s.tasks.length} \x7d"

end Server

end ServiceLang
