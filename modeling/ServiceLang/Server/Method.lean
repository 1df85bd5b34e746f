namespace ServiceLang

/-!
# Methods

The methods that the server knows, by their names in messages.
-/

/-- A question about a document. -/
inductive QueryMethod where
  | hover
  | completion
  | documentSymbol
  deriving DecidableEq, Repr

/-- What a request asks for. -/
inductive RequestMethod where
  | setUp
  | shutDown
  | query (method : QueryMethod)
  | unknown (name : String)
  deriving DecidableEq, Repr

/-- The request of a name. -/
def RequestMethod.ofName (name : String) : RequestMethod :=
  if name = "initialize" then .setUp
  else if name = "shutdown" then .shutDown
  else if name = "textDocument/hover" then .query .hover
  else if name = "textDocument/completion" then .query .completion
  else if name = "textDocument/documentSymbol" then .query .documentSymbol
  else .unknown name

/-- What happened to a document. -/
inductive MutationMethod where
  | didOpen
  | didChange
  | didSave
  | didClose
  deriving DecidableEq, Repr

/-- What a notification tells. -/
inductive NotificationMethod where
  | confirmed
  | exit
  | configurationChanged
  | mutation (method : MutationMethod)
  | ignored
  deriving DecidableEq, Repr

/-- The notification of a name; unknown ones are ignored. -/
def NotificationMethod.ofName (name : String) : NotificationMethod :=
  if name = "initialized" then .confirmed
  else if name = "exit" then .exit
  else if name = "workspace/didChangeConfiguration" then .configurationChanged
  else if name = "textDocument/didOpen" then .mutation .didOpen
  else if name = "textDocument/didChange" then .mutation .didChange
  else if name = "textDocument/didSave" then .mutation .didSave
  else if name = "textDocument/didClose" then .mutation .didClose
  else .ignored

end ServiceLang
