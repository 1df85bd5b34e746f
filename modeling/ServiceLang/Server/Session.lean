import ServiceLang.Rpc.Error

namespace ServiceLang

/-!
# The life of a session

A session is set up by a request and confirmed by a notification, serves documents and queries,
is shut down by a request and ends with a notification. Its state decides which messages count.
-/

/-- The state of a session. -/
inductive Session where
  | uninitialized
  | initialized
  | serving
  | shuttingDown
  | terminated
  deriving DecidableEq, Repr

/-- What a message does: it changes a document, or it asks about one. -/
inductive MessageClass where
  | mutation
  | query
  deriving DecidableEq, Repr

namespace Session

/-- The name of a state. -/
def name : Session → String
  | .uninitialized => "Uninitialized"
  | .initialized => "Initialized"
  | .serving => "Serving"
  | .shuttingDown => "ShuttingDown"
  | .terminated => "Terminated"

/-- The error of a request that comes too early. -/
def tooEarly : ServerError := .rpc ErrorCode.notInitialized "server not initialized"

/-- The error of a request that comes too late. -/
def tooLate : ServerError := .rpc ErrorCode.invalidRequest "server is shutting down"

/-- Sets the session up, which can be done once. -/
def setUp : Session → Except ServerError Session
  | .uninitialized => .ok .initialized
  | _ => .error (.rpc ErrorCode.invalidRequest "initialize may only be sent once")

/-- Whether a confirmation is due. -/
def awaitsConfirmation (s : Session) : Bool := s == .initialized

/-- Takes the client's confirmation, which counts only when it is due. -/
def confirm (s : Session) : Session := if s.awaitsConfirmation then .serving else s

/-- Shuts the session down; it stays shut down when this is repeated. -/
def shutDown : Session → Session
  | .terminated => .terminated
  | _ => .shuttingDown

/-- The exit code of a session that ends in this state. -/
def exitCode : Session → Nat
  | .shuttingDown => 0
  | _ => 1

/-- Whether a message of a class counts in this state. Queries are still answered while the
    session shuts down; documents no longer change then. -/
def check : Session → MessageClass → Except ServerError Unit
  | .uninitialized, _ => .error tooEarly
  | .initialized, _ => .ok ()
  | .serving, _ => .ok ()
  | .shuttingDown, .query => .ok ()
  | .shuttingDown, .mutation => .error tooLate
  | .terminated, _ => .error tooLate

/-- Whether documents may change in this state. -/
def acceptsMutation (s : Session) : Bool := (s.check .mutation).isOk

end Session

end ServiceLang
