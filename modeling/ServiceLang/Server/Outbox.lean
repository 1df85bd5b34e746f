import ServiceLang.Protocol.Diagnostic
import ServiceLang.Protocol.Notice
import ServiceLang.Rpc.Message

namespace ServiceLang

/-!
# Outgoing messages

* `Outbox`: the queue that everything leaves through, in order;
* `Writer`: where the queued messages are written, and where that fails.
-/

/-- A queue of messages; nothing can be sent once it is closed. -/
structure Outbox where
  isOpen : Bool := true
  queue : List Outgoing := []
  deriving Repr

namespace Outbox

/-- Queues messages. -/
def sendAll (o : Outbox) (messages : List Outgoing) : Except ServerError Outbox :=
  if o.isOpen then .ok { o with queue := o.queue ++ messages } else .error .channelClosed

/-- Queues a message. -/
def send (o : Outbox) (m : Outgoing) : Except ServerError Outbox := o.sendAll [m]

/-- Queues messages if the queue is open. -/
def post (o : Outbox) (messages : List Outgoing) : Outbox :=
  match o.sendAll messages with
  | .ok o => o
  | .error _ => o

/-- Closes the queue for good. -/
def close (o : Outbox) : Outbox := { o with isOpen := false }

/-- Takes the queued messages out. -/
def take (o : Outbox) : List Outgoing × Outbox := (o.queue, { o with queue := [] })

end Outbox

/-- The message with all diagnostics of a document. -/
def publication (uri : String) (diagnostics : List Diagnostic) : Outgoing :=
  .notify "textDocument/publishDiagnostics" (DiagnosticSet.toJson ⟨uri, diagnostics⟩)

/-- The messages that show a notice to the user and log it. -/
def noticeMessages (n : Notice) : List Outgoing :=
  [.notify "window/showMessage" n.toJson, .notify "window/logMessage" n.toJson]

/-- The end where messages are written. The write of the given number may fail, counted from 0,
    or the flush behind it. -/
structure Writer where
  failingWrite : Option Nat := none
  failingFlush : Option Nat := none
  deriving DecidableEq, Repr

/-- The messages that get written: a failing write loses its message and all later ones, and a
    failing flush only the later ones. -/
def Writer.delivered {α : Type} (w : Writer) (messages : List α) : List α :=
  let upToWrite := match w.failingWrite with
    | some n => messages.take n
    | none => messages
  match w.failingFlush with
  | some n => upToWrite.take (n + 1)
  | none => upToWrite

end ServiceLang
